import FieldMap.Text.Blank
import FieldMap.Text.Cut
import FieldMap.Text.Digit

/-!
The arguments of the command. There are two things to ask for, `show` and `extract`; options may be
shortened as long as they stay unambiguous, and their values follow them or are attached to them.
Two dashes attached to an option are no value: the option is given and names nothing.
-/

namespace FieldMap.Command

inductive Task where
  | inspect (model : String) (container : Option String)
  | extract (model : String) (container : Option String) (data : List (Option String))
      (parent : Option String) (json : Bool)
  deriving DecidableEq, Repr

inductive NoTask where
  | help
  | malformed
  deriving DecidableEq, Repr

inductive Switch where
  | help
  | container
  | data
  | parent
  | json
  deriving DecidableEq, Repr

abbrev Spellings := List (String × Switch)

def inspectSpellings : Spellings :=
  [("-h", .help), ("--help", .help), ("-c", .container), ("--container", .container)]

def extractSpellings : Spellings :=
  inspectSpellings ++ [("-d", .data), ("--data", .data), ("-p", .parent), ("--parent", .parent),
    ("--json", .json)]

inductive Word where
  | positional (text : String)
  | switch (switch : Switch) (value : Option String)
  | separator
  | unknown
  deriving DecidableEq, Repr

namespace Word

private def isNegativeNumber (cs : List Char) : Bool :=
  match Text.withoutFinalBreak cs with
  | '-' :: cs =>
    match Text.cut '.' cs with
    | [digits] => !digits.isEmpty && digits.all Text.isDecimal
    | [whole, fraction] =>
      whole.all Text.isDecimal && !fraction.isEmpty && fraction.all Text.isDecimal
    | _ => false
  | _ => false

private def assignment (s : String) : String × Option String :=
  match Text.cutAt? ['='] s.toList with
  | some (name, value) => (String.ofList name, some (String.ofList value))
  | none => (s, none)

private def candidates (spellings : Spellings) (s : String) : List Word :=
  if s.startsWith "--" then
    let (name, value) := assignment s
    (spellings.filter fun entry => entry.1.startsWith name).map fun entry => switch entry.2 value
  else
    let short := String.ofList (s.toList.take 2)
    spellings.filterMap fun entry =>
      if entry.1 = short then some (switch entry.2 (some (String.ofList (s.toList.drop 2))))
      else if entry.1.startsWith s then some (switch entry.2 none)
      else none

def ofArgument? (spellings : Spellings) (s : String) : Option Word :=
  if !s.startsWith "-" then some (positional s)
  else match spellings.lookup s with
    | some found => some (switch found none)
    | none =>
      let (name, value) := assignment s
      if s = "-" then some (positional s)
      else match value.bind fun _ => spellings.lookup name with
        | some found => some (switch found value)
        | none =>
          match candidates spellings s with
          | [word] => some word
          | _ :: _ :: _ => none
          | [] =>
            if isNegativeNumber s.toList || s.toList.contains ' ' then some (positional s)
            else some unknown

def ofArguments? (spellings : Spellings) : List String → Option (List Word)
  | [] => some []
  | "--" :: rest => some (separator :: rest.map positional)
  | s :: rest => do return (← ofArgument? spellings s) :: (← ofArguments? spellings rest)

end Word

structure Given where
  model : Option String
  container : Option (Option String)
  data : List (Option String)
  parent : Option String
  json : Bool
  surplus : Bool

namespace Given

def nothing : Given := ⟨none, none, [], none, false, false⟩

def named (value : String) : Option String := if value = "--" then none else some value

def put? (g : Given) (value : String) : Switch → Option Given
  | .container => some { g with container := some (named value) }
  | .data => some { g with data := g.data ++ [named value] }
  | .parent => some { g with parent := named value }
  | .help | .json => none

def withoutSeparator : List Word → List Word
  | .separator :: rest => rest
  | rest => rest

/-- Goes through the arguments; `fuel` bounds their number. -/
def collect (g : Given) : Nat → List Word → Except NoTask Given
  | 0, _ | _, [] => .ok g
  | fuel + 1, .positional s :: rest =>
    if g.model.isNone then { g with model := some s }.collect fuel (withoutSeparator rest)
    else { g with surplus := true }.collect fuel rest
  | fuel + 1, .separator :: rest =>
    { g with surplus := g.surplus || g.model.isSome || rest.isEmpty }.collect fuel rest
  | fuel + 1, .unknown :: rest => { g with surplus := true }.collect fuel rest
  | _ + 1, .switch .help none :: _ => .error .help
  | fuel + 1, .switch .json none :: rest => { g with json := true }.collect fuel rest
  | fuel + 1, .switch s (some value) :: rest =>
    match g.put? value s with
    | some g => g.collect fuel rest
    | none => .error .malformed
  | fuel + 1, .switch s none :: .positional value :: rest =>
    match g.put? value s with
    | some g => g.collect fuel rest
    | none => .error .malformed
  | _ + 1, .switch _ none :: _ => .error .malformed

end Given

private def given (spellings : Spellings) (arguments : List String) : Except NoTask Given := do
  let some words := Word.ofArguments? spellings arguments | throw .malformed
  let g ← Given.nothing.collect words.length words
  if g.surplus then throw .malformed
  return g

def Task.ofArguments : List String → Except NoTask Task
  | "show" :: rest => do
    let g ← given inspectSpellings rest
    let some model := g.model | throw .malformed
    return .inspect model (g.container.getD none)
  | "extract" :: rest => do
    let g ← given extractSpellings rest
    let some model := g.model | throw .malformed
    let some container := g.container | throw .malformed
    return .extract model container g.data g.parent g.json
  | first :: _ =>
    match Word.ofArguments? (inspectSpellings.take 2) [first] with
    | some [.switch .help none] => .error .help
    | _ => .error .malformed
  | [] => .error .malformed

end FieldMap.Command
