import FieldMap.Value.Written

/-!
Writing values as JSON text. Everything beyond ASCII is escaped. A value that JSON has no form for
is first turned into one that it has, as the caller decides. A collection that holds itself cannot
be written, and neither can more levels of collections than a limit allows, where there is one.
-/

namespace FieldMap.Json

open FieldMap.Number

inductive Layout where
  | inline
  | indented
  deriving DecidableEq, Repr

def escapedUnits (n : Nat) : List Char :=
  let unit (u : Nat) : List Char := '\\' :: 'u' :: Text.hexDigits 4 u
  if n < 0x10000 then unit n else unit (Text.highOf n) ++ unit (Text.lowOf n)

def escapedChar (c : Char) : List Char :=
  match c with
  | '"' => ['\\', '"']
  | '\\' => ['\\', '\\']
  | '\n' => ['\\', 'n']
  | '\r' => ['\\', 'r']
  | '\t' => ['\\', 't']
  | '\x08' => ['\\', 'b']
  | '\x0c' => ['\\', 'f']
  | c => if 0x20 ≤ c.toNat && c.toNat < 0x7f then [c] else escapedUnits (Text.codeOf c)

def stringText (s : String) : String :=
  String.ofList ('"' :: s.toList.flatMap escapedChar ++ ['"'])

def integerText (n : Int) : Except Fault String :=
  if isWritable n then .ok (String.ofList (Number.integerText n)) else .error (.digitLimit none)

def floatText : Binary64 → String
  | .nan .. => "NaN"
  | .infinite negative => if negative then "-Infinity" else "Infinity"
  | x => String.ofList x.text

def keyKind (layout : Layout) (v : Value) : String :=
  match layout with
  | .inline => v.kind
  | .indented => v.shortKind

def keyText (layout : Layout) : Value → Except Fault String
  | .text s => .ok s
  | .null => .ok "null"
  | .bool b => .ok (if b then "true" else "false")
  | .int n => integerText n
  | .float x => .ok (floatText x)
  | v => .error (.badJsonKey (keyKind layout v))

def bracketed (layout : Layout) (level : Nat) (opening closing : String) (parts : List String) :
    String :=
  if parts.isEmpty then opening ++ closing
  else match layout with
    | .inline => opening ++ String.intercalate ", " parts ++ closing
    | .indented =>
      let line (depth : Nat) : String := "\n" ++ String.ofList (List.replicate (2 * depth) ' ')
      opening ++ line (level + 1) ++ String.intercalate ("," ++ line (level + 1)) parts ++
        line level ++ closing

def hasRoom (limit : Option Nat) (level : Nat) : Bool := limit.all (level < ·)

namespace Layout

def excess : Layout → Fault
  | .inline => .tooDeep "encoding a JSON object"
  | .indented => .tooDeep "calling a Python object"

def standInLevel (level : Nat) : Layout → Nat
  | .inline => level
  | .indented => level + 1

def standInExcess : Layout → Fault
  | .inline => .tooDeep ""
  | .indented => .tooDeep "calling a Python object"

end Layout

mutual

/-- Writes a value; `standIn` gives the value written for one that JSON has no form for, which is
itself null or a text, and `cyclic` writes the collections that hold themselves. -/
def writeWith (layout : Layout) (limit : Option Nat) (standIn : Value → Except Fault Value)
    (cyclic : Nat → Value → Except Fault String) (level : Nat) : Value → Except Fault String
  | .null => .ok "null"
  | .bool b => .ok (if b then "true" else "false")
  | .int n => integerText n
  | .float x => .ok (floatText x)
  | .text s => .ok (stringText s)
  | .list items | .tuple items => do
    if !hasRoom limit level then throw layout.excess
    return bracketed layout level "[" "]"
      (← writeItems layout limit standIn cyclic (level + 1) items)
  | .mapping entries => do
    if !hasRoom limit level then throw layout.excess
    return bracketed layout level "\x7b" "\x7d"
      (← writeEntries layout limit standIn cyclic (level + 1) entries)
  | .cyclic ring cells index => cyclic level (.cyclic ring cells index)
  | v => do
    if !hasRoom limit (layout.standInLevel level) then throw layout.standInExcess
    match ← standIn v with
    | .text s => return stringText s
    | _ => return "null"
termination_by structural v => v

def writeItems (layout : Layout) (limit : Option Nat) (standIn : Value → Except Fault Value)
    (cyclic : Nat → Value → Except Fault String) (level : Nat) :
    List Value → Except Fault (List String)
  | [] => .ok []
  | item :: items =>
    return (← writeWith layout limit standIn cyclic level item) ::
      (← writeItems layout limit standIn cyclic level items)
termination_by structural items => items

def writeEntries (layout : Layout) (limit : Option Nat) (standIn : Value → Except Fault Value)
    (cyclic : Nat → Value → Except Fault String) (level : Nat) :
    List (Value × Value) → Except Fault (List String)
  | [] => .ok []
  | (key, value) :: entries =>
    return (stringText (← keyText layout key) ++ ": " ++
        (← writeWith layout limit standIn cyclic level value)) ::
      (← writeEntries layout limit standIn cyclic level entries)
termination_by structural entries => entries

end

/-- Writes a collection that holds itself as far as that goes: up to the place where it stands
inside of itself, or to a fault before it. -/
def writeCyclic (layout : Layout) (limit : Option Nat) (standIn : Value → Except Fault Value)
    (level : Nat) (v : Value) : Except Fault String :=
  let visit (deeper : Value → Nat → Except Fault String) (v : Value) (level : Nat) :=
    writeWith layout limit standIn (fun level v => deeper v level) level v
  v.throughRing (fun _ _ => .error .circular) visit (v.ringSize + 1) [] level

def write (layout : Layout) (standIn : Value → Except Fault Value) (v : Value) :
    Except Fault String :=
  writeWith layout none standIn (writeCyclic layout none standIn) 0 v

def writeWithin (limit : Nat) (layout : Layout) (standIn : Value → Except Fault Value)
    (v : Value) : Except Fault String :=
  writeWith layout (some limit) standIn (writeCyclic layout (some limit) standIn) 0 v

end FieldMap.Json
