import FieldMap.Reference
import FieldMap.Text.Blank

/-!
Keys of field mappings. A key names the source of a value and may give it another name in the
output (`source as name`) and a guard on which it depends (`source if(guard)`), in either order.
Every text is a key; one without these clauses is the source itself.
-/

namespace FieldMap

structure FieldKey where
  raw : String
  reference : Reference
  rename : Option String
  guard : Option String
  deriving DecidableEq, Repr, Inhabited

namespace FieldKey

def outputName (key : FieldKey) : String := key.rename.getD key.reference.property

def afterOpening? : List Char → Option (List Char)
  | i :: f :: '(' :: rest =>
    if ['i', 'I', 'İ', 'ı'].contains i && ['f', 'F'].contains f then some rest else none
  | _ => none

def beforeLast? (mark : Char) : List Char → Option (List Char)
  | [] => none
  | c :: cs =>
    match beforeLast? mark cs with
    | some before => some (c :: before)
    | none => if c = mark then some [] else none

/-- The guard of a clause that stands here. It reaches to the last closing parenthesis of its line
and is not empty. -/
def guardHere? (cs : List Char) : Option (List Char) := do
  let rest ← afterOpening? cs
  let guard ← beforeLast? ')' (rest.takeWhile (· != '\n'))
  if guard.isEmpty then none else some guard

/-- The guards of all clauses and the text without the clauses; `pending` characters of a clause
are still to be passed over. -/
def withoutGuards (pending : Nat) : List Char → List (List Char) × List Char
  | [] => ([], [])
  | c :: cs =>
    match pending with
    | pending + 1 => withoutGuards pending cs
    | 0 =>
      match guardHere? (c :: cs) with
      | some guard =>
        let (guards, rest) := withoutGuards (guard.length + 3) cs
        (guard :: guards, rest)
      | none =>
        let (guards, rest) := withoutGuards 0 cs
        (guards, c :: rest)

def nonempty? (cs : List Char) : Option String :=
  if cs.isEmpty then none else some (String.ofList cs)

def parse (key : String) : FieldKey :=
  let (guards, rest) := withoutGuards 0 key.toList
  let guard := guards.head?.bind fun guard => nonempty? (Text.stripChars guard)
  let rest := Text.stripChars rest
  match Text.cutAt? " as ".toList rest with
  | some (source, name) =>
    { raw := key
      reference := Reference.parse (String.ofList (Text.stripChars source))
      rename := nonempty? (Text.stripChars name)
      guard }
  | none =>
    { raw := key, reference := Reference.parse (String.ofList rest), rename := none, guard }

/-- The key that produces a property: the property itself if it is a key, otherwise the first key
whose source ends in it. -/
def find? (keys : List String) (property : String) : Option String :=
  if keys.contains property then some property
  else keys.find? fun key => (parse key).reference.property == property

end FieldKey

end FieldMap
