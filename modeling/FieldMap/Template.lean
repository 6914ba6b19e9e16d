import FieldMap.Chain.Indirection
import FieldMap.Text.Blank

/-!
Templates: described field mappings that containers and later templates extend. A name clause lists
the templates that a declaration extends; their fields are overlaid in that order, and the fields
of the declaration itself are laid on top.
-/

namespace FieldMap

structure NameClause where
  name : String
  templates : List String
  deriving DecidableEq, Repr, Inhabited

namespace NameClause

def isExtended (clause : NameClause) : Bool := !clause.templates.isEmpty

def templatesOf (list : List Char) : List String :=
  let list := list.filter (!Text.isBlank ·)
  let list :=
    match list with
    | '[' :: _ => list.filter fun c => c != '[' && c != ']'
    | list => list
  ((Text.cut ',' list).filter (!·.isEmpty)).map String.ofList

def parse (s : String) : NameClause :=
  match Text.cutAt? " extends ".toList s.toList with
  | none => ⟨Text.strip s, []⟩
  | some (name, list) => ⟨String.ofList (Text.stripChars name), templatesOf list⟩

end NameClause

abbrev Templates := Catalog Fields

namespace Templates

def overlay (ts : Templates) (origin : String) (names : List String) : Except Fault Fields :=
  names.foldlM (fun fields name =>
    match ts.get? name with
    | some template => .ok (fields.merge template)
    | none => .error (.unknownTemplate name origin)) ∅

def resolve (ts : Templates) (clause : String) (own : Fields) : Except Fault (String × Fields) := do
  let parsed := NameClause.parse clause
  if parsed.isExtended then
    return (parsed.name, (← ts.overlay clause parsed.templates).merge own)
  else
    return (parsed.name, own)

def describe (ts : Templates) (clause : String) (own : Fields) :
    Except Fault (Templates × String) := do
  let (name, fields) ← ts.resolve clause own
  if name = "" then throw (.unnamedTemplate clause)
  return (ts.put name fields, name)

end Templates

end FieldMap
