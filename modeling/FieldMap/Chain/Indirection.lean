import FieldMap.Catalog
import FieldMap.Fault
import FieldMap.FieldKey

/-!
Indirect processor specs. The spec `@container.field` stands for the spec that the container has
for the field, which may be indirect again; segments between the first and the last do not matter.
References are followed until a spec names its steps itself.
-/

namespace FieldMap

abbrev Fields := Catalog (Option String)

namespace Indirection

structure Target where
  container : String
  field : String
  deriving DecidableEq, Repr

def body? (spec : Option String) : Option (List Char) :=
  match Text.stripChars (spec.getD "").toList with
  | '@' :: body => some body
  | _ => none

def isIndirect (spec : Option String) : Bool := (body? spec).isSome

def target? (body : List Char) : Option Target :=
  match Text.cut '.' body with
  | container :: segment :: segments =>
    let field := (segment :: segments).getLastD []
    if container.isEmpty || field.isEmpty then none
    else some ⟨String.ofList container, String.ofList field⟩
  | _ => none

def spec? (origin : String) (fieldsOf : String → Option Fields) (target : Target) :
    Except Fault (Option String) :=
  match fieldsOf target.container with
  | none => .error (.missingContainer target.container origin)
  | some fields =>
    match FieldKey.find? fields.names target.field with
    | none => .error (.missingField target.container target.field origin)
    | some key => .ok ((fields.get? key).getD none)

/-- The outcome of reaching a target again, or one target too many. -/
def refusal (limit : Nat) (origin : String) (visited : List Target) (target : Target) :
    Option Fault :=
  if visited.contains target then
    some (.indirectionCycle ((visited ++ [target]).map fun t => (t.container, t.field)) origin)
  else if limit ≤ visited.length then some (.indirectionDepth limit origin)
  else none

def follow (limit : Nat) (origin : String) (fieldsOf : String → Option Fields) :
    Nat → List Target → Option String → Except Fault (Option String)
  | left, visited, spec =>
    match body? spec with
    | none => .ok spec
    | some body =>
      match target? body with
      | none => .error (.malformedIndirection (spec.getD "") origin)
      | some target =>
        match refusal limit origin visited target, left with
        | some fault, _ => .error fault
        | none, 0 => .error (.indirectionDepth limit origin)
        | none, left + 1 => do
          let next ← spec? origin fieldsOf target
          follow limit origin fieldsOf left (visited ++ [target]) next

def defaultLimit : Nat := 32

def resolve (limit : Nat) (fieldsOf : String → Option Fields) (spec : Option String) :
    Except Fault (Option String) :=
  follow limit (spec.getD "") fieldsOf limit [] spec

end Indirection

end FieldMap
