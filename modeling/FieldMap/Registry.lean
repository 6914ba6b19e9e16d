import FieldMap.Catalog
import FieldMap.Path

/-!
Registries of callables by name. There is no removal; a name that is registered again stands for
the new callable. Names are texts as a rule, but whatever can be a key is taken.
-/

namespace FieldMap

universe u

inductive Candidate (α : Type u) where
  | callable (f : α)
  | nothing
  | other

structure Registry (α : Type u) where
  kind : String
  items : Catalog α
  /-- What is registered under names that are no texts. No spec leads there. -/
  others : List (Value × α)

namespace Registry

variable {α : Type u}

def empty (kind : String) : Registry α := ⟨kind, ∅, []⟩

def putOther (r : Registry α) (name : Value) (f : α) : Registry α :=
  if r.others.any (·.1.same name) then
    { r with others := r.others.map fun entry => if entry.1.same name then (entry.1, f) else entry }
  else { r with others := r.others ++ [(name, f)] }

def keyOf (name : Value) : Except Fault (String ⊕ Value) :=
  match name with
  | .text s => .ok (.inl s)
  | name =>
    match Path.unhashable? name with
    | some kind => .error (.unhashable kind)
    | none => .ok (.inr name)

def put (r : Registry α) (key : String ⊕ Value) (f : α) : Registry α :=
  match key with
  | .inl s => { r with items := r.items.put s f }
  | .inr name => r.putOther name f

def registerUnder (r : Registry α) (name : Value) (candidate : Candidate α) :
    Except Fault (Registry α) :=
  if !name.truthy then .error (.incompleteRegistration r.kind)
  else match candidate with
    | .nothing => .error (.incompleteRegistration r.kind)
    | .other =>
      match name.written with
      | .ok text => .error (.notCallable r.kind text)
      | .error fault => .error fault
    | .callable f =>
      match keyOf name with
      | .ok key => .ok (r.put key f)
      | .error fault => .error fault

def nameOf (name : Option String) : Value := (name.map .text).getD .null

def register (r : Registry α) (name : Option String) (candidate : Candidate α) :
    Except Fault (Registry α) :=
  r.registerUnder (nameOf name) candidate

theorem register_eq (r : Registry α) (name : Option String) (candidate : Candidate α) :
    r.register name candidate =
      if name.getD "" = "" then .error (.incompleteRegistration r.kind)
      else match candidate with
        | .nothing => .error (.incompleteRegistration r.kind)
        | .other => .error (.notCallable r.kind (name.getD ""))
        | .callable f => .ok { r with items := r.items.put (name.getD "") f } := by
  cases name with
  | none => rfl
  | some name =>
      by_cases nameless : name = ""
      · simp [register, registerUnder, nameOf, Value.truthy, nameless]
      · cases candidate <;>
          simp [register, registerUnder, nameOf, keyOf, put, Value.truthy, Value.written, nameless]

/-- Registers one candidate after the other. The first that is refused ends the registration; what
was registered before it stays. -/
def registerAll (r : Registry α) :
    List (Option String × Candidate α) → Registry α × Except Fault Unit
  | [] => (r, .ok ())
  | (name, candidate) :: rest =>
    match r.register name candidate with
    | .ok r => r.registerAll rest
    | .error fault => (r, .error fault)

def withAll (r : Registry α) (items : List (String × α)) : Registry α :=
  { r with items := r.items.putAll items }

def get? (r : Registry α) (name : String) : Option α := r.items.get? name

def names (r : Registry α) : List String := r.items.names

def size (r : Registry α) : Nat := r.items.size + r.others.length

def form (r : Registry α) : String := s!"Registry({r.kind}, {r.size} registered)"

end Registry

end FieldMap
