import FieldMap.Chain
import FieldMap.Guard
import FieldMap.Model.View
import FieldMap.Path

/-!
What a model makes of references, guards and processor specs.
-/

namespace FieldMap

namespace Container

def lookup (c : Container) (path : Value) : Except Fault Lookup := Path.resolve c.data path

def get (c : Container) (path fallback : Value) : Except Fault Value := do
  let found ← c.lookup path
  return if found.isFound then found.value else fallback

end Container

namespace Model

/-- Where a reference starts: a value and how messages name it. -/
def start (m : Model) (reference : Reference) (within : Option Container) :
    Except Fault (Value × String) :=
  match reference with
  | .own _ =>
    match within with
    | none => .error (.noContainer reference.written)
    | some c => .ok (c.data, "container '" ++ c.name ++ "'")
  | .external .parent path _ => .ok (m.parent (m.view (path.length + 1)), "parent")
  | .external .model path _ => .ok (m.view (path.length + 1), "model")
  | .external (.container name) _ _ =>
    match m.container? name with
    | none => .error (.missingContainer name reference.written)
    | some c => .ok (c.data, "container '" ++ c.name ++ "'")

def pathOf : Reference → List String
  | .own _ => []
  | .external _ path _ => path

def resolveRoot (m : Model) (reference : Reference) (within : Option Container) :
    Except Fault Value := do
  let (root, label) ← m.start reference within
  if root.isNull then throw (.noRoot label reference.written)
  let path := pathOf reference
  match ← Path.walk root ((path.filter (· != "")).map .text) with
  | .found v =>
    if v.isNull then throw (.missingPath (".".intercalate path) label reference.written)
    return v
  | _ => throw (.missingPath (".".intercalate path) label reference.written)

def resolve (m : Model) (reference : Reference) (within : Option Container) :
    Except Fault Value := do
  let holder ← m.resolveRoot reference within
  return (← Path.read holder (.text reference.property)).value

def holds (m : Model) (guard : Option String) : Except Fault Bool :=
  Guard.evaluate (m.resolve · none) guard

def fieldsOf? (m : Model) (name : String) : Option Fields :=
  (m.container? name).map Container.fields

def concreteSpec (m : Model) (spec : Option String) : Except Fault (Option String) :=
  Indirection.resolve Indirection.defaultLimit m.fieldsOf? spec

def compile (m : Model) (spec : Option String) : Except Fault Chain := do
  Chain.compile (← m.concreteSpec spec) m.processors m.modifiers

end Model

end FieldMap
