import FieldMap.Issue
import FieldMap.Model.Reading

/-!
Extraction of a container: every field contributes at most one output and some issues, on its own,
and the contributions are merged in the order of the fields. Of several outputs under one name the
last counts, at the place of the first.
-/

namespace FieldMap

structure Contribution where
  output : Option (String × Value)
  problems : List Problem

structure Extraction where
  container : String
  fields : Catalog Value
  issues : List Issue

namespace Extraction

def payload (e : Extraction) : List (String × Value) :=
  e.fields.entries.filter fun entry => !entry.2.isUndefined

def payloadValue (e : Extraction) : Value :=
  .mapping (e.payload.map fun (name, v) => (.text name, v))

def hasIssues (e : Extraction) : Bool := !e.issues.isEmpty

def warnings (e : Extraction) : List String := e.issues.map Issue.text

def start (container : String) : Extraction := ⟨container, ∅, []⟩

def add (e : Extraction) (key : String) (c : Contribution) : Extraction where
  container := e.container
  fields :=
    match c.output with
    | some (name, v) => e.fields.put name v
    | none => e.fields
  issues := e.issues ++ c.problems.map fun problem => ⟨e.container, some key, problem⟩

end Extraction

namespace Model

def sourceOf (m : Model) (c : Container) (key : FieldKey) : Value × List Problem :=
  match m.resolve key.reference (some c) with
  | .ok v => (v, [])
  | .error fault => (.undefined, [.missingReference fault])

/-- The chain of a field. Specs that lead nowhere or are malformed are issues of the field; numbers
of too many digits are nobody's issue. -/
def chainOf (m : Model) (spec : Option String) : Except Fault (Except Problem Chain) :=
  match m.compile spec with
  | .ok chain => .ok (.ok chain)
  | .error fault =>
    match fault.family with
    | .reference | .recursionLimit => .ok (.error (.unresolvedSpec fault))
    | .malformedSpec => .ok (.error (.malformedSpec fault))
    | _ => .error fault

def runChain (chain : Chain) (v : Value) : Value × List Problem :=
  let unregistered := if chain.missing.isEmpty then [] else [.unregistered chain.missing]
  match chain.run v with
  | .ok outcome => (outcome, unregistered)
  | .error fault => (.undefined, unregistered ++ [.chainFailure fault])

def outputOf (m : Model) (c : Container) (key : FieldKey) (spec : Option String) :
    Except Fault Contribution := do
  let (v, missing) := m.sourceOf c key
  match ← m.chainOf spec with
  | .error problem => return ⟨some (key.outputName, .undefined), missing ++ [problem]⟩
  | .ok chain =>
    let (outcome, problems) := runChain chain v
    return ⟨some (key.outputName, outcome), missing ++ problems⟩

/-- What a field adds to the extraction of its container. -/
def contribution (m : Model) (c : Container) (key : FieldKey) (spec : Option String) :
    Except Fault Contribution :=
  match m.holds key.guard with
  | .error fault => .ok ⟨none, [.guardFailure fault]⟩
  | .ok false => .ok ⟨none, []⟩
  | .ok true => m.outputOf c key spec

def extractFields (m : Model) (c : Container) :
    Extraction → List (String × Option String) → Except Fault Extraction
  | e, [] => .ok e
  | e, (key, spec) :: rest => do
    let contribution ← m.contribution c (FieldKey.parse key) spec
    m.extractFields c (e.add key contribution) rest

def extract (m : Model) (name : String) : Except Fault Extraction := do
  let c ← m.requireContainer name
  if c.fields.isEmpty then return ⟨name, ∅, [⟨name, none, .noFields⟩]⟩
  m.extractFields c (.start name) c.fields.entries

end Model

end FieldMap
