import FieldMap.Model.Document
import FieldMap.Proofs.Inheritance
import FieldMap.Proofs.Model
import FieldMap.Proofs.Value.Written

/-!
Models declared by documents. A document of any shape declares a model or is reported as malformed,
but for one kind of entry: where everything before it has been declared and its fields can be read,
a name that is no text raises the fault of searching it.
-/

namespace FieldMap
open Outcome

/-! ## Names that are texts -/

namespace Model

variable {m m' : Model} {clause : String} {own : Fields} {source : Value}

end Model

namespace Model

variable {name fields : Value}

end Model

/-! ## Entries of a document -/

inductive Entry where
  | template (clause fields : Value)
  | container (clause body : Value)

namespace Entry
open Model

def clause : Entry → Value
  | template clause _ | container clause _ => clause

def declare (m : Model) : Entry → Except Fault Model
  | template clause fields => m.describeEntry clause fields
  | container clause body => m.declareEntry clause body

def fields? : Entry → Option Value
  | template _ fields => some fields
  | container _ body => (optionalEntries? body).map (entryOf "fields")

def finish (m : Model) (clause : String) (own : Fields) : Entry → Except Fault Model
  | template .. => m.describe clause own
  | container _ body =>
    m.addContainer clause own (entryOf "source" ((optionalEntries? body).getD []))

variable {m m' : Model} {e : Entry} {fault : Fault}

structure Fits (e : Entry) : Prop where
  clause : e.clause.fits = true
  fields : ∀ v, e.fields? = some v → v.fits = true

end Entry

/-! ## Whole documents -/

namespace Model

def entriesOf (document : Value) : Except Fault (List Entry) := do
  let .mapping sections := document.opened | throw .declarationShape
  let .mapping containers := (entryOf "containers" sections).opened | throw .containersShape
  if containers.isEmpty then throw .containersShape
  let some templates := optionalEntries? (entryOf "templates" sections) | throw .templatesShape
  return templates.map (fun entry => Entry.template entry.1 entry.2) ++
    containers.map fun entry => Entry.container entry.1 entry.2

def started (parent : Host) : Model := (new parent).withStandardModifiers

end Model

end FieldMap
