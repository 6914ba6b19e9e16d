import FieldMap.FileTree.Document
import FieldMap.FileTree.Search
import FieldMap.Model
import FieldMap.Value.Written

/-!
Models declared by a document: a mapping with `containers` and, if there are any, `templates`. Both
are declared in the order of the document, so that a template extends only those above it.
-/

namespace FieldMap

structure Callables where
  processors : List (String × Processor)
  modifiers : List (String × Modifier)

namespace Callables

def none : Callables := ⟨[], []⟩

end Callables

namespace Model

def putSpec (fields : Fields) (entry : Value × Value) : Except Fault Fields := do
  let key ← entry.1.written
  let spec ← if entry.2.isNull then .ok "" else entry.2.written
  return fields.put key (some spec)

def fieldsOf (clause fields : Value) : Except Fault Fields :=
  match fields.opened with
  | .null => .ok ∅
  | .mapping entries => entries.foldlM putSpec ∅
  | _ => do throw (.fieldsShape (← clause.written))

def entryOf (name : String) (entries : List (Value × Value)) : Value :=
  (Value.member? name entries).getD .null

def optionalEntries? (v : Value) : Option (List (Value × Value)) :=
  if !v.truthy then some []
  else match v.opened with
    | .mapping entries => some entries
    | _ => none

def describeEntry (m : Model) (clause fields : Value) : Except Fault Model := do
  let own ← fieldsOf clause fields
  m.describe (← NameClause.textOf clause) own

def declareEntry (m : Model) (clause body : Value) : Except Fault Model := do
  let some body := optionalEntries? body | throw (.bodyShape (← clause.written))
  let own ← fieldsOf clause (entryOf "fields" body)
  m.addContainer (← NameClause.textOf clause) own (entryOf "source" body)

def ofDocument (document : Value) (parent : Host) (extra : Callables) : Except Fault Model := do
  let .mapping sections := document.opened | throw .declarationShape
  let .mapping containers := (entryOf "containers" sections).opened | throw .containersShape
  if containers.isEmpty then throw .containersShape
  let m := (new parent).withStandardModifiers
  let m := { m with
    processors := m.processors.withAll extra.processors
    modifiers := m.modifiers.withAll extra.modifiers }
  let some templates := optionalEntries? (entryOf "templates" sections) | throw .templatesShape
  let m ← templates.foldlM (fun m (clause, fields) => m.describeEntry clause fields) m
  containers.foldlM (fun m (clause, body) => m.declareEntry clause body) m

def declarationOrigin : Nat := 2

def load (t : FileTree) (path base : String) (parent : Host) (extra : Callables) :
    Except Fault Model := do
  ofDocument (← t.documentAt (← t.find path base) declarationOrigin) parent extra

end Model

end FieldMap
