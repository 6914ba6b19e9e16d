import FieldMap.Model
import FieldMap.Value.Written

/-!
The model as data: what guards and field keys can read of it by attribute.
-/

namespace FieldMap

def Fields.view (fields : Fields) : Value :=
  .readOnly (fields.entries.map fun (key, spec) => (.text key, (spec.map Value.text).getD .null))

/-- An operation of something as a value: it counts as true and is the same only as itself. -/
def operation (owner : List String) (name : String) : String × Except Fault Value :=
  (name, .ok (.object
    { kind := "method", text := name, truth := true, members := none, sized := false,
      identity := owner ++ [name] }
    []))

def operations (owner : List String) (names : List String) :
    List (String × Except Fault Value) :=
  names.map (operation owner)

def Registry.view {α : Type} (r : Registry α) : Value :=
  let identity := ["registry", r.kind]
  .object
    { kind := "Registry"
      text := r.form
      truth := r.size != 0
      members := some r.names
      sized := true
      identity }
    (("kind", .ok (.text r.kind)) ::
      operations identity ["register", "register_bulk", "get", "names"])

def Templates.view (ts : Templates) : Value :=
  .object
    { kind := "TemplateRegistry"
      text := "TemplateRegistry()"
      truth := !ts.isEmpty
      members := none
      sized := true
      identity := ["templates"] }
    (operations ["templates"] ["describe", "resolve", "get", "names"])

def Container.view (c : Container) (model : Option Value) : Value :=
  let identity := ["container", c.name]
  .object
    { kind := "Container"
      text := c.form
      truth := true
      members := none
      sized := false
      identity }
    ([("name", .ok (.text c.name)), ("fields", .ok c.fields.view), ("data", .ok c.data)] ++
      (model.toList.map fun v => ("model", .ok v)) ++
      operations identity ["field_specs", "set_source", "lookup", "get"])

namespace Model

def operationNames : List String :=
  ["add_field_processor", "add_field_processors_bulk", "add_modifier", "add_modifiers_bulk",
    "describe_container", "add_container", "add_containers", "get_container", "get_data",
    "set_source", "get_processor", "compile_chain", "resolve_root", "resolve_reference",
    "evaluate_condition", "extract", "get_fields", "build_request", "summary"]

def viewAround (m : Model) (inner : Option Value) : Value :=
  .object
    { kind := "BaseModel"
      text := "BaseModel()"
      truth := true
      members := none
      sized := false
      identity := ["model"] }
    (m.attributes ++
      [("parent", .ok (m.parent (inner.getD .undefined))), ("processors", .ok m.processors.view),
        ("modifiers", .ok m.modifiers.view), ("templates", .ok m.templates.view),
        ("containers",
          .ok (.mapping (m.containers.entries.map fun (name, c) => (.text name, c.view inner))))] ++
      operations ["model"] operationNames)

/-- The model as an object, unfolded so far that a path of the given length cannot tell it from one
that leads back to itself without end. -/
def view (m : Model) : Nat → Value
  | 0 => m.viewAround none
  | length + 1 => m.viewAround (some (m.view length))

end Model

end FieldMap
