import FieldMap.Modifier
import FieldMap.Registry
import FieldMap.Template
import FieldMap.Value.Equality

/-!
Models: named containers, each a mapping of fields with the data it reads, together with the
registries and templates they use. Every operation that fails leaves the model as it was; an
operation on several declarations stops at the first that fails.
-/

namespace FieldMap

structure Container where
  name : String
  fields : Fields
  data : Value

namespace Container

def dataOf (source : Value) : Value := if source.isNull then .mapping [] else source

def withSource (c : Container) (source : Value) : Container := { c with data := dataOf source }

def form (c : Container) : String :=
  "Container(" ++ Text.quotedString c.name ++ s!", {c.fields.size} fields)"

end Container

/-- What a model belongs to, by what it shows of itself. It may hold the model, and so it shows what
depends on what the model shows. -/
abbrev Host := Value → Value

namespace Host

def apart (v : Value) : Host := fun _ => v

def IsApart (host : Host) : Prop := ∀ model model', host model = host model'

theorem isApart_apart (v : Value) : (apart v).IsApart := fun _ _ => rfl

end Host

/-- A model. Besides what it declares it has a parent, which may show null, and attributes of its
own. The data of its containers are values by themselves and do not lead back to it. -/
structure Model where
  parent : Host
  attributes : List (String × Except Fault Value)
  processors : Registry Processor
  modifiers : Registry Modifier
  templates : Templates
  containers : Catalog Container

structure Declaration where
  name : Option Value
  fields : Fields
  source : Value

structure ContainerSummary where
  name : String
  fields : Nat
  hasData : Bool
  deriving DecidableEq, Repr

def NameClause.textOf (name : Value) : Except Fault String :=
  match name with
  | .text s => .ok s
  | .octets _ => .error .octetsExpected
  | v =>
    match v.members? with
    | some items =>
      let method := if items.any (Value.equal (.text " extends ")) then "split" else "strip"
      .error (.noAttribute v.kind method)
    | none => .error (.notSearchable v.kind)

namespace Model

def new (parent : Host) : Model where
  parent
  attributes := []
  processors :=
    ((Registry.empty "processor").withAll Processor.standard).withAll Processor.styles
  modifiers := .empty "modifier"
  templates := ∅
  containers := ∅

def withStandardModifiers (m : Model) : Model :=
  { m with modifiers := m.modifiers.withAll Modifier.standard }

def addProcessorUnder (m : Model) (name : Value) (candidate : Candidate Processor) :
    Except Fault Model :=
  return { m with processors := ← m.processors.registerUnder name candidate }

def addModifierUnder (m : Model) (name : Value) (candidate : Candidate Modifier) :
    Except Fault Model :=
  return { m with modifiers := ← m.modifiers.registerUnder name candidate }

def addProcessor (m : Model) (name : Option String) (candidate : Candidate Processor) :
    Except Fault Model :=
  m.addProcessorUnder (Registry.nameOf name) candidate

def addModifier (m : Model) (name : Option String) (candidate : Candidate Modifier) :
    Except Fault Model :=
  m.addModifierUnder (Registry.nameOf name) candidate

def describe (m : Model) (clause : String) (own : Fields) : Except Fault Model := do
  let (templates, _) ← m.templates.describe clause own
  return { m with templates }

/-- Declares a container. What it extends is looked up now, once. -/
def addContainer (m : Model) (clause : String) (own : Fields) (source : Value) :
    Except Fault Model := do
  let (name, fields) ← m.templates.resolve clause own
  if name = "" then throw (.unnamedContainer clause)
  return { m with
    containers := m.containers.put name ⟨name, fields, Container.dataOf source⟩ }

def declare (m : Model) (d : Declaration) : Except Fault Model := do
  match d.name with
  | none => throw (.missingKey "name")
  | some name => m.addContainer (← NameClause.textOf name) d.fields d.source

/-- Declares containers from left to right. The first declaration that fails ends the operation;
the containers before it stay declared. -/
def addContainers (m : Model) : List Declaration → Model × Except Fault Unit
  | [] => (m, .ok ())
  | d :: rest =>
    match m.declare d with
    | .ok m => m.addContainers rest
    | .error fault => (m, .error fault)

def container? (m : Model) (name : String) : Option Container := m.containers.get? name

def requireContainer (m : Model) (name : String) : Except Fault Container :=
  match m.container? name with
  | some c => .ok c
  | none => .error (.unknownContainer name)

def dataOf (m : Model) (name : String) : Except Fault Value :=
  return (← m.requireContainer name).data

def containerName (name : Value) : Except Fault String := do
  match ← Registry.keyOf name with
  | .inl s => return s
  | .inr name => throw (.unknownContainer (← name.written))

def setSource (m : Model) (name : String) (source : Value) : Except Fault Model := do
  let c ← m.requireContainer name
  return { m with containers := m.containers.put name (c.withSource source) }

def summary (m : Model) : List ContainerSummary :=
  m.containers.entries.map fun (_, c) => ⟨c.name, c.fields.size, c.data.truthy⟩

end Model

end FieldMap
