import FieldMap.Proofs.Guard.Consultation
import FieldMap.Proofs.Merge
import FieldMap.Proofs.Model

/-!
What an extraction depends on. Of the data in a model it reads the places where the references of its
own keys and guards start, and no other; the specs of other containers may be followed, but not their
data. Main statement: new data for another container, or another parent, changes nothing for a
container that has no reference to it or to the model as a whole. The parent may hold the model, as
long as no reference of the container leads there.
-/

namespace FieldMap
open Outcome

def Reference.root? : Reference → Option Root
  | own _ => none
  | external root _ _ => some root

def FieldKey.references (key : FieldKey) : List Reference :=
  key.reference :: (key.guard.toList.flatMap Guard.tokens).map Reference.parse

def Container.roots (c : Container) : List Root :=
  c.fields.names.flatMap fun key => (FieldKey.parse key).references.filterMap Reference.root?

theorem Container.mem_roots {c : Container} {key : String} {reference : Reference} {root : Root}
    (declared : key ∈ c.fields.names) (read : reference ∈ (FieldKey.parse key).references)
    (starts : reference.root? = some root) : root ∈ c.roots :=
  List.mem_flatMap.mpr ⟨key, declared, List.mem_filterMap.mpr ⟨reference, read, starts⟩⟩

namespace Model

structure Alike (m m' : Model) (c : Container) : Prop where
  fields : m.fieldsOf? = m'.fieldsOf?
  processors : m.processors = m'.processors
  modifiers : m.modifiers = m'.modifiers
  reads : ∀ key ∈ c.fields.names, ∀ reference ∈ (FieldKey.parse key).references,
    m.resolve reference = m'.resolve reference

/-- A container and its counterpart in another model: of one name, with the same data and keys, and
with specs that compile to the same chains. What their keys refer to is the same. -/
structure Matches (m m' : Model) (c c' : Container) : Prop where
  name : c.name = c'.name
  data : c.data = c'.data
  entries : (c.fields.entries.map fun entry => (entry.1, m.compile entry.2)) =
    c'.fields.entries.map fun entry => (entry.1, m'.compile entry.2)
  reads : ∀ key ∈ c.fields.names, ∀ reference ∈ (FieldKey.parse key).references,
    m.resolve reference = m'.resolve reference

variable {m m' : Model} {c c' : Container}

theorem resolve_within (name : c.name = c'.name) (data : c.data = c'.data) (reference : Reference) :
    m.resolve reference (some c) = m.resolve reference (some c') := by
  cases reference with
  | own field => simp only [resolve, resolveRoot, start, name, data]
  | external root path property => cases root <;> rfl

namespace Matches

variable (matched : m.Matches m' c c')
include matched

theorem isEmpty_eq : c.fields.isEmpty = c'.fields.isEmpty := by
  have same := congrArg List.isEmpty matched.entries
  rw [List.isEmpty_map, List.isEmpty_map] at same
  exact same

theorem holds_eq {key : String} (declared : key ∈ c.fields.names) :
    m.holds (FieldKey.parse key).guard = m'.holds (FieldKey.parse key).guard := by
  refine (Guard.evaluate_congr fun reference asked => ?_).2
  have read : reference ∈ (FieldKey.parse key).references :=
    List.mem_cons_of_mem _ (Guard.mem_references asked)
  exact congrFun (matched.reads key declared _ read) none

theorem sourceOf_eq {key : String} (declared : key ∈ c.fields.names) :
    m.sourceOf c (FieldKey.parse key) = m'.sourceOf c' (FieldKey.parse key) := by
  have reads := matched.reads key declared _ List.mem_cons_self
  have within := resolve_within (m := m') matched.name matched.data (FieldKey.parse key).reference
  simp only [sourceOf, reads, within]

theorem contribution_eq {key : String} {spec spec' : Option String}
    (declared : key ∈ c.fields.names) (compiled : m.compile spec = m'.compile spec') :
    m.contribution c (FieldKey.parse key) spec = m'.contribution c' (FieldKey.parse key) spec' := by
  simp only [contribution, outputOf, chainOf, matched.holds_eq declared,
    matched.sourceOf_eq declared, compiled]

theorem extractFields_eq {entries entries' : List (String × Option String)} (start : Extraction)
    (inside : ∀ entry ∈ entries, entry.1 ∈ c.fields.names)
    (same : (entries.map fun entry => (entry.1, m.compile entry.2)) =
      entries'.map fun entry => (entry.1, m'.compile entry.2)) :
    m.extractFields c start entries = m'.extractFields c' start entries' := by
  induction entries generalizing start entries' with
  | nil =>
      rw [List.map_eq_nil_iff.mp same.symm]
      rfl
  | cons entry rest ih =>
      obtain ⟨entry', rest', rfl, first, others⟩ := List.map_eq_cons_iff.mp same.symm
      obtain ⟨key, spec⟩ := entry
      obtain ⟨key', spec'⟩ := entry'
      obtain ⟨rfl, compiled⟩ := Prod.mk.inj first
      have declared := inside (key', spec) List.mem_cons_self
      have later := fun e => ih e (fun other member => inside other (List.mem_cons_of_mem _ member))
        others.symm
      simp only [extractFields, matched.contribution_eq declared compiled.symm, later]

theorem extract_eq {name : String} (declared : m.container? name = some c)
    (declared' : m'.container? name = some c') : m.extract name = m'.extract name := by
  cases empty : c.fields.isEmpty with
  | true =>
      rw [extract_of_empty declared empty,
        extract_of_empty declared' (matched.isEmpty_eq.symm.trans empty)]
  | false =>
      rw [extract_of_declared declared empty,
        extract_of_declared declared' (matched.isEmpty_eq.symm.trans empty)]
      exact matched.extractFields_eq _ (fun entry member => List.mem_map_of_mem member)
        matched.entries

end Matches

namespace Alike

variable (alike : m.Alike m' c)
include alike

theorem compile_eq (spec : Option String) : m.compile spec = m'.compile spec := by
  simp only [compile, concreteSpec, alike.fields, alike.processors, alike.modifiers]

theorem extract_eq {name : String} (declared : m.container? name = some c)
    (declared' : m'.container? name = some c) : m.extract name = m'.extract name := by
  have matched : m.Matches m' c c :=
    { name := rfl
      data := rfl
      entries := by simp only [alike.compile_eq]
      reads := alike.reads }
  exact matched.extract_eq declared declared'

end Alike

/-- What a reference leads to from the parent as it is when the model shows some value. -/
def seen (m : Model) (reference : Reference) (shown : Value) : Except Fault Value :=
  ({ m with parent := .apart (m.parent shown) } : Model).resolve reference none

/-- A reference does not lead to the model as a whole, be it by itself or by way of the parent. -/
structure Leaves (m : Model) (reference : Reference) : Prop where
  model : reference.root? ≠ some .model
  parent : reference.root? = some .parent →
    ∀ shown shown', m.seen reference shown = m.seen reference shown'

def Confined (m : Model) (c : Container) : Prop :=
  ∀ key ∈ c.fields.names, ∀ reference ∈ (FieldKey.parse key).references, m.Leaves reference

theorem confined_of_isApart (whole : Root.model ∉ c.roots)
    (hosted : Root.parent ∈ c.roots → m.parent.IsApart) : m.Confined c := by
  intro key declared reference read
  refine ⟨fun root => whole (Container.mem_roots declared read root), fun root shown shown' => ?_⟩
  rw [seen, seen, hosted (Container.mem_roots declared read root) shown shown']

theorem seen_congr (same : m.parent = m'.parent) {reference : Reference}
    (fromParent : reference.root? = some .parent) (shown : Value) :
    m.seen reference shown = m'.seen reference shown := by
  cases reference with
  | own name => cases fromParent
  | external root path property =>
      cases fromParent
      simp only [seen, resolve, resolveRoot, start, Host.apart, same]

theorem resolve_eq_seen {reference : Reference} (fromParent : reference.root? = some .parent)
    (within : Option Container) :
    m.resolve reference within = m.seen reference (m.view ((pathOf reference).length + 1)) := by
  cases reference with
  | own name => cases fromParent
  | external root path property =>
      cases fromParent
      rfl

/-- The parent shows one thing for the one model and another for the other, and a reference that
leaves the model does not tell the difference. -/
theorem Leaves.resolve_eq {reference : Reference} (leaves : m.Leaves reference)
    (same : m.parent = m'.parent)
    (start : reference.root? ≠ some .parent → m.start reference = m'.start reference) :
    m.resolve reference = m'.resolve reference := by
  funext within
  by_cases fromParent : reference.root? = some .parent
  · have unmoved := leaves.parent fromParent (m.view ((pathOf reference).length + 1))
      (m'.view ((pathOf reference).length + 1))
    rw [resolve_eq_seen fromParent, unmoved, seen_congr same fromParent, resolve_eq_seen fromParent]
  · simp only [resolve, resolveRoot, start fromParent]

structure SameData (m m' : Model) : Prop where
  parent : m.parent = m'.parent
  containers : ∀ name, (m.container? name).map (fun c => (c.name, c.data)) =
    (m'.container? name).map fun c => (c.name, c.data)

theorem SameData.resolve_eq (same : m.SameData m') {reference : Reference}
    (leaves : m.Leaves reference) : m.resolve reference = m'.resolve reference := by
  refine leaves.resolve_eq same.parent fun notParent => ?_
  funext within
  cases reference with
  | own name => rfl
  | external root path property =>
      cases root with
      | model => exact absurd rfl leaves.model
      | parent => exact absurd rfl notParent
      | container name =>
          have found := same.containers name
          simp only [start]
          cases here : m.container? name with
          | none =>
              rw [here, Option.map_none, eq_comm, Option.map_eq_none_iff] at found
              rw [found]
          | some c =>
              rw [here, Option.map_some, eq_comm, Option.map_eq_some_iff] at found
              obtain ⟨c', here', parts⟩ := found
              obtain ⟨name_eq, data_eq⟩ := Prod.mk.inj parts
              simp only [here', name_eq, data_eq]

theorem resolve_setSource {d : String} {source : Value} (replaced : m.setSource d source = .ok m')
    {reference : Reference} (leaves : m.Leaves reference)
    (notOther : reference.root? ≠ some (.container d)) : m.resolve reference = m'.resolve reference := by
  have kept : m.parent = m'.parent := by
    obtain ⟨other, -, rfl⟩ := setSource_eq_ok.mp replaced
    rfl
  refine leaves.resolve_eq kept fun notParent => ?_
  funext within
  cases reference with
  | own name => rfl
  | external root path property =>
      cases root with
      | model => exact absurd rfl leaves.model
      | parent => exact absurd rfl notParent
      | container name =>
          have differ : name ≠ d := fun same => notOther (by rw [same]; rfl)
          simp only [start, container?_setSource replaced differ]

theorem resolve_withParent (parent : Host) {reference : Reference}
    (notModel : reference.root? ≠ some .model) (notParent : reference.root? ≠ some .parent) :
    ({ m with parent } : Model).resolve reference = m.resolve reference := by
  funext within
  cases reference with
  | own name => rfl
  | external root path property =>
      cases root with
      | model => exact absurd rfl notModel
      | parent => exact absurd rfl notParent
      | container name => rfl

end Model

theorem extract_independent {m : Model} {name : String} {c : Container}
    (declared : m.container? name = some c) :
    (m.Confined c →
      ∀ d other source, m.container? d = some other → d ≠ name → Root.container d ∉ c.roots →
        ∃ m', m.setSource d source = .ok m' ∧ m'.extract name = m.extract name) ∧
    (Root.model ∉ c.roots → Root.parent ∉ c.roots →
      ∀ parent, ({ m with parent } : Model).extract name = m.extract name) := by
  constructor
  · intro confined d other source declaredOther differ apart
    obtain ⟨m', replaced⟩ : ∃ m', m.setSource d source = .ok m' :=
      ⟨_, Model.setSource_eq_ok.mpr ⟨other, declaredOther, rfl⟩⟩
    refine ⟨m', replaced, ?_⟩
    have alike : m.Alike m' c :=
      { fields := (Model.fieldsOf?_setSource replaced).symm
        processors := by
          obtain ⟨-, -, rfl⟩ := Model.setSource_eq_ok.mp replaced
          rfl
        modifiers := by
          obtain ⟨-, -, rfl⟩ := Model.setSource_eq_ok.mp replaced
          rfl
        reads := fun key inside reference read =>
          Model.resolve_setSource replaced (confined key inside reference read)
            fun root => apart (Container.mem_roots inside read root) }
    have kept := Model.container?_setSource replaced differ.symm
    exact (alike.extract_eq declared (kept.trans declared)).symm
  · intro whole apart parent
    have alike : Model.Alike { m with parent } m c :=
      { fields := rfl
        processors := rfl
        modifiers := rfl
        reads := fun key inside reference read =>
          Model.resolve_withParent parent
            (fun root => whole (Container.mem_roots inside read root))
            fun root => apart (Container.mem_roots inside read root) }
    exact alike.extract_eq declared declared

def keeper : Host := fun model =>
  .object
    { kind := "Keeper"
      text := "Keeper()"
      truth := true
      members := none
      sized := false
      identity := ["keeper"] }
    [("model", .ok model), ("house", .ok (.mapping [(.text "title", .text "Villa")]))]

def visitor : Container where
  name := "visitor"
  fields := .ofList [("name", some "@person.name"), ("^.house.title as host", some "string"),
    ("city if(@place.open == true)", some "@person.city")]
  data := .mapping [(.text "name", .text "Ann"), (.text "city", .text " Oslo ")]

def person : Container where
  name := "person"
  fields := .ofList [("name", some "upper"), ("city", some "trim")]
  data := .mapping [(.text "name", .text "Bob")]

def household : Model :=
  { Model.new keeper with containers := .ofList [("visitor", visitor), ("person", person)] }

theorem confined_visitor : household.Confined visitor := by
  have house : ∀ key ∈ visitor.fields.names, ∀ reference ∈ (FieldKey.parse key).references,
      reference.root? = some .parent → reference = .external .parent ["house"] "title" := by
    decide +kernel
  have whole : Root.model ∉ visitor.roots := by decide +kernel
  intro key declared reference read
  refine ⟨fun root => whole (Container.mem_roots declared read root), fun root shown shown' => ?_⟩
  rw [house key declared reference read root]
  rfl

theorem extract_independent_household :
    (∃ m', household.setSource "person" (.list [.int 7]) = .ok m' ∧
      m'.extract "visitor" = household.extract "visitor") ∧
    ({ household with parent := .apart (.text "home") } : Model).extract "person" =
      household.extract "person" := by
  have visiting : household.container? "visitor" = some visitor := rfl
  have living : household.container? "person" = some person := rfl
  constructor
  · have apart := (extract_independent visiting).1 confined_visitor
    exact apart "person" person (.list [.int 7]) living (by decide) (by decide +kernel)
  · exact (extract_independent living).2 (by decide +kernel) (by decide +kernel)
      (.apart (.text "home"))

def Extraction.texts (e : Extraction) : List (String × Except Fault String) :=
  e.fields.entries.map fun entry => (entry.1, entry.2.written)

theorem extract_ne {m m' : Model} {name : String}
    (differ : (m.extract name).map Extraction.texts ≠ (m'.extract name).map Extraction.texts) :
    m.extract name ≠ m'.extract name :=
  fun same => differ (congrArg (Except.map Extraction.texts) same)

def watcher : Container where
  name := "watcher"
  fields := .ofList [("^.model.containers.person.data.name as seen", some "string")]
  data := .mapping []

def watched : Model :=
  { Model.new keeper with containers := .ofList [("watcher", watcher), ("person", person)] }

theorem extract_watched :
    watched.container? "watcher" = some watcher ∧ Root.model ∉ watcher.roots ∧
      Root.container "person" ∉ watcher.roots ∧
      ∃ m', watched.setSource "person" (.mapping [(.text "name", .text "Eve")]) = .ok m' ∧
        m'.extract "watcher" ≠ watched.extract "watcher" := by
  refine ⟨rfl, by decide +kernel, by decide +kernel, _, rfl, extract_ne ?_⟩
  decide +kernel

end FieldMap
