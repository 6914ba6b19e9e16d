import FieldMap.Proofs.Independence
import FieldMap.Proofs.Indirection

/-!
Indirect specs written out. A model may be rewritten so that every spec that leads elsewhere is
replaced by the spec at the end of its references. All mappings change at once, yet what a reference
leads to stays the same: its walk only becomes shorter. Main statement: extraction does not notice.
-/

namespace FieldMap
open Outcome

namespace Model

def inlinedSpec (m : Model) (spec : Option String) : Option String :=
  match m.concreteSpec spec with
  | .ok concrete => concrete
  | .error _ => spec

def inlinedContainer (m : Model) (c : Container) : Container :=
  { c with fields := c.fields.map m.inlinedSpec }

/-- The model with every indirect spec of every container written out. -/
def inlined (m : Model) : Model :=
  { m with containers := m.containers.map m.inlinedContainer }

variable {m : Model}

theorem inlinedSpec_of_resolved {spec concrete : Option String}
    (resolved : m.concreteSpec spec = .ok concrete) : m.inlinedSpec spec = concrete := by
  simp only [inlinedSpec, resolved]

theorem container?_inlined (name : String) :
    m.inlined.container? name = (m.container? name).map m.inlinedContainer :=
  Catalog.get?_map ..

theorem fieldsOf?_inlined (name : String) :
    m.inlined.fieldsOf? name = (m.fieldsOf? name).map fun fields => fields.map m.inlinedSpec := by
  rw [fieldsOf?, fieldsOf?, container?_inlined, Option.map_map, Option.map_map]
  rfl

theorem sameData_inlined (m : Model) : m.SameData m.inlined where
  parent := rfl
  containers name := by
    rw [container?_inlined, Option.map_map]
    rfl

theorem leads_inlined {target : Indirection.Target} {next : Option String}
    (leads : Indirection.Leads m.fieldsOf? target next) :
    Indirection.Leads m.inlined.fieldsOf? target (m.inlinedSpec next) := by
  obtain ⟨fields, key, declared, found, stands⟩ := leads
  refine ⟨fields.map m.inlinedSpec, key, ?_, ?_, ?_⟩
  · rw [fieldsOf?_inlined, declared, Option.map_some]
  · rw [Catalog.names_map, found]
  · rw [Catalog.get?_map, stands, Option.map_some]

theorem concreteSpec_direct {spec concrete : Option String}
    (resolved : m.concreteSpec spec = .ok concrete) : Indirection.isIndirect concrete = false := by
  obtain ⟨-, -, -, direct⟩ := Indirection.walk_of_follow resolved
  exact direct

theorem concreteSpec_of_walk {count : Nat} {spec concrete : Option String}
    (walk : Indirection.Walk m.fieldsOf? count spec concrete)
    (direct : Indirection.isIndirect concrete = false) (short : count ≤ Indirection.defaultLimit) :
    m.concreteSpec spec = .ok concrete := by
  rw [concreteSpec, Indirection.resolve, Indirection.follow_of_walk walk direct (by simp) (by simp),
    if_pos short]

theorem concreteSpec_inlined {spec concrete : Option String}
    (resolved : m.concreteSpec spec = .ok concrete) :
    m.inlined.concreteSpec spec = .ok concrete := by
  obtain ⟨count, short, walk, direct⟩ := Indirection.walk_of_follow resolved
  cases walk with
  | stay => exact Indirection.follow_direct direct
  | @hop count _ next _ hop rest =>
      obtain ⟨target, names, leads⟩ := hop
      -- Where the first hop lands, the end of the rest of the walk is written now.
      have last : m.inlinedSpec next = concrete :=
        inlinedSpec_of_resolved (concreteSpec_of_walk rest direct (by omega))
      have lands := leads_inlined leads
      rw [last] at lands
      exact concreteSpec_of_walk (.hop ⟨target, names, lands⟩ (.stay concrete)) direct (by decide)

theorem compile_inlinedSpec {spec concrete : Option String}
    (resolved : m.concreteSpec spec = .ok concrete) :
    m.inlined.compile (m.inlinedSpec spec) = m.compile spec := by
  have settled : m.inlined.concreteSpec concrete = .ok concrete :=
    Indirection.follow_direct (concreteSpec_direct resolved)
  rw [inlinedSpec_of_resolved resolved, compile, compile, settled, resolved]
  rfl

theorem matches_inlined {c : Container}
    (resolved : ∀ entry ∈ c.fields.entries, ∃ concrete, m.concreteSpec entry.2 = .ok concrete)
    (confined : m.Confined c) : m.Matches m.inlined c (m.inlinedContainer c) where
  name := rfl
  data := rfl
  entries := by
    simp only [inlinedContainer, Catalog.map, List.map_map]
    apply List.map_congr_left
    intro entry member
    obtain ⟨concrete, here⟩ := resolved entry member
    simp only [Function.comp_apply, compile_inlinedSpec here]
  reads key declared reference read :=
    m.sameData_inlined.resolve_eq (confined key declared reference read)

theorem extract_inlined_eq {name : String}
    (resolved : ∀ c, m.container? name = some c → ∀ entry ∈ c.fields.entries,
      ∃ concrete, m.concreteSpec entry.2 = .ok concrete)
    (confined : ∀ c, m.container? name = some c → m.Confined c) :
    m.inlined.extract name = m.extract name := by
  have written := m.container?_inlined name
  cases declared : m.container? name with
  | none =>
      rw [declared, Option.map_none] at written
      rw [extract_undeclared declared, extract_undeclared written]
  | some c =>
      rw [declared, Option.map_some] at written
      have matched := matches_inlined (resolved c declared) (confined c declared)
      exact (matched.extract_eq declared written).symm

end Model

theorem extract_inlined {m : Model}
    (resolved : ∀ name c, m.container? name = some c → ∀ entry ∈ c.fields.entries,
      ∃ concrete, m.concreteSpec entry.2 = .ok concrete)
    (confined : ∀ name c, m.container? name = some c → m.Confined c) :
    (∀ name, m.inlined.extract name = m.extract name) ∧
    (∀ name c, m.container? name = some c → ∃ c', m.inlined.container? name = some c' ∧
      c'.fields.names = c.fields.names ∧ ∀ key spec, c.fields.get? key = some spec →
        ∃ concrete, m.concreteSpec spec = .ok concrete ∧ c'.fields.get? key = some concrete ∧
          Indirection.isIndirect concrete = false) ∧
    ∀ spec concrete, m.concreteSpec spec = .ok concrete →
      m.inlined.concreteSpec spec = .ok concrete := by
  refine ⟨?_, ?_, ?_⟩
  · exact fun name => Model.extract_inlined_eq (resolved name) (confined name)
  · intro name c declared
    refine ⟨m.inlinedContainer c, ?_, Catalog.names_map .., ?_⟩
    · rw [Model.container?_inlined, declared, Option.map_some]
    · intro key spec stands
      obtain ⟨concrete, here⟩ := resolved name c declared (key, spec) (Catalog.mem_of_get? stands)
      refine ⟨concrete, here, ?_, Model.concreteSpec_direct here⟩
      rw [Model.inlinedContainer, Catalog.get?_map, stands, Option.map_some,
        Model.inlinedSpec_of_resolved here]
  · exact fun spec concrete here => Model.concreteSpec_inlined here

def card : Container where
  name := "card"
  fields := .ofList [("owner as title", some "@person.first"), ("note", none),
    ("mail if(@style.strict == true)", some " @person.contact.mail ")]
  data := .mapping [(.text "owner", .text "ann lee"), (.text "mail", .text " a@b ")]

def contact : Container where
  name := "person"
  fields := .ofList [("first as name", some "@style.heading"), ("mail", some "@style.x.plain")]
  data := .mapping []

def style : Container where
  name := "style"
  fields := .ofList [("heading", some "upper.strip:3"), ("plain as address", some "trim.ghost")]
  data := .mapping [(.text "strict", .bool true)]

def stationery : Model :=
  { (Model.new (.apart .null)).withStandardModifiers with
    containers := .ofList [("card", card), ("person", contact), ("style", style)] }

theorem extract_inlined_stationery :
    stationery.inlined.extract "card" = stationery.extract "card" ∧
      stationery.inlined.concreteSpec (some "@card.owner") = .ok (some "upper.strip:3") := by
  have every : ∀ entry ∈ stationery.containers.entries,
      (∀ field ∈ entry.2.fields.entries, (stationery.concreteSpec field.2).isOk = true) ∧
        Root.model ∉ entry.2.roots := by decide +kernel
  have resolved : ∀ name c, stationery.container? name = some c → ∀ entry ∈ c.fields.entries,
      ∃ concrete, stationery.concreteSpec entry.2 = .ok concrete :=
    fun name c declared entry member =>
      exists_of_isOk ((every _ (Catalog.mem_of_get? declared)).1 entry member)
  obtain ⟨same, -, kept⟩ := extract_inlined resolved fun name c declared =>
    Model.confined_of_isApart (every _ (Catalog.mem_of_get? declared)).2
      fun _ => Host.isApart_apart .null
  exact ⟨same "card", kept _ _ rfl⟩

def inspector : Container where
  name := "inspector"
  fields := .ofList [("^.model.containers.person.fields.mail as spec", some "string")]
  data := .mapping []

def inspected : Model :=
  { (Model.new keeper).withStandardModifiers with
    containers := .ofList [("inspector", inspector), ("person", contact), ("style", style)] }

theorem extract_inspected :
    (∀ name c, inspected.container? name = some c →
      (∀ entry ∈ c.fields.entries, ∃ concrete, inspected.concreteSpec entry.2 = .ok concrete) ∧
        Root.model ∉ c.roots) ∧
      inspected.inlined.extract "inspector" ≠ inspected.extract "inspector" := by
  have every : ∀ entry ∈ inspected.containers.entries,
      (∀ field ∈ entry.2.fields.entries, (inspected.concreteSpec field.2).isOk = true) ∧
        Root.model ∉ entry.2.roots := by decide +kernel
  refine ⟨?_, extract_ne (by decide +kernel)⟩
  intro name c declared
  obtain ⟨resolved, whole⟩ := every _ (Catalog.mem_of_get? declared)
  exact ⟨fun entry member => exists_of_isOk (resolved entry member), whole⟩

end FieldMap
