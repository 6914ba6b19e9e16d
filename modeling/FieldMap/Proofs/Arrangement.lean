import FieldMap.Proofs.History
import FieldMap.Proofs.Independence
import Mathlib.Data.List.Flatten
import Mathlib.Data.List.Nodup

/-!
Declarations and registrations in any order. Each puts something under a name of its own, and nothing
that is read of a model later depends on the order of names. Main statement: two models that are set
up by the same calls in different orders have the same containers, resolve specs alike and extract
alike.
-/

namespace FieldMap
open Outcome

/-! ## Registrations -/

namespace Registry

variable {α : Type} {r : Registry α}

def accepted : List (Option String × Candidate α) → List (String × α)
  | (some name, .callable f) :: rest => if name = "" then [] else (name, f) :: accepted rest
  | _ => []

theorem registerAll_eq (r : Registry α) (offers : List (Option String × Candidate α)) :
    (r.registerAll offers).1 = r.withAll (accepted offers) := by
  induction offers generalizing r with
  | nil => rfl
  | cons offer rest ih =>
      obtain ⟨name, candidate⟩ := offer
      cases name with
      | none => cases candidate <;> rfl
      | some name =>
          by_cases nameless : name = ""
          · subst nameless
            cases candidate <;> rfl
          · cases candidate with
            | callable f =>
                have taken : r.register (some name) (.callable f) =
                    .ok { r with items := r.items.put name f } := by
                  simp [register_eq, nameless]
                simp only [registerAll, taken, ih, accepted, nameless, if_false]
                rfl
            | nothing => simp [registerAll, register_eq, accepted, withAll, Catalog.putAll, nameless]
            | other => simp [registerAll, register_eq, accepted, withAll, Catalog.putAll, nameless]

theorem accepted_sublist (offers : List (Option String × Candidate α)) :
    ((accepted offers).map Prod.fst).Sublist (offers.map fun offer => offer.1.getD "") := by
  induction offers with
  | nil => exact List.Sublist.slnil
  | cons offer rest ih =>
      obtain ⟨name, candidate⟩ := offer
      cases name with
      | none => exact List.nil_sublist _
      | some name =>
          cases candidate with
          | nothing => exact List.nil_sublist _
          | other => exact List.nil_sublist _
          | callable f =>
              rw [accepted]
              split
              · exact List.nil_sublist _
              · exact ih.cons_cons name

end Registry

/-! ## What calls put into a model -/

inductive Place where
  | container (name : String)
  | processor (name : String)
  | modifier (name : String)
  deriving DecidableEq

namespace Call

def places : Call → List Place
  | .addContainer clause _ _ => [.container (NameClause.parse clause).name]
  | .addProcessor name _ => [.processor (name.getD "")]
  | .addProcessors offers => offers.map fun offer => .processor (offer.1.getD "")
  | .addModifier name _ => [.modifier (name.getD "")]
  | .addModifiers offers => offers.map fun offer => .modifier (offer.1.getD "")
  | .describe .. | .setSource .. => []

/-- The call declares a container that has a name and extends described templates, or it registers
callables. -/
def Arranges (ts : Templates) : Call → Prop
  | .addContainer clause _ _ => (NameClause.parse clause).name ≠ "" ∧
      ∀ template ∈ (NameClause.parse clause).templates, template ∈ ts.names
  | .describe .. | .setSource .. => False
  | _ => True

instance (ts : Templates) : (call : Call) → Decidable (call.Arranges ts)
  | .addContainer .. => inferInstanceAs (Decidable (_ ∧ _))
  | .describe .. | .setSource .. => inferInstanceAs (Decidable False)
  | .addProcessor .. | .addProcessors .. | .addModifier .. | .addModifiers .. =>
    inferInstanceAs (Decidable True)

def containers (ts : Templates) : Call → List (String × Container)
  | .addContainer clause own source =>
    match ts.resolve clause own with
    | .ok (name, fields) =>
      if name = "" then [] else [(name, ⟨name, fields, Container.dataOf source⟩)]
    | .error _ => []
  | _ => []

def processors : Call → List (String × Processor)
  | .addProcessor name candidate => Registry.accepted [(name, candidate)]
  | .addProcessors offers => Registry.accepted offers
  | _ => []

def modifiers : Call → List (String × Modifier)
  | .addModifier name candidate => Registry.accepted [(name, candidate)]
  | .addModifiers offers => Registry.accepted offers
  | _ => []

end Call

namespace Model

def arranged (m : Model) (calls : List Call) : Model :=
  { m with
    processors := m.processors.withAll (calls.flatMap Call.processors)
    modifiers := m.modifiers.withAll (calls.flatMap Call.modifiers)
    containers := m.containers.putAll (calls.flatMap (Call.containers m.templates)) }

variable {m : Model} {call : Call} {calls calls' : List Call}

theorem arranged_cons (call : Call) (calls : List Call) :
    m.arranged (call :: calls) = (m.arranged [call]).arranged calls := by
  simp [arranged, Registry.withAll, Catalog.putAll]

theorem after_addProcessor (name : Option String) (candidate : Candidate Processor) :
    m.after (.addProcessor name candidate) = m.after (.addProcessors [(name, candidate)]) := by
  rw [after, after, Registry.registerAll, addProcessor, addProcessorUnder, Registry.register]
  cases m.processors.registerUnder (Registry.nameOf name) candidate <;> rfl

theorem after_addModifier (name : Option String) (candidate : Candidate Modifier) :
    m.after (.addModifier name candidate) = m.after (.addModifiers [(name, candidate)]) := by
  rw [after, after, Registry.registerAll, addModifier, addModifierUnder, Registry.register]
  cases m.modifiers.registerUnder (Registry.nameOf name) candidate <;> rfl

theorem after_addProcessors (offers : List (Option String × Candidate Processor)) :
    m.after (.addProcessors offers) = m.arranged [.addProcessors offers] := by
  rw [after, Registry.registerAll_eq, arranged, List.flatMap_singleton]
  rfl

theorem after_addModifiers (offers : List (Option String × Candidate Modifier)) :
    m.after (.addModifiers offers) = m.arranged [.addModifiers offers] := by
  rw [after, Registry.registerAll_eq, arranged, List.flatMap_singleton, List.flatMap_singleton]
  rfl

theorem after_eq_arranged (arranges : call.Arranges m.templates) :
    m.after call = m.arranged [call] := by
  cases call with
  | describe clause own => exact arranges.elim
  | setSource name source => exact arranges.elim
  | addContainer clause own source =>
      rw [after, addContainer, arranged, List.flatMap_singleton, List.flatMap_singleton,
        List.flatMap_singleton, Call.containers]
      cases m.templates.resolve clause own with
      | error fault => rfl
      | ok declared =>
          obtain ⟨name, fields⟩ := declared
          by_cases nameless : name = ""
          · subst nameless
            rfl
          · simp only [ok_bind, nameless, if_false]
            rfl
  | addProcessor name candidate =>
      rw [after_addProcessor, after_addProcessors]
      rfl
  | addProcessors offers => exact after_addProcessors offers
  | addModifier name candidate =>
      rw [after_addModifier, after_addModifiers]
      rfl
  | addModifiers offers => exact after_addModifiers offers

theorem run_eq_arranged (arranges : ∀ call ∈ calls, call.Arranges m.templates) :
    m.run calls = m.arranged calls := by
  induction calls generalizing m with
  | nil => rfl
  | cons call calls ih =>
      have first := after_eq_arranged (arranges call List.mem_cons_self)
      have later : (m.arranged [call]).run calls = (m.arranged [call]).arranged calls :=
        ih fun other member => arranges other (List.mem_cons_of_mem call member)
      rw [arranged_cons, ← later, ← first]
      rfl

end Model

/-! ## Different places -/

namespace Call

theorem container_places (ts : Templates) (call : Call) :
    ((call.containers ts).map fun entry => Place.container entry.1).Sublist call.places := by
  cases call with
  | addContainer clause own source =>
      rw [containers]
      cases resolved : ts.resolve clause own with
      | error fault => exact List.nil_sublist _
      | ok declared =>
          obtain ⟨name, fields⟩ := declared
          obtain ⟨rfl, -⟩ := Templates.resolve_eq_ok.mp resolved
          dsimp only
          split
          · exact List.nil_sublist _
          · exact List.Sublist.refl _
  | _ => exact List.nil_sublist _

theorem processor_places (call : Call) :
    (call.processors.map fun entry => Place.processor entry.1).Sublist call.places := by
  have bulk (offers : List (Option String × Candidate Processor)) :=
    (Registry.accepted_sublist offers).map Place.processor
  simp only [List.map_map] at bulk
  cases call with
  | addProcessor name candidate => exact bulk [(name, candidate)]
  | addProcessors offers => exact bulk offers
  | _ => exact List.nil_sublist _

theorem modifier_places (call : Call) :
    (call.modifiers.map fun entry => Place.modifier entry.1).Sublist call.places := by
  have bulk (offers : List (Option String × Candidate Modifier)) :=
    (Registry.accepted_sublist offers).map Place.modifier
  simp only [List.map_map] at bulk
  cases call with
  | addModifier name candidate => exact bulk [(name, candidate)]
  | addModifiers offers => exact bulk offers
  | _ => exact List.nil_sublist _

variable {calls : List Call}

theorem nodup_names {α : Type} {put : Call → List (String × α)} {place : String → Place}
    (within : ∀ call, ((put call).map fun entry => place entry.1).Sublist call.places)
    (distinct : (calls.flatMap places).Nodup) : ((calls.flatMap put).map Prod.fst).Nodup := by
  have placed : ((calls.flatMap put).map fun entry => place entry.1).Sublist
      (calls.flatMap places) := by
    rw [List.map_flatMap]
    exact List.Sublist.flatMap_right _ fun call _ => within call
  have different := distinct.sublist placed
  apply List.Nodup.of_map place
  rwa [List.map_map]

end Call

/-! ## Models with the same content -/

theorem Chain.compile_congr {processors processors' : Registry Processor}
    {modifiers modifiers' : Registry Modifier}
    (sameProcessors : ∀ name, processors.get? name = processors'.get? name)
    (sameModifiers : ∀ name, modifiers.get? name = modifiers'.get? name) (spec : Option String) :
    compile spec processors modifiers = compile spec processors' modifiers' := by
  have steps : compileStep (spec.getD "") processors modifiers =
      compileStep (spec.getD "") processors' modifiers' := by
    funext piece
    simp only [compileStep, sameProcessors, sameModifiers]
  simp only [compile, steps]

namespace Model

structure SameContent (m m' : Model) : Prop where
  parent : m.parent = m'.parent
  processors : ∀ name, m.processors.get? name = m'.processors.get? name
  modifiers : ∀ name, m.modifiers.get? name = m'.modifiers.get? name
  containers : ∀ name, m.container? name = m'.container? name

namespace SameContent

variable {m m' : Model} (same : m.SameContent m')
include same

theorem fieldsOf?_eq : m.fieldsOf? = m'.fieldsOf? := by
  funext name
  rw [fieldsOf?, fieldsOf?, same.containers]

theorem concreteSpec_eq (spec : Option String) : m.concreteSpec spec = m'.concreteSpec spec := by
  rw [concreteSpec, concreteSpec, same.fieldsOf?_eq]

theorem compile_eq (spec : Option String) : m.compile spec = m'.compile spec := by
  rw [compile, compile, same.concreteSpec_eq]
  congr 1
  funext concrete
  exact Chain.compile_congr same.processors same.modifiers concrete

theorem sameData : m.SameData m' where
  parent := same.parent
  containers name := by rw [same.containers]

theorem extract_eq {name : String} (confined : ∀ c, m.container? name = some c → m.Confined c) :
    m.extract name = m'.extract name := by
  have same_here := same.containers name
  cases declared : m.container? name with
  | none => rw [extract_undeclared declared, extract_undeclared (same_here.symm.trans declared)]
  | some c =>
      have matched : m.Matches m' c c :=
        { name := rfl
          data := rfl
          entries := by simp only [same.compile_eq]
          reads := fun key inside reference read =>
            same.sameData.resolve_eq (confined c declared key inside reference read) }
      exact matched.extract_eq declared (same_here.symm.trans declared)

end SameContent

variable {m : Model} {calls calls' : List Call}

theorem arranged_sameContent (perm : calls.Perm calls')
    (distinct : (calls.flatMap Call.places).Nodup) :
    (m.arranged calls).SameContent (m.arranged calls') where
  parent := rfl
  processors :=
    Catalog.get?_putAll_of_perm (Call.nodup_names Call.processor_places distinct)
      (perm.flatMap_right _) m.processors.items
  modifiers :=
    Catalog.get?_putAll_of_perm (Call.nodup_names Call.modifier_places distinct)
      (perm.flatMap_right _) m.modifiers.items
  containers :=
    Catalog.get?_putAll_of_perm (Call.nodup_names (Call.container_places m.templates) distinct)
      (perm.flatMap_right _) m.containers

theorem container?_arranged {clause : String} {own : Fields} {source : Value}
    (distinct : (calls.flatMap Call.places).Nodup)
    (declares : Call.addContainer clause own source ∈ calls)
    (arranges : (Call.addContainer clause own source).Arranges m.templates) :
    ∃ name fields, m.templates.resolve clause own = .ok (name, fields) ∧
      (m.arranged calls).container? name = some ⟨name, fields, Container.dataOf source⟩ := by
  obtain ⟨named, described⟩ := arranges
  obtain ⟨fields, resolved⟩ := Templates.resolve_of_described described own
  refine ⟨_, fields, resolved, ?_⟩
  apply Catalog.get?_putAll_of_mem (Call.nodup_names (Call.container_places m.templates) distinct)
  refine List.mem_flatMap.mpr ⟨_, declares, ?_⟩
  simp [Call.containers, resolved, named]

end Model

/-! ## The statement -/

theorem extract_permuted {m : Model} {calls calls' : List Call} (perm : calls.Perm calls')
    (arranges : ∀ call ∈ calls, call.Arranges m.templates)
    (distinct : (calls.flatMap Call.places).Nodup) :
    (∀ clause own source, Call.addContainer clause own source ∈ calls →
      ∃ name fields, m.templates.resolve clause own = .ok (name, fields) ∧
        (m.run calls).container? name = some ⟨name, fields, Container.dataOf source⟩) ∧
    (∀ name, (m.run calls).container? name = (m.run calls').container? name) ∧
    (∀ spec, (m.run calls).concreteSpec spec = (m.run calls').concreteSpec spec ∧
      (m.run calls).compile spec = (m.run calls').compile spec) ∧
    (∀ name, (∀ c, (m.run calls).container? name = some c → (m.run calls).Confined c) →
      (m.run calls).extract name = (m.run calls').extract name) := by
  -- Neither order refuses a declaration, so both runs put in all there is before names are compared.
  have arranges' : ∀ call ∈ calls', call.Arranges m.templates :=
    fun call member => arranges call (perm.mem_iff.mpr member)
  rw [Model.run_eq_arranged arranges, Model.run_eq_arranged arranges']
  have same := Model.arranged_sameContent (m := m) perm distinct
  refine ⟨?_, same.containers, ?_, fun name => same.extract_eq⟩
  · exact fun clause own source declares =>
      Model.container?_arranged distinct declares (arranges _ declares)
  · exact fun spec => ⟨same.concreteSpec_eq spec, same.compile_eq spec⟩

def postings : List Call :=
  [.addContainer "order extends entry"
      (.ofList [("@customer.name as buyer", some "@customer.alias"),
        ("total if(@customer.active == true)", some "double.note:[1]")])
      (.mapping [(.text "id", .int 7), (.text "total", .text "12")]),
    .addModifiers [(some "note", .callable fun v _ => .ok (.replace v)), (some "", .nothing)],
    .addProcessor (some "double") (.callable fun v => .ok (.list [v, v])),
    .addContainer "customer"
      (.ofList [("alias", some "upper"), ("@order.total as due", some "@order.id")])
      (.mapping [(.text "name", .text "ann"), (.text "active", .bool true)])]

def ledger : Model :=
  { Model.new (.apart .null) with templates := .ofList [("entry", .ofList [("id", some "string")])] }

theorem extract_permuted_ledger :
    (ledger.run postings).extract "order" = (ledger.run postings.reverse).extract "order" ∧
      (ledger.run postings).extract "customer" = (ledger.run postings.reverse).extract "customer" := by
  have arranges : ∀ call ∈ postings, call.Arranges ledger.templates := by decide +kernel
  have every : ∀ entry ∈ (ledger.run postings).containers.entries,
      Root.model ∉ entry.2.roots ∧ Root.parent ∉ entry.2.roots := by decide +kernel
  have confined (name : String) (c : Container)
      (declared : (ledger.run postings).container? name = some c) :
      (ledger.run postings).Confined c := by
    obtain ⟨model, parent⟩ := every _ (Catalog.mem_of_get? declared)
    exact Model.confined_of_isApart model fun read => absurd read parent
  have same := (extract_permuted postings.reverse_perm.symm arranges (by decide +kernel)).2.2.2
  exact ⟨same "order" (confined "order"), same "customer" (confined "customer")⟩

def listings : List Call :=
  [.addContainer "list" (.ofList [("^.model.containers as all", some "string")]) .null,
    .addContainer "item" (.ofList [("name", some "string")]) .null]

theorem extract_listings :
    (∀ call ∈ listings, call.Arranges (Model.new keeper).templates) ∧
      (listings.flatMap Call.places).Nodup ∧
      (∀ name c, ((Model.new keeper).run listings).container? name = some c →
        Root.model ∉ c.roots) ∧
      ((Model.new keeper).run listings).extract "list" ≠
        ((Model.new keeper).run listings.reverse).extract "list" := by
  have every : ∀ entry ∈ ((Model.new keeper).run listings).containers.entries,
      Root.model ∉ entry.2.roots := by decide +kernel
  exact ⟨by decide +kernel, by decide +kernel,
    fun name c declared => every _ (Catalog.mem_of_get? declared),
    extract_ne (by decide +kernel)⟩

end FieldMap
