import FieldMap.Proofs.Inheritance
import FieldMap.Proofs.Model

/-!
Mappings over whole histories of calls. The mapping of a template or container is that of its last
successful declaration, with the templates as they stood then. Nothing that happens later changes it
but another declaration of the same template or container.
-/

namespace FieldMap
open Outcome

inductive Call where
  | describe (clause : String) (own : Fields)
  | addContainer (clause : String) (own : Fields) (source : Value)
  | setSource (name : String) (source : Value)
  | addProcessor (name : Option String) (candidate : Candidate Processor)
  | addProcessors (offers : List (Option String × Candidate Processor))
  | addModifier (name : Option String) (candidate : Candidate Modifier)
  | addModifiers (offers : List (Option String × Candidate Modifier))

inductive Subject where
  | template (name : String)
  | container (name : String)
  deriving DecidableEq

namespace Model

def unlessFailed (m : Model) : Except Fault Model → Model
  | .ok m' => m'
  | .error _ => m

/-- The model after a call. Of several registrations those before the first that fails count. -/
def after (m : Model) : Call → Model
  | .describe clause own => m.unlessFailed (m.describe clause own)
  | .addContainer clause own source => m.unlessFailed (m.addContainer clause own source)
  | .setSource name source => m.unlessFailed (m.setSource name source)
  | .addProcessor name candidate => m.unlessFailed (m.addProcessor name candidate)
  | .addProcessors offers => { m with processors := (m.processors.registerAll offers).1 }
  | .addModifier name candidate => m.unlessFailed (m.addModifier name candidate)
  | .addModifiers offers => { m with modifiers := (m.modifiers.registerAll offers).1 }

def run (m : Model) (calls : List Call) : Model := calls.foldl after m

def mapping? (m : Model) : Subject → Option Fields
  | .template name => m.templates.get? name
  | .container name => m.fieldsOf? name

inductive Declares (m : Model) : Call → Subject → List String → Fields → Prop where
  | template {clause : String} {own : Fields} {m' : Model} (succeeds : m.describe clause own = .ok m') :
      m.Declares (.describe clause own) (.template (NameClause.parse clause).name)
        (NameClause.parse clause).templates own
  | container {clause : String} {own : Fields} {source : Value} {m' : Model}
      (succeeds : m.addContainer clause own source = .ok m') :
      m.Declares (.addContainer clause own source) (.container (NameClause.parse clause).name)
        (NameClause.parse clause).templates own

def Quiet (m : Model) (subject : Subject) : List Call → Prop
  | [] => True
  | call :: calls =>
    (∀ templates own, ¬ m.Declares call subject templates own) ∧ (m.after call).Quiet subject calls

def DeclaresLast (m : Model) (calls before : List Call) (subject : Subject) (templates : List String)
    (own : Fields) : Prop :=
  ∃ call later, calls = before ++ call :: later ∧
    (m.run before).Declares call subject templates own ∧
    ((m.run before).after call).Quiet subject later

variable {m : Model} {call : Call} {calls : List Call} {subject : Subject} {templates : List String}
  {own : Fields}

theorem mapping?_after_eq_layered (declares : m.Declares call subject templates own) :
    ∃ layers, templates.map m.templates.get? = layers.map some ∧
      (m.after call).mapping? subject = some ((Catalog.layered layers).merge own) := by
  cases declares with
  | template succeeds =>
      obtain ⟨name, fields, resolved, -, rfl⟩ := describe_eq_ok.mp succeeds
      obtain ⟨rfl, layers, found, rfl⟩ := Templates.resolve_eq_ok.mp resolved
      refine ⟨layers, found, ?_⟩
      rw [after, succeeds, unlessFailed, mapping?, Catalog.get?_put, if_pos rfl]
  | container succeeds =>
      obtain ⟨name, fields, resolved, -, rfl⟩ := addContainer_eq_ok.mp succeeds
      obtain ⟨rfl, layers, found, rfl⟩ := Templates.resolve_eq_ok.mp resolved
      refine ⟨layers, found, ?_⟩
      rw [after, succeeds, unlessFailed, mapping?, fieldsOf?, container?, Catalog.get?_put, if_pos rfl]
      rfl

theorem Declares.succeeds {clause : String} {given : Fields} {source : Value}
    (declares : m.Declares (.addContainer clause given source) subject templates own) :
    ∃ m', m.addContainer clause given source = .ok m' := by
  cases declares with
  | container succeeds => exact ⟨_, succeeds⟩

theorem mapping?_after_of_not_declares
    (other : ∀ templates own, ¬ m.Declares call subject templates own) :
    (m.after call).mapping? subject = m.mapping? subject := by
  cases call with
  | describe clause own =>
      cases outcome : m.describe clause own with
      | error fault => rw [after, outcome, unlessFailed]
      | ok m' =>
          obtain ⟨name, fields, resolved, -, rfl⟩ := describe_eq_ok.mp outcome
          obtain ⟨rfl, -⟩ := Templates.resolve_eq_ok.mp resolved
          rw [after, outcome, unlessFailed]
          cases subject with
          | container key => rfl
          | template key =>
              have differ : key ≠ (NameClause.parse clause).name := by
                rintro rfl
                exact other _ _ (.template outcome)
              rw [mapping?, mapping?, Catalog.get?_put, if_neg differ]
  | addContainer clause own source =>
      cases outcome : m.addContainer clause own source with
      | error fault => rw [after, outcome, unlessFailed]
      | ok m' =>
          obtain ⟨name, fields, resolved, -, rfl⟩ := addContainer_eq_ok.mp outcome
          obtain ⟨rfl, -⟩ := Templates.resolve_eq_ok.mp resolved
          rw [after, outcome, unlessFailed]
          cases subject with
          | template key => rfl
          | container key =>
              have differ : key ≠ (NameClause.parse clause).name := by
                rintro rfl
                exact other _ _ (.container outcome)
              rw [mapping?, mapping?, fieldsOf?, container?, Catalog.get?_put, if_neg differ]
              rfl
  | setSource name source =>
      cases outcome : m.setSource name source with
      | error fault => rw [after, outcome, unlessFailed]
      | ok m' =>
          have fields := fieldsOf?_setSource outcome
          obtain ⟨c, -, rfl⟩ := setSource_eq_ok.mp outcome
          rw [after, outcome, unlessFailed]
          cases subject with
          | template key => rfl
          | container key => exact congrFun fields key
  | addProcessor name candidate =>
      rw [after, addProcessor, addProcessorUnder]
      cases m.processors.registerUnder (Registry.nameOf name) candidate <;> cases subject <;> rfl
  | addProcessors offers => cases subject <;> rfl
  | addModifier name candidate =>
      rw [after, addModifier, addModifierUnder]
      cases m.modifiers.registerUnder (Registry.nameOf name) candidate <;> cases subject <;> rfl
  | addModifiers offers => cases subject <;> rfl

theorem run_append (before later : List Call) : m.run (before ++ later) = (m.run before).run later :=
  List.foldl_append

theorem mapping?_run_of_quiet (quiet : m.Quiet subject calls) :
    (m.run calls).mapping? subject = m.mapping? subject := by
  induction calls generalizing m with
  | nil => rfl
  | cons call calls ih => exact (ih quiet.2).trans (mapping?_after_of_not_declares quiet.1)

theorem mapping?_run_eq_layered {before : List Call}
    (last : m.DeclaresLast calls before subject templates own) :
    ∃ layers, templates.map (m.run before).templates.get? = layers.map some ∧
      (m.run calls).mapping? subject = some ((Catalog.layered layers).merge own) := by
  obtain ⟨call, later, rfl, declares, quiet⟩ := last
  obtain ⟨layers, found, declared⟩ := mapping?_after_eq_layered declares
  refine ⟨layers, found, ?_⟩
  rw [run_append]
  exact (mapping?_run_of_quiet quiet).trans declared

theorem mapping?_run_of_declaresLast {before : List Call}
    (last : m.DeclaresLast calls before subject templates own) :
    ∃ layers fields, templates.map (m.run before).templates.get? = layers.map some ∧
      (m.run calls).mapping? subject = some fields ∧ fields.Inherits layers own := by
  obtain ⟨layers, found, declared⟩ := mapping?_run_eq_layered last
  exact ⟨layers, _, found, declared, Fields.inherits_layered layers own⟩

theorem quiet_of_never_declared
    (never : ∀ before templates own, ¬ m.DeclaresLast calls before subject templates own) :
    m.Quiet subject calls := by
  induction calls generalizing m with
  | nil => trivial
  | cons call calls ih =>
      -- A last declaration among the later calls would be the last of all calls.
      have later : (m.after call).Quiet subject calls := by
        apply ih
        rintro before templates own ⟨last, rest, rfl, declares, quiet⟩
        exact never (call :: before) templates own ⟨last, rest, rfl, declares, quiet⟩
      refine ⟨?_, later⟩
      intro templates own declares
      exact never [] templates own ⟨call, calls, rfl, declares, later⟩

end Model

theorem mapping_of_history (parent : Host) (calls : List Call) (subject : Subject) :
    let fresh := Model.new parent
    (∀ before templates own, fresh.DeclaresLast calls before subject templates own →
      ∃ layers fields, templates.map (fresh.run before).templates.get? = layers.map some ∧
        (fresh.run calls).mapping? subject = some fields ∧ fields.Inherits layers own) ∧
    ((fresh.run calls).mapping? subject = none ↔
      ∀ before templates own, ¬ fresh.DeclaresLast calls before subject templates own) ∧
    (∀ later, (fresh.run calls).Quiet subject later →
      (fresh.run (calls ++ later)).mapping? subject = (fresh.run calls).mapping? subject) := by
  refine ⟨?_, ⟨?_, ?_⟩, ?_⟩
  · exact fun before templates own last => Model.mapping?_run_of_declaresLast last
  · intro undeclared before templates own last
    obtain ⟨-, fields, -, declared, -⟩ := Model.mapping?_run_of_declaresLast last
    rw [undeclared] at declared
    cases declared
  · intro never
    rw [Model.mapping?_run_of_quiet (Model.quiet_of_never_declared never)]
    cases subject <;> rfl
  · intro later quiet
    rw [Model.run_append, Model.mapping?_run_of_quiet quiet]

def beforeUser : List Call :=
  [.describe "base" (.ofList [("name", some "string"), ("age", some "int")]),
    .describe "base extends base" (.ofList [("city", some "trim"), ("name", some "upper")])]

def afterUser : List Call :=
  [.describe "base" (.ofList [("age", some "string")]), .addContainer "user extends ghost" ∅ .null,
    .setSource "user" (.mapping []), .addModifier (some "twice") .nothing]

def userFields : Fields := .ofList [("note", none), ("age", some "float")]

theorem mapping_of_history_user :
    ∃ layers fields,
      ["base", "base"].map ((Model.new (.apart .null)).run beforeUser).templates.get? = layers.map some ∧
      ((Model.new (.apart .null)).run (beforeUser ++
        .addContainer "user extends [base, base]" userFields .null :: afterUser)).mapping?
          (.container "user") = some fields ∧ fields.Inherits layers userFields := by
  apply (mapping_of_history (.apart .null) _ (.container "user")).1
  refine ⟨_, _, rfl, Model.Declares.container rfl, ?_⟩
  refine ⟨?_, ?_, ?_, ?_, trivial⟩
  · rintro templates own ⟨⟩
  · intro templates own declares
    obtain ⟨m', succeeds⟩ := declares.succeeds
    cases succeeds
  · rintro templates own ⟨⟩
  · rintro templates own ⟨⟩

end FieldMap
