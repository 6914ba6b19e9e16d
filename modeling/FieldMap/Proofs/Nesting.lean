import FieldMap.Proofs.History

/-!
Templates that extend templates. In the list of a declaration such a template may be replaced by the
templates that it extends, followed by one that has only its own fields; and a template that is listed
twice in a row counts once. Both come down to laws of catalogs that are laid over each other:
`Catalog.merge` is associative, and a catalog laid over itself is the catalog.
-/

namespace FieldMap
open Outcome

namespace Templates

variable {ts ts' : Templates}

/-- When some names come to stand for the same new thing, the layers under a list of names change in
places, and there to that thing. -/
theorem exists_layers_of_replaced {whole : Fields} {names : List String} {layers : List Fields}
    (found : names.map ts.get? = layers.map some)
    (kept : ∀ name ∈ names, ts'.get? name = ts.get? name ∨ ts'.get? name = some whole) :
    ∃ layers', names.map ts'.get? = layers'.map some ∧
      List.Forall₂ (fun layer layer' => layer' = layer ∨ layer' = whole) layers layers' := by
  induction names generalizing layers with
  | nil =>
      rw [List.map_eq_nil_iff.mp found.symm]
      exact ⟨[], rfl, .nil⟩
  | cons name names ih =>
      obtain ⟨layer, rest, rfl, first, others⟩ := List.map_eq_cons_iff.mp found.symm
      obtain ⟨rest', found', replaced⟩ :=
        ih others.symm fun other member => kept other (List.mem_cons_of_mem name member)
      rcases kept name List.mem_cons_self with same | new
      · exact ⟨layer :: rest', by simp [same, ← first, found'], .cons (.inl rfl) replaced⟩
      · exact ⟨whole :: rest', by simp [new, found'], .cons (.inr rfl) replaced⟩

def SameFields (ts : Templates) (clause clause' : String) (own : Fields) : Prop :=
  ∃ fields, ts.resolve clause own = .ok ((NameClause.parse clause).name, fields) ∧
    ts.resolve clause' own = .ok ((NameClause.parse clause').name, fields)

theorem resolve_of_layers {clause : String} {layers : List Fields} {fields : Fields} (own : Fields)
    (found : (NameClause.parse clause).templates.map ts.get? = layers.map some)
    (same : Catalog.layered layers = fields) :
    ts.resolve clause own = .ok ((NameClause.parse clause).name, fields.merge own) :=
  resolve_eq_ok.mpr ⟨rfl, layers, found, by rw [same]⟩

end Templates

namespace Model

/-- In a history, a template was described with parts that it extends and with fields of its own, and
neither it nor a part was described since; another template has these fields and extends nothing. -/
structure Nests (m : Model) (calls : List Call) (nested : String) (parts : List String)
    (plain : String) (own : Fields) : Prop where
  nested : ∃ before call later, calls = before ++ call :: later ∧
    (m.run before).Declares call (.template nested) parts own ∧
    ∀ name ∈ nested :: parts, ((m.run before).after call).Quiet (.template name) later
  plain : ∃ before, m.DeclaresLast calls before (.template plain) [] own

variable {m : Model} {calls : List Call} {nested plain : String} {parts : List String} {own : Fields}

theorem Declares.subject_unique {call : Call} {subject subject' : Subject} {templates templates'}
    {own own' : Fields} (declares : m.Declares call subject templates own)
    (declares' : m.Declares call subject' templates' own') : subject' = subject := by
  cases declares <;> cases declares' <;> rfl

theorem Declares.describe_eq {clause : String} {given : Fields} {subject : Subject}
    {templates : List String} (declares : m.Declares (.describe clause given) subject templates own) :
    subject = .template (NameClause.parse clause).name ∧ ∃ m', m.describe clause given = .ok m' := by
  cases declares with
  | template succeeds => exact ⟨rfl, _, succeeds⟩

/-- Describing a template leaves the templates that it extends as they were, unless it extends the
one that it replaces. -/
theorem get?_after_of_declares {call : Call} {whole : Fields}
    (declares : m.Declares call (.template nested) parts own)
    (made : (m.after call).templates.get? nested = some whole) (name : String) :
    (m.after call).templates.get? name = m.templates.get? name ∨
      (m.after call).templates.get? name = some whole := by
  by_cases same : name = nested
  · exact .inr (same ▸ made)
  · left
    have kept : (m.after call).mapping? (.template name) = m.mapping? (.template name) := by
      apply mapping?_after_of_not_declares
      intro templates own' declares'
      exact same (Subject.template.inj (declares.subject_unique declares'))
    exact kept

theorem Nests.layers (nests : m.Nests calls nested parts plain own) :
    (m.run calls).templates.get? plain = some own ∧
      ∃ layers, parts.map (m.run calls).templates.get? = layers.map some ∧
        (m.run calls).templates.get? nested = some ((Catalog.layered layers).merge own) := by
  obtain ⟨⟨before, call, later, rfl, declares, quiet⟩, _, last⟩ := nests
  constructor
  · obtain ⟨layers, none, stands⟩ := mapping?_run_eq_layered last
    rw [List.map_eq_nil_iff.mp none.symm] at stands
    exact stands.trans (congrArg some (Catalog.empty_merge own))
  · obtain ⟨layers, found, made⟩ := mapping?_after_eq_layered declares
    obtain ⟨layers', found', replaced⟩ := Templates.exists_layers_of_replaced found
      fun name _ => get?_after_of_declares declares made name
    have kept : ∀ name ∈ nested :: parts, (m.run (before ++ call :: later)).templates.get? name =
        ((m.run before).after call).templates.get? name := by
      intro name member
      rw [run_append]
      exact mapping?_run_of_quiet (quiet name member)
    refine ⟨layers', ?_, ?_⟩
    · rw [← found']
      exact List.map_congr_left fun name member => kept name (List.mem_cons_of_mem nested member)
    · have same := Catalog.layered_of_replaced replaced [] rfl
      rw [List.nil_append] at same
      rw [same, ← made]
      exact kept nested List.mem_cons_self

end Model

theorem resolve_flattened (m : Model) (calls : List Call) :
    let ts := (m.run calls).templates
    ∀ (front back : List String), (∀ name ∈ front ++ back, name ∈ ts.names) →
      ∀ (clause clause' : String) (given : Fields),
        (∀ nested parts plain own, m.Nests calls nested parts plain own →
          (NameClause.parse clause).templates = front ++ nested :: back →
          (NameClause.parse clause').templates = front ++ parts ++ plain :: back →
          ts.SameFields clause clause' given) ∧
        ∀ name ∈ ts.names,
          (NameClause.parse clause).templates = front ++ name :: back →
          (NameClause.parse clause').templates = front ++ name :: name :: back →
          ts.SameFields clause clause' given := by
  intro ts front back described clause clause' given
  obtain ⟨first, firstFound⟩ : ∃ layers : List Fields, front.map ts.get? = layers.map some :=
    Templates.exists_layers_of_described fun name member =>
      described name (List.mem_append_left back member)
  obtain ⟨last, lastFound⟩ : ∃ layers : List Fields, back.map ts.get? = layers.map some :=
    Templates.exists_layers_of_described fun name member =>
      described name (List.mem_append_right front member)
  constructor
  · intro nested parts plain own nests lists lists'
    obtain ⟨alone, layers, found, stands⟩ := nests.layers
    refine ⟨_, Templates.resolve_of_layers given ?_ (Catalog.layered_flatten first layers last own),
      Templates.resolve_of_layers given ?_ rfl⟩
    · simp [lists, firstFound, lastFound, ts, stands]
    · simp [lists', firstFound, lastFound, ts, found, alone]
  · intro name known lists lists'
    obtain ⟨layer, here⟩ := Catalog.mem_names.mp known
    refine ⟨_, Templates.resolve_of_layers given ?_ rfl,
      Templates.resolve_of_layers given ?_ (Catalog.layered_twice first last layer)⟩
    · simp [lists, firstFound, lastFound, here]
    · simp [lists', firstFound, lastFound, here]

def beforePerson : List Call :=
  [.describe "base" (.ofList [("name", some "string"), ("age", some "int")]),
    .describe "person" (.ofList [("age", some "trim"), ("city", some "lower")])]

def personFields : Fields := .ofList [("city", some "upper"), ("note", none)]

def afterPerson : List Call := [.describe "base extends ghost" ∅, .addContainer "base" ∅ .null]

def personCalls : List Call :=
  beforePerson ++ .describe "person extends [person, base]" personFields ::
    (.describe "plain" personFields :: afterPerson)

theorem nests_person :
    (Model.new (.apart .null)).Nests personCalls "person" ["person", "base"] "plain" personFields where
  nested := by
    refine ⟨beforePerson, _, _, rfl, .template rfl, ?_⟩
    intro name member
    have other : name ≠ "plain" := by
      rintro rfl
      revert member
      decide
    refine ⟨?_, ?_, ?_, trivial⟩
    · intro templates own declares
      exact other (Subject.template.inj declares.describe_eq.1)
    · intro templates own declares
      obtain ⟨-, m', succeeds⟩ := declares.describe_eq
      cases succeeds
    · rintro templates own ⟨⟩
  plain := by
    refine ⟨beforePerson ++ [.describe "person extends [person, base]" personFields], _, afterPerson,
      rfl, .template rfl, ?_, ?_, trivial⟩
    · intro templates own declares
      obtain ⟨-, m', succeeds⟩ := declares.describe_eq
      cases succeeds
    · rintro templates own ⟨⟩

theorem resolve_flattened_user :
    let ts := ((Model.new (.apart .null)).run personCalls).templates
    let given : Fields := .ofList [("name", some "trim"), ("note", some "lower")]
    ts.SameFields "user extends [plain, person, base]"
        "user extends [plain, person, base, plain, base]" given ∧
      ts.SameFields "user extends [plain, person, base]"
        "user extends [plain, person, person, base]" given := by
  have described : ∀ name ∈ ["plain"] ++ ["base"],
      name ∈ ((Model.new (.apart .null)).run personCalls).templates.names := by decide +kernel
  constructor
  · exact (resolve_flattened (Model.new (.apart .null)) personCalls ["plain"] ["base"] described _ _ _).1
      "person" ["person", "base"] "plain" personFields nests_person (by decide) (by decide)
  · exact (resolve_flattened (Model.new (.apart .null)) personCalls ["plain"] ["base"] described _ _ _).2
      "person" (by decide +kernel) (by decide) (by decide)

end FieldMap
