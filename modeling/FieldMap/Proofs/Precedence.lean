import FieldMap.Proofs.Inheritance
import FieldMap.Proofs.Isolation
import FieldMap.Proofs.Model

/-!
Which entry an output comes from. It is the last one, in the order of the mapping, that has the output
and whose guard holds. A container that extends templates has its new keys after all inherited ones,
but a key that it redefines keeps its place among those. Main statement: when an output comes from a
field of the container itself, and when from a template.
-/

namespace FieldMap
open Outcome

theorem mem_of_findRev? {α : Type} {p : α → Bool} {items : List α} {last : α}
    (found : items.findRev? p = some last) : last ∈ items := by
  rw [List.findRev?_eq_find?_reverse] at found
  exact List.mem_reverse.mp (List.mem_of_find?_eq_some found)

namespace Model

variable {m : Model} {name : String} {c : Container} {key output : String} {spec : Option String}

def yields (m : Model) (output key : String) : Bool :=
  (FieldKey.parse key).outputName == output &&
    match m.holds (FieldKey.parse key).guard with
    | .ok holds => holds
    | .error _ => false

def Produces (m : Model) (c : Container) (key : String) (spec : Option String) (output : String)
    (v : Value) : Prop :=
  ∃ problems, m.contribution c (FieldKey.parse key) spec = .ok ⟨some (output, v), problems⟩

theorem yields_iff : m.yields output key = true ↔
    (FieldKey.parse key).outputName = output ∧ m.holds (FieldKey.parse key).guard = .ok true := by
  unfold yields
  cases m.holds (FieldKey.parse key).guard <;> simp

theorem produces_of_yields {added : Contribution}
    (h : m.contribution c (FieldKey.parse key) spec = .ok added)
    (yields : m.yields output key = true) :
    ∃ v, added.output = some (output, v) ∧ m.Produces c key spec output v := by
  obtain ⟨rfl, holds⟩ := yields_iff.mp yields
  obtain ⟨v, here⟩ := output_of_holds holds h
  refine ⟨v, here, added.problems, ?_⟩
  rw [h, ← here]

theorem yields_of_output {added : Contribution} {v : Value}
    (h : m.contribution c (FieldKey.parse key) spec = .ok added)
    (here : added.output = some (output, v)) : m.yields output key = true := by
  refine yields_iff.mpr ⟨(contribution_output h _ here).symm, ?_⟩
  unfold contribution at h
  split at h
  · cases h
    cases here
  · cases h
    cases here
  · assumption

theorem get?_outputsOf {shares : List Share} {s : Share} (added : ∀ t ∈ shares, t.IsAdded m c)
    (last : shares.findRev? (fun t => m.yields output t.key) = some s) :
    ∃ v, m.Produces c s.key s.spec output v ∧
      (Catalog.ofList (outputsOf shares)).get? output = some v := by
  rw [List.findRev?_eq_find?_reverse, List.find?_eq_some_iff_append] at last
  obtain ⟨yields, after, before, split, others⟩ := last
  have inside {t : Share} (member : t ∈ after ++ s :: before) : t.IsAdded m c :=
    added t (List.mem_reverse.mp (split ▸ member))
  obtain ⟨v, here, produces⟩ := produces_of_yields (inside (by simp)) yields
  -- From the end of the outputs, none is met under this name before the one of `s`.
  have absent : (after.filterMap fun t => t.contribution.output).lookup output = none := by
    rw [List.lookup_eq_none_iff]
    rintro ⟨name, w⟩ present
    obtain ⟨t, follows, there⟩ := List.mem_filterMap.mp present
    have differ : output ≠ name := by
      rintro rfl
      have silent := others t follows
      rw [yields_of_output (inside (List.mem_append_left _ follows)) there] at silent
      cases silent
    simpa using differ
  refine ⟨v, produces, ?_⟩
  rw [Catalog.get?_ofList, outputsOf, ← List.filterMap_reverse, split, List.filterMap_append,
    List.lookup_append, absent, List.filterMap_cons, here, Option.none_or, Catalog.lookup_cons_eq,
    if_pos rfl]

theorem get?_of_findRev? {e : Extraction} (declared : m.container? name = some c)
    (extracted : m.extract name = .ok e)
    (last : c.fields.names.findRev? (m.yields output) = some key) :
    ∃ spec v, c.fields.get? key = some spec ∧ m.Produces c key spec output v ∧
      e.fields.get? output = some v := by
  obtain ⟨entry, member, -⟩ := List.mem_map.mp (mem_of_findRev? last)
  rw [extract_of_declared declared (Catalog.isEmpty_of_mem member)] at extracted
  obtain ⟨shares, entries, added, rfl⟩ := extractFields_eq_ok.mp extracted
  have names : c.fields.names = shares.map Share.key := by
    rw [Catalog.names, ← entries, List.map_map]
    rfl
  rw [names, List.findRev?_eq_find?_reverse, ← List.map_reverse, List.find?_map,
    ← List.findRev?_eq_find?_reverse] at last
  obtain ⟨s, found, rfl⟩ := Option.map_eq_some_iff.mp last
  obtain ⟨v, produces, here⟩ := get?_outputsOf added found
  have stored : (s.key, s.spec) ∈ c.fields.entries := by
    rw [← entries]
    exact List.mem_map_of_mem (mem_of_findRev? found)
  refine ⟨s.spec, v, Catalog.get?_of_mem stored, produces, ?_⟩
  rw [Extraction.fields_addAll]
  exact here

end Model

namespace Fields

/-- An entry is the last with some property of its key, where own fields are laid over inherited
ones. -/
structure IsLast (p : String → Bool) (inherited own : Fields) (key : String) (spec : Option String) :
    Prop where
  stored : (inherited.merge own).get? key = some spec
  last : (inherited.merge own).names.findRev? p = some key
  own_iff : own.get? key = some spec ↔
    (∃ fresh ∈ own.names, fresh ∉ inherited.names ∧ p fresh = true) ∨
      ∃ known ∈ own.names, inherited.names.findRev? p = some known
  inherited_of_not_own : own.get? key = none → inherited.get? key = some spec
  own_last : ∀ final, own.names.findRev? p = some final → final ∉ inherited.names → key = final

variable {inherited own : Fields} {key : String} {spec : Option String} {p : String → Bool}

theorem get?_eq_some_iff_of_merge (merged : (inherited.merge own).get? key = some spec) :
    own.get? key = some spec ↔ key ∈ own.names := by
  rw [Catalog.mem_names]
  constructor
  · exact fun here => ⟨spec, here⟩
  · rintro ⟨given, here⟩
    rw [Catalog.get?_merge, here, Option.some_or] at merged
    rw [here, merged]

theorem mem_names_iff_of_findRev? (last : (inherited.merge own).names.findRev? p = some key) :
    key ∈ own.names ↔
      (∃ fresh ∈ own.names, fresh ∉ inherited.names ∧ p fresh = true) ∨
        ∃ known ∈ own.names, inherited.names.findRev? p = some known := by
  -- New keys stand behind the inherited ones, so the last of them is the last of all.
  rw [Catalog.findRev?_names_merge] at last
  cases found : (own.names.filter fun name => !inherited.names.contains name).findRev? p with
  | some fresh =>
      rw [found, Option.some_or] at last
      cases last
      have member := mem_of_findRev? found
      rw [List.findRev?_eq_find?_reverse] at found
      simp only [List.mem_filter, Bool.not_eq_true', List.contains_eq_mem, decide_eq_false_iff_not]
        at member
      exact ⟨fun _ => .inl ⟨key, member.1, member.2, List.find?_some found⟩, fun _ => member.1⟩
  | none =>
      rw [found, Option.none_or] at last
      have silent : ∀ fresh ∈ own.names, fresh ∉ inherited.names → ¬ p fresh = true := by
        simpa using found
      constructor
      · exact fun member => .inr ⟨key, member, last⟩
      · rintro (⟨fresh, member, new, yields⟩ | ⟨known, member, found⟩)
        · exact absurd yields (silent fresh member new)
        · rw [last] at found
          cases found
          exact member

theorem eq_of_findRev?_own {final : String}
    (last : (inherited.merge own).names.findRev? p = some key)
    (ownLast : own.names.findRev? p = some final) (new : final ∉ inherited.names) : key = final := by
  rw [List.findRev?_eq_find?_reverse, List.find?_eq_some_iff_append] at ownLast
  obtain ⟨yields, after, before, split, silent⟩ := ownLast
  have found :
      (own.names.filter fun name => !inherited.names.contains name).findRev? p = some final := by
    rw [List.findRev?_eq_find?_reverse, ← List.filter_reverse, List.find?_filter,
      List.find?_eq_some_iff_append]
    refine ⟨by simp [new, yields], after, before, split, ?_⟩
    intro later member
    have quiet : p later = false := by simpa using silent later member
    simp [quiet]
  rw [Catalog.findRev?_names_merge, found, Option.some_or] at last
  exact (Option.some.inj last).symm

theorem isLast_of_findRev? (stored : (inherited.merge own).get? key = some spec)
    (last : (inherited.merge own).names.findRev? p = some key) : IsLast p inherited own key spec where
  stored := stored
  last := last
  own_iff := (get?_eq_some_iff_of_merge stored).trans (mem_names_iff_of_findRev? last)
  inherited_of_not_own absent := by rwa [Catalog.get?_merge, absent, Option.none_or] at stored
  own_last _ := eq_of_findRev?_own last

end Fields

theorem extract_precedence {m₀ m₁ m : Model} {clause name output : String} {own : Fields}
    {source : Value} {c : Container} (named : (NameClause.parse clause).name = name)
    (declares : m₀.addContainer clause own source = .ok m₁)
    (declared : m.container? name = some c) (kept : m.fieldsOf? name = m₁.fieldsOf? name)
    (within : ∀ entry ∈ c.fields.entries, ∀ fault, ¬ m.Overruns entry fault)
    (given : ∃ key ∈ own.names, m.yields output key = true) :
    ∃ layers e key spec v,
      (NameClause.parse clause).templates.map m₀.templates.get? = layers.map some ∧
      m.extract name = .ok e ∧ e.fields.get? output = some v ∧ m.Produces c key spec output v ∧
      Fields.IsLast (m.yields output) (Catalog.layered layers) own key spec := by
  obtain ⟨_, fields, resolved, -, rfl⟩ := Model.addContainer_eq_ok.mp declares
  obtain ⟨rfl, layers, found, rfl⟩ := Templates.resolve_eq_ok.mp resolved
  have mapping : c.fields = (Catalog.layered layers).merge own := by
    rw [named, Model.fieldsOf?, declared, Model.fieldsOf?, Model.container?, Catalog.get?_put,
      if_pos rfl] at kept
    exact Option.some.inj kept
  obtain ⟨e, extracted⟩ := (Model.extract_ok_iff declared).mpr within
  obtain ⟨key, last⟩ : ∃ key, c.fields.names.findRev? (m.yields output) = some key := by
    obtain ⟨key, member, yields⟩ := given
    rw [← Option.isSome_iff_exists, List.findRev?_eq_find?_reverse, List.find?_isSome, mapping]
    exact ⟨key, List.mem_reverse.mpr (Catalog.mem_names_merge.mpr (.inr member)), yields⟩
  obtain ⟨spec, v, stored, produces, here⟩ := Model.get?_of_findRev? declared extracted last
  rw [mapping] at stored last
  exact ⟨layers, e, key, spec, v, found, extracted, here, produces,
    Fields.isLast_of_findRev? stored last⟩

def naming : Fields := .ofList [("name", some "string"), ("nick as name", some "string")]

def withNaming : Model := { Model.new (.apart .null) with templates := .ofList [("naming", naming)] }

def ann : Value := .mapping [(.text "name", .text "Ann"), (.text "nick", .text "annie")]

def aliases : Fields := .ofList [("name", some "upper"), ("nick as name if(true)", some "upper")]

def renamed : Container := ⟨"user", naming.merge aliases, ann⟩

def withRenamed : Model := { withNaming with containers := .ofList [("user", renamed)] }

theorem extract_precedence_renamed : ∃ e v, withRenamed.extract "user" = .ok e ∧
    e.fields.get? "name" = some v ∧
    withRenamed.Produces renamed "nick as name if(true)" (some "upper") "name" v := by
  have named : (NameClause.parse "user extends naming").name = "user" := rfl
  have declares : withNaming.addContainer "user extends naming" aliases ann = .ok withRenamed := rfl
  have declared : withRenamed.container? "user" = some renamed := rfl
  have within : ∀ entry ∈ renamed.fields.entries, ∀ fault, ¬ withRenamed.Overruns entry fault :=
    (Model.extract_ok_iff declared).mp (exists_of_isOk (by decide +kernel))
  have given : ∃ key ∈ aliases.names, withRenamed.yields "name" key = true := by decide +kernel
  obtain ⟨layers, e, key, spec, v, found, extracted, here, produces, isLast⟩ :=
    extract_precedence named declares declared rfl within given
  have overlaid : [naming].map some = layers.map some := found
  obtain rfl := (List.map_inj_right fun _ _ => Option.some.inj).mp overlaid
  obtain rfl := isLast.own_last "nick as name if(true)" (by decide +kernel) (by decide)
  cases isLast.stored
  exact ⟨e, v, extracted, here, produces⟩

theorem redefined_field_overtaken : ∃ m c e,
    (Model.new (.apart .null)).describe "naming" naming = .ok withNaming ∧
      withNaming.addContainer "user extends naming" (.ofList [("name", some "upper")]) ann = .ok m ∧
      m.container? "user" = some c ∧ m.extract "user" = .ok e ∧
      (FieldKey.parse "name").outputName = "name" ∧ (FieldKey.parse "name").guard = none ∧
      m.Produces c "name" (some "upper") "name" (.text "ANN") ∧
      m.Produces c "nick as name" (some "string") "name" (.text "annie") ∧
      e.fields.get? "name" = some (.text "annie") := by
  refine ⟨_, _, _, rfl, rfl, rfl, rfl, ?_, ?_, ⟨_, rfl⟩, ⟨_, rfl⟩, rfl⟩
  · decide +kernel
  · decide +kernel

end FieldMap
