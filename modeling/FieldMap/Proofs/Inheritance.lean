import FieldMap.Proofs.Catalog
import FieldMap.Proofs.Outcome
import FieldMap.Template

/-!
What a declaration makes of the templates that it lists. A key stands for the declaration's own spec
if it has one, and otherwise for that of the last template that has the key; keys keep the order in
which they first appear in the templates and then in the declaration.
-/

namespace FieldMap
open Outcome

structure Fields.Inherits (fields : Fields) (layers : List Fields) (own : Fields) : Prop where
  explicit : ∀ key spec, own.get? key = some spec → fields.get? key = some spec
  inherited : ∀ key spec, own.get? key = none →
    (fields.get? key = some spec ↔ ∃ before layer after, layers = before ++ layer :: after ∧
      layer.get? key = some spec ∧ ∀ later ∈ after, later.get? key = none)
  order : fields.names = (layers.flatMap Catalog.names ++ own.names).eraseDups

theorem Fields.inherits_layered (layers : List Fields) (own : Fields) :
    Fields.Inherits ((Catalog.layered layers).merge own) layers own where
  explicit key spec here := by rw [Catalog.get?_merge, here, Option.some_or]
  inherited key spec absent := by
    rw [Catalog.get?_merge, absent, Option.none_or, Catalog.get?_layered_eq_some]
  order := by
    rw [← Catalog.layered_append_singleton, Catalog.names_layered, List.flatMap_append,
      List.flatMap_singleton]

namespace Templates

variable {ts : Templates} {clause : String} {own fields : Fields}

theorem overlay_append_singleton_eq_ok {names : List String} {name : String} :
    ts.overlay clause (names ++ [name]) = .ok fields ↔ ∃ below template,
      ts.overlay clause names = .ok below ∧ ts.get? name = some template ∧
        fields = below.merge template := by
  unfold overlay
  rw [List.foldlM_append, bind_eq_ok]
  simp only [List.foldlM_cons, List.foldlM_nil, bind_pure]
  constructor
  · rintro ⟨below, overlaid, h⟩
    split at h
    · next template here => exact ⟨below, template, overlaid, here, (Except.ok.inj h).symm⟩
    · cases h
  · rintro ⟨below, template, overlaid, here, rfl⟩
    exact ⟨below, overlaid, by rw [here]⟩

theorem overlay_eq_ok {names : List String} :
    ts.overlay clause names = .ok fields ↔
      ∃ layers, names.map ts.get? = layers.map some ∧ fields = Catalog.layered layers := by
  induction names using List.reverseRecOn generalizing fields with
  | nil =>
      constructor
      · intro h
        cases h
        exact ⟨[], rfl, rfl⟩
      · rintro ⟨layers, none, rfl⟩
        rw [List.map_eq_nil_iff.mp none.symm]
        rfl
  | append_singleton names name ih =>
      rw [overlay_append_singleton_eq_ok]
      constructor
      · rintro ⟨below, template, overlaid, here, rfl⟩
        obtain ⟨layers, found, rfl⟩ := ih.mp overlaid
        refine ⟨layers ++ [template], ?_, (Catalog.layered_append_singleton layers template).symm⟩
        simp [found, here]
      · rintro ⟨layers, found, rfl⟩
        rw [List.map_append, List.map_singleton] at found
        obtain ⟨layers, final, rfl, before, here⟩ := List.map_eq_append_iff.mp found.symm
        obtain ⟨template, rfl, stands⟩ := List.map_eq_singleton_iff.mp here
        exact ⟨_, template, ih.mpr ⟨layers, before.symm, rfl⟩, stands.symm,
          Catalog.layered_append_singleton layers template⟩

theorem resolve_eq_ok {name : String} :
    ts.resolve clause own = .ok (name, fields) ↔ name = (NameClause.parse clause).name ∧
      ∃ layers, (NameClause.parse clause).templates.map ts.get? = layers.map some ∧
        fields = (Catalog.layered layers).merge own := by
  unfold resolve
  dsimp only
  split
  · simp only [bind_eq_ok, overlay_eq_ok, pure_eq, Except.ok.injEq, Prod.mk.injEq]
    constructor
    · rintro ⟨_, ⟨layers, found, rfl⟩, rfl, rfl⟩
      exact ⟨rfl, layers, found, rfl⟩
    · rintro ⟨rfl, layers, found, rfl⟩
      exact ⟨_, ⟨layers, found, rfl⟩, rfl, rfl⟩
  · next plain =>
      have unlisted : (NameClause.parse clause).templates = [] := by
        simpa [NameClause.isExtended] using plain
      have alone : (Catalog.layered []).merge own = own := own.ofList_entries
      simp only [unlisted, List.map_nil, pure_eq, Except.ok.injEq, Prod.mk.injEq]
      constructor
      · rintro ⟨rfl, rfl⟩
        exact ⟨rfl, [], rfl, alone.symm⟩
      · rintro ⟨rfl, layers, none, rfl⟩
        rw [List.map_eq_nil_iff.mp none.symm, alone]
        exact ⟨rfl, rfl⟩

theorem exists_layers_of_described {names : List String}
    (described : ∀ template ∈ names, template ∈ ts.names) :
    ∃ layers : List Fields, names.map ts.get? = layers.map some := by
  refine ⟨names.map fun template => (ts.get? template).getD ∅, ?_⟩
  rw [List.map_map]
  apply List.map_congr_left
  intro template member
  obtain ⟨fields, here⟩ := Catalog.mem_names.mp (described template member)
  simp [here]

theorem resolve_of_described
    (described : ∀ template ∈ (NameClause.parse clause).templates, template ∈ ts.names)
    (own : Fields) : ∃ fields, ts.resolve clause own = .ok ((NameClause.parse clause).name, fields) := by
  obtain ⟨layers, found⟩ := exists_layers_of_described described
  exact ⟨_, resolve_eq_ok.mpr ⟨rfl, layers, found, rfl⟩⟩

end Templates

end FieldMap
