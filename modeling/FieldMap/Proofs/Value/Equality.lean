import Mathlib.Data.List.Forall2
import Mathlib.Data.List.Perm.Subperm
import Mathlib.Data.List.Nodup
import FieldMap.Proofs.Json.RoundTrip
import FieldMap.Value.Equality

/-!
Equality of data, the values that JSON text can stand for. In data a truth value is no number, at
whatever depth it stands. The comparison of values takes truth values for the numbers 0 and 1: two
values are the same exactly when they agree once those numbers are put in place of their truth values.
-/

namespace FieldMap
open Json Number

namespace Number.Extended

theorem equal_ofInt (m n : Int) : (ofInt m).equal (ofInt n) = decide (m = n) := by
  rw [Bool.eq_iff_iff]
  simp [equal, compare?, ofInt]

end Number.Extended

namespace Json

theorem textEntries_injective : Function.Injective textEntries := by
  apply List.map_injective_iff.mpr
  rintro ⟨_, v⟩ ⟨_, w⟩ same
  cases same
  rfl

end Json

namespace Value

/-! ## Data -/

inductive IsData : Value → Prop
  | null : IsData .null
  | bool (b : Bool) : IsData (.bool b)
  | int (n : Int) : IsData (.int n)
  | float {x : Binary64} (proper : ∀ origin place, x ≠ .nan origin place) : IsData (.float x)
  | text (s : String) : IsData (.text s)
  | list {items : List Value} (each : ∀ item ∈ items, IsData item) : IsData (.list items)
  | mapping {entries : List (String × Value)} (distinct : (entries.map Prod.fst).Nodup)
      (each : ∀ entry ∈ entries, IsData entry.2) : IsData (.mapping (textEntries entries))

/-- Equality of data. Truth values are no numbers, and the entries of an object have no order. -/
inductive Agree : Value → Value → Prop
  | null : Agree .null .null
  | bool (b : Bool) : Agree (.bool b) (.bool b)
  | number {v w : Value} {x y : Extended} (left : v.number? = some x) (right : w.number? = some y)
      (proper : v.isBool = false ∧ w.isBool = false) (equal : x.equal y = true) : Agree v w
  | text (s : String) : Agree (.text s) (.text s)
  | list {xs ys : List Value} (each : List.Forall₂ Agree xs ys) : Agree (.list xs) (.list ys)
  | mapping {xs ys : List (String × Value)} (keys : (xs.map Prod.fst).Perm (ys.map Prod.fst))
      (each : ∀ x ∈ xs, ∀ y ∈ ys, x.1 = y.1 → Agree x.2 y.2) :
      Agree (.mapping (textEntries xs)) (.mapping (textEntries ys))

namespace Agree

variable {v w : Value}

theorem null_iff : Agree .null w ↔ w = .null := by
  constructor
  · intro agree
    cases agree with
    | null => rfl
    | number left => cases left
  · rintro rfl
    exact null

theorem bool_iff {b : Bool} : Agree (.bool b) w ↔ w = .bool b := by
  constructor
  · intro agree
    cases agree with
    | bool => rfl
    | number _ _ proper => cases proper.1
  · rintro rfl
    exact bool b

theorem number_iff {x : Extended} (left : v.number? = some x) (proper : v.isBool = false) :
    Agree v w ↔ w.isBool = false ∧ ∃ y, w.number? = some y ∧ x.equal y = true := by
  constructor
  · intro agree
    cases agree with
    | number left' right both equal =>
        rw [left] at left'
        cases left'
        exact ⟨both.2, _, right, equal⟩
    | bool => cases proper
    | _ => cases left
  · rintro ⟨other, y, right, equal⟩
    exact number left right ⟨proper, other⟩ equal

theorem text_iff {s : String} : Agree (.text s) w ↔ w = .text s := by
  constructor
  · intro agree
    cases agree with
    | text => rfl
    | number left => cases left
  · rintro rfl
    exact text s

theorem list_iff {xs : List Value} :
    Agree (.list xs) w ↔ ∃ ys, w = .list ys ∧ List.Forall₂ Agree xs ys := by
  constructor
  · intro agree
    cases agree with
    | list each => exact ⟨_, rfl, each⟩
    | number left => cases left
  · rintro ⟨ys, rfl, each⟩
    exact list each

theorem mapping_iff {xs : List (String × Value)} :
    Agree (.mapping (textEntries xs)) w ↔
      ∃ ys, w = .mapping (textEntries ys) ∧ (xs.map Prod.fst).Perm (ys.map Prod.fst) ∧
        ∀ x ∈ xs, ∀ y ∈ ys, x.1 = y.1 → Agree x.2 y.2 := by
  constructor
  · intro agree
    generalize object : Value.mapping (textEntries xs) = v at agree
    cases agree with
    | mapping keys each =>
        cases textEntries_injective (Value.mapping.inj object)
        exact ⟨_, rfl, keys, each⟩
    | number left =>
        rw [← object] at left
        cases left
    | _ => cases object
  · rintro ⟨ys, rfl, keys, each⟩
    exact mapping keys each

theorem not_undefined : ¬ Agree .undefined w := by
  intro agree
  cases agree with
  | number left => cases left

end Agree

/-! ## Numbers in place of truth values -/

mutual

def numbered : Value → Value
  | .bool b => .int (if b then 1 else 0)
  | .list items => .list (numberedItems items)
  | .mapping entries => .mapping (numberedEntries entries)
  | v => v
termination_by structural v => v

def numberedItems : List Value → List Value
  | [] => []
  | item :: items => numbered item :: numberedItems items
termination_by structural items => items

def numberedEntries : List (Value × Value) → List (Value × Value)
  | [] => []
  | (key, v) :: entries => (key, numbered v) :: numberedEntries entries
termination_by structural entries => entries

end

theorem numbered_list (items : List Value) : numbered (.list items) = .list (items.map numbered) := by
  rw [numbered]
  congr 1
  induction items with
  | nil => rfl
  | cons item items ih => rw [numberedItems, ih, List.map_cons]

theorem numbered_mapping (entries : List (String × Value)) :
    numbered (.mapping (textEntries entries)) =
      .mapping (textEntries (entries.map fun entry => (entry.1, numbered entry.2))) := by
  rw [numbered]
  congr 1
  induction entries with
  | nil => rfl
  | cons entry entries ih =>
      simp only [textEntries, List.map_cons] at ih ⊢
      rw [numberedEntries, ih]

theorem number?_numbered (v : Value) : v.numbered.number? = v.number? := by
  cases v <;> rfl

theorem isBool_numbered (v : Value) : v.numbered.isBool = false := by
  cases v <;> rfl

theorem agree_numbered_list_iff {xs ys : List Value} :
    Agree (Value.list xs).numbered (Value.list ys).numbered ↔
      List.Forall₂ (fun x y => Agree x.numbered y.numbered) xs ys := by
  rw [numbered_list, numbered_list, Agree.list_iff]
  simp only [list.injEq, exists_eq_left', List.forall₂_map_left_iff, List.forall₂_map_right_iff]

theorem agree_numbered_mapping_iff {xs ys : List (String × Value)} :
    Agree (Value.mapping (textEntries xs)).numbered (Value.mapping (textEntries ys)).numbered ↔
      (xs.map Prod.fst).Perm (ys.map Prod.fst) ∧
        ∀ x ∈ xs, ∀ y ∈ ys, x.1 = y.1 → Agree x.2.numbered y.2.numbered := by
  rw [numbered_mapping, numbered_mapping, Agree.mapping_iff]
  simp only [mapping.injEq, textEntries_injective.eq_iff, exists_eq_left', List.forall_mem_map,
    List.map_map, Function.comp_def]

/-! ## What is the same -/

section Same

variable {v w : Value}

theorem same_number_iff (data : v.IsData) (other : w.IsData) {x : Extended}
    (left : v.number? = some x) :
    same v w = true ↔ ∃ y, w.number? = some y ∧ x.equal y = true := by
  cases data with
  | bool b => cases other <;> cases left <;> simp [same, number?]
  | int n => cases other <;> cases left <;> simp [same, number?]
  | @float z proper =>
      cases z with
      | nan origin place => exact absurd rfl (proper origin place)
      | finite => cases other <;> cases left <;> simp [same, number?]
      | infinite => cases other <;> cases left <;> simp [same, number?]
  | _ => cases left

theorem forall₂_of_mem {R S : Value → Value → Prop} {xs ys : List Value}
    (each : List.Forall₂ R xs ys) (imp : ∀ x ∈ xs, ∀ y ∈ ys, R x y → S x y) :
    List.Forall₂ S xs ys := by
  rw [List.forall₂_iff_zip] at each ⊢
  refine ⟨each.1, fun pair => ?_⟩
  have parts := List.of_mem_zip pair
  exact imp _ parts.1 _ parts.2 (each.2 pair)

theorem sameItems_iff {xs ys : List Value} :
    sameItems xs ys = true ↔ List.Forall₂ (fun v w => same v w = true) xs ys := by
  induction xs generalizing ys with
  | nil => cases ys <;> simp [sameItems]
  | cons x xs ih => cases ys <;> simp [sameItems, ih]

theorem sameEntries_iff {xs ys : List (String × Value)} :
    sameEntries (textEntries xs) (textEntries ys) = true ↔
      ∀ entry ∈ xs, ∃ other ∈ ys, entry.1 = other.1 ∧ same entry.2 other.2 = true := by
  induction xs with
  | nil => simp [textEntries, sameEntries]
  | cons entry xs ih =>
      have same_text (s t : String) : same (.text s) (.text t) = (s == t) := rfl
      simp only [textEntries, List.map_cons] at ih ⊢
      rw [sameEntries, Bool.and_eq_true, ih, List.forall_mem_cons]
      simp [same_text]

theorem found_iff {R : Value → Value → Prop} {xs ys : List (String × Value)}
    (left : (xs.map Prod.fst).Nodup) (right : (ys.map Prod.fst).Nodup) :
    (xs.length = ys.length ∧ ∀ x ∈ xs, ∃ y ∈ ys, x.1 = y.1 ∧ R x.2 y.2) ↔
      (xs.map Prod.fst).Perm (ys.map Prod.fst) ∧ ∀ x ∈ xs, ∀ y ∈ ys, x.1 = y.1 → R x.2 y.2 := by
  constructor
  · rintro ⟨length, found⟩
    have inside : xs.map Prod.fst ⊆ ys.map Prod.fst := by
      intro key member
      obtain ⟨x, mine, rfl⟩ := List.mem_map.mp member
      obtain ⟨y, theirs, key, -⟩ := found x mine
      exact key ▸ List.mem_map_of_mem theirs
    refine ⟨(left.subperm inside).perm_of_length_le (by simp [length]), ?_⟩
    intro x mine y theirs key
    obtain ⟨other, member, same, related⟩ := found x mine
    rw [List.inj_on_of_nodup_map right member theirs (same.symm.trans key)] at related
    exact related
  · rintro ⟨keys, each⟩
    refine ⟨by simpa using keys.length_eq, ?_⟩
    intro x mine
    obtain ⟨y, theirs, key⟩ :=
      List.mem_map.mp (keys.mem_iff.mp (List.mem_map_of_mem (f := Prod.fst) mine))
    exact ⟨y, theirs, key.symm, each x mine y theirs key.symm⟩

theorem same_iff_of_number (data : v.IsData) (other : w.IsData) {x : Extended}
    (left : v.number? = some x) : same v w = true ↔ Agree v.numbered w.numbered := by
  rw [same_number_iff data other left,
    Agree.number_iff ((number?_numbered v).trans left) (isBool_numbered v), number?_numbered,
    isBool_numbered]
  simp

theorem same_iff_of_list {xs : List Value} (other : w.IsData)
    (each : ∀ x ∈ xs, ∀ {w : Value}, w.IsData → (same x w = true ↔ Agree x.numbered w.numbered)) :
    same (.list xs) w = true ↔ Agree (Value.list xs).numbered w.numbered := by
  cases other with
  | @list ys data =>
      have items : same (.list xs) (.list ys) = sameItems xs ys := by rw [same]
      rw [items, sameItems_iff, agree_numbered_list_iff]
      constructor
      · intro alike
        exact forall₂_of_mem alike fun x mine y theirs => (each x mine (data y theirs)).mp
      · intro alike
        exact forall₂_of_mem alike fun x mine y theirs => (each x mine (data y theirs)).mpr
  | _ =>
      rw [numbered_list, Agree.list_iff]
      simp [numbered, same, number?]

theorem same_iff_of_mapping {xs : List (String × Value)} (distinct : (xs.map Prod.fst).Nodup)
    (other : w.IsData)
    (each : ∀ entry ∈ xs, ∀ {w : Value}, w.IsData →
      (same entry.2 w = true ↔ Agree entry.2.numbered w.numbered)) :
    same (.mapping (textEntries xs)) w = true ↔
      Agree (Value.mapping (textEntries xs)).numbered w.numbered := by
  cases other with
  | @mapping ys unique data =>
      have entries : same (.mapping (textEntries xs)) (.mapping (textEntries ys)) =
          (xs.length == ys.length && sameEntries (textEntries xs) (textEntries ys)) := by
        rw [same, textEntries, textEntries, List.length_map, List.length_map]
      rw [entries, Bool.and_eq_true, beq_iff_eq, sameEntries_iff, agree_numbered_mapping_iff,
        found_iff (R := fun v w => same v w = true) distinct unique]
      refine and_congr_right fun _ => forall₂_congr fun x mine => forall₂_congr fun y theirs => ?_
      exact imp_congr_right fun _ => each x mine (data y theirs)
  | _ =>
      rw [numbered_mapping, Agree.mapping_iff]
      simp [numbered, same, number?]

theorem same_iff (data : v.IsData) (other : w.IsData) :
    same v w = true ↔ Agree v.numbered w.numbered := by
  induction data generalizing w with
  | null =>
      have alone : numbered .null = .null := rfl
      rw [alone, Agree.null_iff]
      cases other <;> simp [numbered, same, number?]
  | bool b => exact same_iff_of_number (.bool b) other rfl
  | int n => exact same_iff_of_number (.int n) other rfl
  | float proper => exact same_iff_of_number (.float proper) other rfl
  | text s =>
      have alone : numbered (.text s) = .text s := rfl
      rw [alone, Agree.text_iff, eq_comm (b := Value.text s)]
      cases other <;> simp [numbered, same, number?]
  | list each ih => exact same_iff_of_list other ih
  | mapping distinct each ih => exact same_iff_of_mapping distinct other ih

end Same

/-! ## What numbers in place of truth values change -/

def Plain (v : Value) : Prop := v.isBool = true ∨ v.numbered = v

def isScalar : Value → Bool
  | .list _ | .mapping _ => false
  | _ => true

section Strict

variable {v w : Value}

theorem isBool_iff : v.isBool = true ↔ ∃ b, v = .bool b := by
  cases v <;> simp [isBool]

theorem isScalar_of_number {x : Extended} (number : v.number? = some x) : v.isScalar = true := by
  cases v <;> first | rfl | cases number

theorem isScalar_numbered (v : Value) : v.numbered.isScalar = v.isScalar := by
  cases v <;> rfl

theorem plain_of_isScalar (scalar : v.isScalar = true) : v.Plain := by
  cases v with
  | bool b => exact .inl rfl
  | list | mapping => cases scalar
  | _ => exact .inr rfl

theorem Agree.isScalar_eq (agree : Agree v w) : v.isScalar = w.isScalar := by
  cases agree with
  | number left right => rw [isScalar_of_number left, isScalar_of_number right]
  | _ => rfl

theorem Agree.isBool_eq (agree : Agree v w) : v.isBool = w.isBool := by
  cases agree with
  | number _ _ proper => rw [proper.1, proper.2]
  | _ => rfl

theorem agree_numbered_of_number {x y : Extended} (left : v.number? = some x)
    (right : w.number? = some y) (equal : x.equal y = true) : Agree v.numbered w.numbered :=
  .number ((number?_numbered v).trans left) ((number?_numbered w).trans right)
    ⟨isBool_numbered v, isBool_numbered w⟩ equal

theorem Agree.numbered (data : v.IsData) (agree : Agree v w) : Agree v.numbered w.numbered := by
  induction data generalizing w with
  | null =>
      cases Agree.null_iff.mp agree
      exact .null
  | bool b =>
      cases Agree.bool_iff.mp agree
      exact agree_numbered_of_number rfl rfl (by simp [Extended.equal_ofInt])
  | int n | float proper =>
      obtain ⟨-, y, right, equal⟩ := (Agree.number_iff rfl rfl).mp agree
      exact agree_numbered_of_number rfl right equal
  | text s =>
      cases Agree.text_iff.mp agree
      exact .text s
  | list each ih =>
      obtain ⟨ys, rfl, items⟩ := Agree.list_iff.mp agree
      exact agree_numbered_list_iff.mpr (forall₂_of_mem items fun x mine y _ => ih x mine)
  | mapping distinct each ih =>
      obtain ⟨ys, rfl, keys, entries⟩ := Agree.mapping_iff.mp agree
      exact agree_numbered_mapping_iff.mpr
        ⟨keys, fun x mine y theirs key => ih x mine (entries x mine y theirs key)⟩

theorem agree_bool_of_numbered {b c : Bool}
    (agree : Agree (Value.bool b).numbered (Value.bool c).numbered) : b = c := by
  obtain ⟨-, y, right, equal⟩ := (Agree.number_iff rfl rfl).mp agree
  cases right
  rw [Extended.equal_ofInt] at equal
  cases b <;> cases c <;> first | rfl | cases equal

theorem agree_of_numbered (kind : v.isBool = w.isBool) (left : v.Plain) (right : w.Plain)
    (agree : Agree v.numbered w.numbered) : Agree v w := by
  by_cases truth : v.isBool = true
  · obtain ⟨b, rfl⟩ := isBool_iff.mp truth
    obtain ⟨c, rfl⟩ := isBool_iff.mp (kind ▸ truth)
    cases agree_bool_of_numbered agree
    exact .bool b
  · rw [left.resolve_left truth, right.resolve_left (kind ▸ truth)] at agree
    exact agree

end Strict

end Value
end FieldMap
