import FieldMap.Proofs.Value.Order
import FieldMap.Proofs.Value.Written

/-!
Data that ends: values without collections that hold themselves and with a bounded number of levels.
Comparing such values for equality or by their order comes to an end.
-/

namespace FieldMap.Value
open Outcome FailsOnly

def isInRing : Value → Bool
  | .cyclic .. | .cell _ => true
  | _ => false

def parts : Value → List Value
  | .list items | .tuple items | .set items => items
  | .mapping entries | .readOnly entries => entries.map Prod.fst ++ entries.map Prod.snd
  | _ => []

/-- No collection in a value holds itself, and not more than some levels of collections hold
anything. -/
inductive Ends : Nat → Value → Prop
  | single {levels : Nat} {v : Value} (outside : v.isInRing = false) (empty : v.parts = []) :
      Ends levels v
  | collection {levels : Nat} {v : Value} (outside : v.isInRing = false)
      (each : ∀ part ∈ v.parts, Ends levels part) : Ends (levels + 1) v

variable {levels fuel : Nat} {a b : Value} {test : OrderTest}

theorem Ends.outside (ends : Ends levels a) : a.isInRing = false := by
  cases ends <;> assumption

theorem Ends.of_part (ends : Ends levels a) {part : Value} (member : part ∈ a.parts) :
    ∃ fewer, Ends fewer part := by
  cases ends with
  | single outside empty =>
      rw [empty] at member
      cases member
  | collection outside each => exact ⟨_, each part member⟩

theorem opened_of_outside (outside : a.isInRing = false) : a.opened = a := by
  cases a with
  | cyclic ring cells index => cases outside
  | _ => rfl

theorem isSome_and {x y : Option Bool} (first : x.isSome = true) (second : y.isSome = true) :
    (do if ← x then y else return false : Option Bool).isSome = true := by
  obtain ⟨b, rfl⟩ := Option.isSome_iff_exists.mp first
  cases b with
  | false => rfl
  | true => exact second

section Settled

variable {settled : Value → Value → Option Bool}

theorem isSome_settledItems? {xs ys : List Value}
    (each : ∀ x ∈ xs, ∀ y ∈ ys, (settled x y).isSome = true) :
    (settledItems? settled xs ys).isSome = true := by
  induction xs generalizing ys with
  | nil => cases ys <;> rfl
  | cons x xs ih =>
      cases ys with
      | nil => rfl
      | cons y ys =>
          have others := ih fun u left v right =>
            each u (List.mem_cons_of_mem x left) v (List.mem_cons_of_mem y right)
          exact isSome_and (each x List.mem_cons_self y List.mem_cons_self) others

theorem isSome_settledEntries? {xs ys : List (Value × Value)}
    (each : ∀ x ∈ xs, ∀ y ∈ ys, (settled y.2 x.2).isSome = true) :
    (settledEntries? settled ys xs).isSome = true := by
  induction xs with
  | nil => rfl
  | cons entry xs ih =>
      obtain ⟨first, others⟩ := List.forall_mem_cons.mp each
      rw [settledEntries?]
      split
      · next found => exact isSome_and (first _ (List.mem_of_find?_eq_some found)) (ih others)
      · rfl

end Settled

theorem isSome_settled?_succ (left : a.isInRing = false) (right : b.isInRing = false)
    (each : ∀ x ∈ a.parts, ∀ y ∈ b.parts,
      (settled? fuel x y).isSome = true ∧ (settled? fuel y x).isSome = true) :
    (settled? (fuel + 1) a b).isSome = true := by
  rw [settled?, opened_of_outside left, opened_of_outside right]
  split
  · rfl
  · split
    · split
      · exact isSome_settledItems? fun x xs y ys => (each x xs y ys).1
      · rfl
    · split
      · exact isSome_settledItems? fun x xs y ys => (each x xs y ys).1
      · rfl
    · split
      · refine isSome_settledEntries? fun x xs y ys => (each x.2 ?_ y.2 ?_).2
        · exact List.mem_append_right _ (List.mem_map_of_mem xs)
        · exact List.mem_append_right _ (List.mem_map_of_mem ys)
      · rfl
    · rfl

theorem Ends.isSome_settled? {others : Nat} (left : Ends levels a) (right : Ends others b)
    (enough : levels < fuel) :
    (settled? fuel a b).isSome = true ∧ (settled? fuel b a).isSome = true := by
  induction left generalizing fuel b others with
  | single outside empty =>
      obtain ⟨fuel, rfl⟩ : ∃ fewer, fuel = fewer + 1 := ⟨fuel - 1, by omega⟩
      constructor
      · exact isSome_settled?_succ outside right.outside (by simp [empty])
      · exact isSome_settled?_succ right.outside outside (by simp [empty])
  | collection outside each ih =>
      obtain ⟨fuel, rfl⟩ : ∃ fewer, fuel = fewer + 1 := ⟨fuel - 1, by omega⟩
      have fewer := Nat.lt_of_succ_lt_succ enough
      have parts (x : Value) (xs : x ∈ Value.parts _) (y : Value) (ys : y ∈ b.parts) :=
        have ⟨_, ends⟩ := right.of_part ys
        ih x xs ends fewer
      constructor
      · exact isSome_settled?_succ outside right.outside parts
      · exact isSome_settled?_succ right.outside outside fun y ys x xs => (parts x xs y ys).symm

theorem Ends.isEndless_eq_false {others : Nat} (left : Ends levels a) (right : Ends others b)
    (few : levels < fuel) : isEndless fuel a b = false := by
  rw [isEndless, Option.isNone_eq_false_iff]
  exact (left.isSome_settled? right few).1

section Ordered

variable {deeper : Value → Value → Except Fault Bool}

theorem orderedItems_mismatched {xs ys : List Value}
    (each : ∀ x ∈ xs, ∀ y ∈ ys,
      isEndless (comparedLevels - 1) x y = false ∧ FailsOnly IsMismatch (orderedWith deeper test x y)) :
    FailsOnly IsMismatch (orderedItems deeper test xs ys) := by
  induction xs generalizing ys with
  | nil => exact ok _
  | cons x xs ih =>
      cases ys with
      | nil => exact ok _
      | cons y ys =>
          obtain ⟨settled, first⟩ := each x List.mem_cons_self y List.mem_cons_self
          rw [orderedItems, settled, if_neg Bool.false_ne_true]
          split
          · exact ih fun u left v right =>
              each u (List.mem_cons_of_mem x left) v (List.mem_cons_of_mem y right)
          · exact first

theorem orderedWith_mismatched (left : a.isInRing = false) (right : b.isInRing = false)
    (each : ∀ x ∈ a.parts, ∀ y ∈ b.parts,
      isEndless (comparedLevels - 1) x y = false ∧ FailsOnly IsMismatch (orderedWith deeper test x y)) :
    FailsOnly IsMismatch (orderedWith deeper test a b) := by
  unfold orderedWith
  split
  · exact orderedItems_mismatched each
  · exact orderedItems_mismatched each
  · cases left
  · cases right
  · exact orderScalars_mismatched _ _

theorem Ends.orderedWith_mismatched {others : Nat} (left : Ends levels a) (right : Ends others b)
    (few : levels < comparedLevels) : FailsOnly IsMismatch (orderedWith deeper test a b) := by
  induction left generalizing b others with
  | single outside empty =>
      exact Value.orderedWith_mismatched outside right.outside (by simp [empty])
  | collection outside each ih =>
      refine Value.orderedWith_mismatched outside right.outside fun x xs y ys => ?_
      obtain ⟨_, ends⟩ := right.of_part ys
      exact ⟨(each x xs).isEndless_eq_false ends (by omega), ih x xs ends (by omega)⟩

end Ordered

theorem Ends.ordered_mismatched {others : Nat} (left : Ends levels a) (right : Ends others b)
    (few : levels < comparedLevels) : FailsOnly IsMismatch (ordered test a b) := by
  rw [ordered, comparedLevels, orderedWithin]
  exact left.orderedWith_mismatched right few

end FieldMap.Value
