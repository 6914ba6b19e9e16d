import FieldMap.Proofs.Outcome
import FieldMap.Value.Written

/-!
How writing the form of a value fails: somewhere in it is a whole number of too many digits. A value
without such a number can be written.
-/

namespace FieldMap.Value
open Outcome FailsOnly

theorem throughRing_induct {α : Type} {Q : Value → Prop} {P : α → Prop} {again : Value → α}
    {visit : (Value → α) → Value → α} (opens : ∀ v, Q v → Q v.opened)
    (inside : ∀ v, Q v → P (again v))
    (step : ∀ inRing, (∀ v, Q v → P (inRing v)) → ∀ v, Q v → P (visit inRing v)) (fuel : Nat)
    (path : List Nat) {v : Value} (holds : Q v) : P (throughRing again visit fuel path v) := by
  induction fuel generalizing path v with
  | zero => exact inside v holds
  | succ fuel ih =>
      unfold throughRing
      split
      · split
        · exact inside _ holds
        · exact step _ (fun _ => ih _) _ (opens _ holds)
      · exact step _ (fun _ => ih _) _ holds

theorem formParts_failsOnly {cyclicForm : Value → Except Fault String}
    (inRing : ∀ v, FailsOnly (· = .digitLimit none) (cyclicForm v)) :
    (∀ v, FailsOnly (· = .digitLimit none) (formWith cyclicForm v)) ∧
      (∀ entries, FailsOnly (· = .digitLimit none) (entryForms cyclicForm entries)) ∧
      ∀ items, FailsOnly (· = .digitLimit none) (itemForms cyclicForm items) := by
  apply formWith.mutual_induct
  case case5 =>
    intro n tooMany
    rw [formWith, if_neg tooMany]
    exact error rfl
  case case11 | case12 =>
    intro items each
    rw [formWith]
    exact bind each fun _ => ok _
  case case14 =>
    intro items some each
    rw [formWith, if_neg some]
    exact bind each fun _ => ok _
  case case15 | case16 =>
    intro entries each
    rw [formWith]
    exact bind each fun _ => ok _
  case case18 =>
    intro ring cells index
    rw [formWith]
    exact inRing _
  case case19 =>
    intro index
    rw [formWith]
    exact inRing _
  case case21 =>
    intro item items first others
    rw [itemForms]
    exact bind first fun _ => bind others fun _ => ok _
  case case23 =>
    intro key value entries keyForm valueForm others
    rw [entryForms]
    exact bind keyForm fun _ => bind valueForm fun _ => bind others fun _ => ok _
  case case4 | case13 =>
    intro part fits
    rw [formWith, if_pos fits]
    exact ok _
  -- What is left has a form of its own, whatever stands in it.
  all_goals
    intros
    simp only [formWith, itemForms, entryForms]
    exact ok _

theorem form_failsOnly (v : Value) : FailsOnly (· = .digitLimit none) (form v) :=
  (formParts_failsOnly fun _ =>
    throughRing_induct (Q := fun _ => True) (fun _ _ => trivial) (fun _ _ => ok _)
      (fun _ inRing _ _ => (formParts_failsOnly fun v => inRing v trivial).1 _) _ _ trivial).1 v

mutual

def fits : Value → Bool
  | .int n => Number.isWritable n
  | .list items | .tuple items | .set items | .cyclic _ items _ => itemsFit items
  | .mapping entries | .readOnly entries => entriesFit entries
  | _ => true
termination_by structural v => v

def itemsFit : List Value → Bool
  | [] => true
  | item :: items => fits item && itemsFit items
termination_by structural items => items

def entriesFit : List (Value × Value) → Bool
  | [] => true
  | (key, value) :: entries => fits key && fits value && entriesFit entries
termination_by structural entries => entries

end

theorem itemsFit_iff {items : List Value} : itemsFit items = true ↔ ∀ v ∈ items, v.fits = true := by
  induction items with
  | nil => simp [itemsFit]
  | cons item items ih => simp [itemsFit, ih]

theorem withCells_fits {f : Nat → Value} (each : ∀ index, (f index).fits = true) :
    (∀ v, v.fits = true → (withCells f v).fits = true) ∧
      (∀ entries, entriesFit entries = true → entriesFit (entriesWithCells f entries) = true) ∧
      ∀ items, itemsFit items = true → itemsFit (itemsWithCells f items) = true := by
  apply withCells.mutual_induct
  all_goals
    intros
    simp_all [withCells, itemsWithCells, entriesWithCells, fits, itemsFit, entriesFit]

theorem fits_getD {cells : List Value} (fit : itemsFit cells = true) (index : Nat) :
    (cells.getD index .null).fits = true := by
  rw [List.getD_eq_getElem?_getD]
  cases there : cells[index]? with
  | none => rfl
  | some v => exact itemsFit_iff.mp fit v (List.mem_of_getElem? there)

theorem fits_ofCell {ring : Nat} {cells : List Value} (fit : itemsFit cells = true) (fuel index : Nat) :
    (ofCell ring cells fuel index).fits = true := by
  induction fuel generalizing index with
  | zero => exact fit
  | succ fuel ih =>
      unfold ofCell
      split
      · exact fit
      · exact (withCells_fits ih).1 _ (fits_getD fit index)

theorem fits_opened {v : Value} (fit : v.fits = true) : v.opened.fits = true := by
  cases v with
  | cyclic ring cells index =>
      exact (withCells_fits fun index => fits_ofCell fit _ index).1 _ (fits_getD fit index)
  | _ => exact fit

theorem isOk_formParts {cyclicForm : Value → Except Fault String}
    (inRing : ∀ v, v.fits = true → (cyclicForm v).isOk = true) :
    (∀ v, v.fits = true → (formWith cyclicForm v).isOk = true) ∧
      (∀ entries, entriesFit entries = true → (entryForms cyclicForm entries).isOk = true) ∧
      ∀ items, itemsFit items = true → (itemForms cyclicForm items).isOk = true := by
  apply formWith.mutual_induct
  case case5 =>
    intro n tooMany fit
    exact absurd fit tooMany
  case case11 | case12 =>
    intro items each fit
    rw [formWith]
    exact isOk_bind (each fit) fun _ => rfl
  case case14 =>
    intro items some each fit
    rw [formWith, if_neg some]
    exact isOk_bind (each fit) fun _ => rfl
  case case15 | case16 =>
    intro entries each fit
    rw [formWith]
    exact isOk_bind (each fit) fun _ => rfl
  case case18 =>
    intro ring cells index fit
    rw [formWith]
    exact inRing _ fit
  case case19 =>
    intro index fit
    rw [formWith]
    exact inRing _ fit
  case case21 =>
    intro item items first others fit
    rw [itemsFit, Bool.and_eq_true] at fit
    rw [itemForms]
    exact isOk_bind (first fit.1) fun _ => isOk_bind (others fit.2) fun _ => rfl
  case case23 =>
    intro key value entries keyForm valueForm others fit
    rw [entriesFit, Bool.and_eq_true, Bool.and_eq_true] at fit
    rw [entryForms]
    exact isOk_bind (keyForm fit.1.1) fun _ =>
      isOk_bind (valueForm fit.1.2) fun _ => isOk_bind (others fit.2) fun _ => rfl
  case case4 | case13 =>
    intro part fits _
    rw [formWith, if_pos fits]
    rfl
  all_goals
    intros
    simp only [formWith, itemForms, entryForms]
    rfl

theorem isOk_form {v : Value} (fit : v.fits = true) : v.form.isOk = true :=
  (isOk_formParts fun _ =>
    throughRing_induct (Q := fun v => v.fits = true)
      (P := fun form : Except Fault String => form.isOk = true) (fun _ => fits_opened)
      (fun _ _ => rfl) (fun _ inRing => (isOk_formParts inRing).1) _ _).1 v fit

end FieldMap.Value
