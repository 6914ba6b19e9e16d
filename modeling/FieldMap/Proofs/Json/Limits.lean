import FieldMap.Json.Reader
import FieldMap.Proofs.Outcome
import FieldMap.Proofs.Text.Digit
import FieldMap.Proofs.Text.Run

/-!
The limits of the JSON reader. A text that is refused for another reason than its grammar has a whole
number of too many digits, or lists and objects that are nested too deeply.
-/

namespace FieldMap.Json
open Number Outcome

def IsLimit (fault : Fault) : Prop :=
  (∃ digits, digitLimit < digits ∧ fault = .digitLimit (some digits)) ∨
    ∃ what, fault = .tooDeep what

def Stuck.IsDue : Stuck → Prop
  | .malformed _ _ => True
  | .exceeded fault => IsLimit fault

open FailsOnly

theorem stuckAt_failsOnly {α : Type} (problem : String) (cs : List Char) :
    FailsOnly Stuck.IsDue (stuckAt problem cs : Except Stuck α) :=
  error trivial

theorem stringBody_failsOnly (opening : Nat) (cs : List Char) :
    FailsOnly Stuck.IsDue (stringBody opening cs) := by
  fun_induction stringBody opening cs
  all_goals first
    | exact ok _
    | exact error trivial
    | exact stuckAt_failsOnly _ _
    | exact bind (by assumption) fun _ => ok _

theorem number_failsOnly (cs : List Char) : FailsOnly Stuck.IsDue (number cs) := by
  unfold number
  repeat' split
  all_goals first
    | exact ok _
    | exact stuckAt_failsOnly _ _
    | exact error (.inl ⟨_, by assumption, rfl⟩)

-- Values, items and members are read by each other, so one induction on the fuel is for all three.
theorem nested_failsOnly (fuel levels : Nat) (cs : List Char) :
    FailsOnly Stuck.IsDue (value levels fuel cs) ∧ FailsOnly Stuck.IsDue (items levels fuel cs) ∧
      FailsOnly Stuck.IsDue (members levels fuel cs) := by
  induction fuel generalizing levels cs with
  | zero => exact ⟨stuckAt_failsOnly _ _, stuckAt_failsOnly _ _, stuckAt_failsOnly _ _⟩
  | succ fuel ih =>
      refine ⟨?_, ?_, ?_⟩
      · unfold value
        split
        · exact bind (stringBody_failsOnly _ _) fun _ => ok _
        · split
          · exact error (.inr ⟨_, rfl⟩)
          · exact ok _
          · exact bind (ih _ _).2.2 fun _ => ok _
        · split
          · exact error (.inr ⟨_, rfl⟩)
          · exact ok _
          · exact bind (ih _ _).2.1 fun _ => ok _
        all_goals first
          | exact ok _
          | exact number_failsOnly _
      · unfold items
        refine bind (ih _ _).1 fun (item, rest) => ?_
        dsimp only
        split
        · exact ok _
        · exact bind (ih _ _).2.1 fun _ => ok _
        · exact stuckAt_failsOnly _ _
      · unfold members
        split
        · refine bind (stringBody_failsOnly _ _) fun (key, rest) => ?_
          dsimp only
          split
          · refine bind (ih _ _).1 fun (v, rest) => ?_
            dsimp only
            split
            · exact ok _
            · exact bind (ih _ _).2.2 fun _ => ok _
            · exact stuckAt_failsOnly _ _
          · exact stuckAt_failsOnly _ _
        · exact stuckAt_failsOnly _ _

theorem readChars_failsOnly (cs : List Char) : FailsOnly Stuck.IsDue (readChars cs) := by
  unfold readChars
  split
  · exact stuckAt_failsOnly _ _
  · refine bind (nested_failsOnly _ _ _).1 fun (v, rest) => ?_
    dsimp only
    split
    · exact ok _
    · exact stuckAt_failsOnly _ _

theorem isBlank_of_isSpace {c : Char} (space : isSpace c = true) : Text.isBlank c = true := by
  simp only [isSpace, Bool.or_eq_true, beq_iff_eq] at space
  rcases space with ((rfl | rfl) | rfl) | rfl <;> decide

theorem solid_of_isDigit {c : Char} (digit : c.isDigit = true) : Text.isBlank c = false :=
  Text.isBlank_of_isDecimal (Text.isDecimal_of_isDigit digit)

section Solid

variable {c : Char} {cs : List Char} (solid : Text.isBlank c = false)
include solid

theorem skipSpace_of_solid (cs : List Char) : skipSpace (c :: cs) = c :: cs := by
  have dense : isSpace c = false := by
    rw [Bool.eq_false_iff]
    intro space
    rw [isBlank_of_isSpace space] at solid
    cases solid
  rw [skipSpace, List.dropWhile_cons_of_neg (by simp [dense])]

theorem readChars_eq_ok (unmarked : c ≠ '\ufeff') {v : Value}
    (read : value levelLimit (2 * (c :: cs).length + 2) (c :: cs) = .ok (v, [])) :
    readChars (c :: cs) = .ok v := by
  have nothing : skipSpace [] = [] := rfl
  rw [List.length_cons] at read
  simp [readChars, unmarked, skipSpace_of_solid solid, read, nothing]

theorem readChars_eq_error (unmarked : c ≠ '\ufeff') {stop : Stuck}
    (read : value levelLimit (2 * (c :: cs).length + 2) (c :: cs) = .error stop) :
    readChars (c :: cs) = .error stop := by
  rw [List.length_cons] at read
  simp [readChars, unmarked, skipSpace_of_solid solid, read]

end Solid

section LongDigits

variable {first : Char} {digits : List Char}

theorem number_of_long_digits (clean : ∀ c ∈ first :: digits, c.isDigit = true)
    (leading : first ≠ '0') (long : digitLimit < (first :: digits).length) :
    number (first :: digits) =
      .error (.exceeded (.digitLimit (some (first :: digits).length))) := by
  have unsigned : first ≠ '-' := by
    rintro rfl
    exact absurd (clean _ List.mem_cons_self) (by decide)
  have whole : spanDigits (first :: digits) = (first :: digits, []) := Text.span_eq_self clean
  have tooLong : digitLimit < digits.length + 1 := long
  simp [number, unsigned, leading, whole, fractionPart, powerPart, tooLong]

theorem value_of_digit {levels fuel : Nat} (digit : first.isDigit = true) :
    value levels (fuel + 1) (first :: digits) = number (first :: digits) := by
  unfold value
  split
  all_goals first
    | rfl
    | (next same =>
        cases same
        exact absurd digit (by decide))

theorem readChars_of_long_digits (clean : ∀ c ∈ first :: digits, c.isDigit = true)
    (leading : first ≠ '0') (long : digitLimit < (first :: digits).length) :
    readChars (first :: digits) =
      .error (.exceeded (.digitLimit (some (first :: digits).length))) := by
  have digit := clean first List.mem_cons_self
  have unmarked : first ≠ '\ufeff' := by
    rintro rfl
    exact absurd digit (by decide)
  exact readChars_eq_error (solid_of_isDigit digit) unmarked
    ((value_of_digit digit).trans (number_of_long_digits clean leading long))

end LongDigits

end FieldMap.Json
