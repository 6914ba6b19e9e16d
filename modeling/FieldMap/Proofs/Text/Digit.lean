import FieldMap.Text.Blank
import FieldMap.Text.Digit

/-!
Decimal digits and white space: no character is both, whatever the script of the digit.
-/

namespace FieldMap.Text

variable {c : Char}

theorem isDecimal_iff :
    isDecimal c = true ↔ ∃ start ∈ decimalZeros, start ≤ c.toNat ∧ c.toNat < start + 10 := by
  simp [isDecimal, digitValue?, List.find?_isSome]

theorem digitValue?_of_isDigit (digit : c.isDigit = true) :
    digitValue? c = some (c.toNat - '0'.toNat) := by
  have bounds : 48 ≤ c.toNat ∧ c.toNat ≤ 57 := by
    simpa [Char.isDigit, UInt32.le_iff_toNat_le] using digit
  have first : (48 ≤ c.toNat && c.toNat < 48 + 10) = true := by
    simp only [Bool.and_eq_true, decide_eq_true_eq]
    omega
  have found : (decimalZeros.find? fun start => start ≤ c.toNat && c.toNat < start + 10) =
      some 0x30 := List.find?_cons_of_pos first
  rw [digitValue?, found]
  rfl

theorem isDecimal_of_isDigit (digit : c.isDigit = true) : isDecimal c = true := by
  rw [isDecimal, digitValue?_of_isDigit digit]
  rfl

theorem isBlank_of_isDecimal (digit : isDecimal c = true) : isBlank c = false := by
  obtain ⟨start, listed, least, bound⟩ := isDecimal_iff.mp digit
  have apart : ∀ first ∈ decimalZeros, ∀ range ∈ blankRanges,
      first + 9 < range.1 ∨ range.2 < first := by decide
  rw [isBlank, inRanges, List.any_eq_false]
  intro range member inside
  have sides := apart start listed range member
  simp only [Bool.and_eq_true, decide_eq_true_eq] at inside
  omega

end FieldMap.Text
