import FieldMap.Number.Decimal
import FieldMap.Proofs.Text.Digit
import FieldMap.Proofs.Text.Run
import Mathlib.Data.List.Basic

/-!
Whole numbers as they are read: an optional sign and digits of any script. The decimal digits of a
number are read as that number.
-/

namespace FieldMap.Number

def signs : List (List Char × Bool) := [([], false), (['+'], false), (['-'], true)]

section

variable {sign digits : List Char} {negative : Bool}

theorem splitSign_append {rest : List Char} (signed : (sign, negative) ∈ signs)
    (unsigned : ∀ c ∈ rest.head?, c ∉ ['+', '-']) : splitSign (sign ++ rest) = (negative, rest) := by
  simp only [signs, List.mem_cons, Prod.mk.injEq, List.not_mem_nil, or_false] at signed
  rcases signed with ⟨rfl, rfl⟩ | ⟨rfl, rfl⟩ | ⟨rfl, rfl⟩
  · rw [List.nil_append]
    unfold splitSign
    split
    · exact absurd (unsigned '-' rfl) (by decide)
    · exact absurd (unsigned '+' rfl) (by decide)
    · rfl
  · rfl
  · rfl

theorem splitSign_signed (signed : (sign, negative) ∈ signs)
    (clean : ∀ c ∈ digits, Text.isDecimal c = true) :
    splitSign (sign ++ digits) = (negative, digits) :=
  splitSign_append signed fun c head =>
    Text.not_mem_of_class (clean c (List.mem_of_head? head)) (by decide)

theorem spanDigits_of_decimal (clean : ∀ c ∈ digits, Text.isDecimal c = true) :
    spanDigits digits = (digits, []) :=
  Text.span_eq_self clean

theorem groupedDigits?_of_decimal (nonempty : digits ≠ [])
    (clean : ∀ c ∈ digits, Text.isDecimal c = true) : groupedDigits? digits = some digits := by
  induction digits with
  | nil => contradiction
  | cons c cs ih =>
      have here := clean c List.mem_cons_self
      have later : ∀ d ∈ cs, Text.isDecimal d = true :=
        fun d member => clean d (List.mem_cons_of_mem c member)
      cases cs with
      | nil => rw [groupedDigits?, if_pos here]
      | cons d cs =>
          -- A low line would be passed over, but no digit is one.
          have ungrouped : d ≠ '_' := by
            rintro rfl
            exact absurd (later _ List.mem_cons_self) (by decide)
          rw [groupedDigits?, if_pos here, ih (List.cons_ne_nil d cs) later]
          · rfl
          · exact nofun
          · rintro _ ⟨⟩
            contradiction

theorem trimmed_signed (signed : (sign, negative) ∈ signs)
    (clean : ∀ c ∈ digits, Text.isDecimal c = true) :
    Text.trimmed Text.isNumberBlank (sign ++ digits) = sign ++ digits := by
  have solid : ∀ c ∈ sign ++ digits, Text.isNumberBlank c = false := by
    intro c member
    rcases List.mem_append.mp member with inSign | digit
    · have unblank : ∀ entry ∈ signs, entry.1.any Text.isNumberBlank = false := by decide
      exact Text.eq_false_of_mem inSign (unblank _ signed)
    · rw [Text.isNumberBlank, Text.isBlank_of_isDecimal (clean c digit)]
      rfl
  exact Text.trimmed_eq_self (fun c head => solid c (List.mem_of_head? head))
    fun c last => solid c (List.mem_of_getLast? last)

theorem readInteger_signed (signed : (sign, negative) ∈ signs) (nonempty : digits ≠ [])
    (clean : ∀ c ∈ digits, Text.isDecimal c = true) (short : digits.length ≤ digitLimit) :
    readInteger (sign ++ digits) =
      .ok (if negative then -(ofDigits digits : Int) else ofDigits digits) := by
  rw [readInteger, trimmed_signed signed clean, splitSign_signed signed clean]
  simp only [groupedDigits?_of_decimal nonempty clean]
  rw [ofSignedDigits, if_neg (by omega)]

theorem Decimal.read?_signed (signed : (sign, negative) ∈ signs) (nonempty : digits ≠ [])
    (clean : ∀ c ∈ digits, Text.isDecimal c = true) :
    Decimal.read? (sign ++ digits) = some (⟨negative, digits, [], 0⟩, []) := by
  rw [Decimal.read?, splitSign_signed signed clean]
  simp [spanDigits_of_decimal clean, nonempty, splitPower]

end

theorem isDigit_of_mem_toDigits {n : Nat} : ∀ c ∈ Nat.toDigits 10 n, c.isDigit = true :=
  fun _ member => Nat.isDigit_of_mem_toDigits (by decide) (by decide) member

theorem mem_integerText {n : Int} {c : Char} (member : c ∈ integerText n) :
    c = '-' ∨ c.isDigit = true := by
  rw [integerText] at member
  split at member
  · rcases List.mem_cons.mp member with minus | digit
    · exact .inl minus
    · exact .inr (isDigit_of_mem_toDigits c digit)
  · exact .inr (isDigit_of_mem_toDigits c member)

theorem isBlank_of_mem_integerText {n : Int} {c : Char} (member : c ∈ integerText n) :
    Text.isBlank c = false := by
  rcases mem_integerText member with rfl | digit
  · decide
  · exact Text.isBlank_of_isDecimal (Text.isDecimal_of_isDigit digit)

theorem integerText_ne_nil (n : Int) : integerText n ≠ [] := by
  rw [integerText]
  split
  · exact List.cons_ne_nil _ _
  · exact Nat.toDigits_ne_nil

theorem exists_integerText (n : Int) : ∃ sign negative, (sign, negative) ∈ signs ∧
    integerText n = sign ++ Nat.toDigits 10 n.natAbs ∧
      (if negative then -(n.natAbs : Int) else n.natAbs) = n := by
  rw [integerText]
  split
  · exact ⟨['-'], true, by decide, rfl, by simp only [if_true]; omega⟩
  · exact ⟨[], false, by decide, rfl, by simp only [Bool.false_eq_true, if_false]; omega⟩

theorem ofDigits_toDigits (n : Nat) : ofDigits (Nat.toDigits 10 n) = n := by
  have value (read : Nat) (c : Char) (member : c ∈ Nat.toDigits 10 n) :
      10 * read + (Text.digitValue? c).getD 0 = 10 * read + (c.toNat - '0'.toNat) := by
    rw [Text.digitValue?_of_isDigit (isDigit_of_mem_toDigits c member), Option.getD_some]
  rw [ofDigits, List.foldl_ext _ _ 0 value]
  exact Nat.ofDigitChars_ten_toDigits

theorem length_toDigits_of_isWritable {n : Int} (short : isWritable n = true) :
    (Nat.toDigits 10 n.natAbs).length ≤ digitLimit := by
  have positive : 0 < digitLimit := by decide
  unfold isWritable at short
  -- The limit is named so that no power of it is computed.
  generalize digitLimit = limit at short positive ⊢
  rw [Nat.length_toDigits_le_iff (by decide) positive]
  exact of_decide_eq_true short

theorem head_toDigits {n : Nat} (positive : 0 < n) : ∀ c ∈ (Nat.toDigits 10 n).head?, c ≠ '0' := by
  induction n using Nat.strongRecOn with
  | ind n ih =>
      by_cases single : n < 10
      · rw [Nat.toDigits_of_lt_base single]
        rintro c ⟨⟩ zero
        exact absurd (Nat.digitChar_eq_zero.mp zero) (by omega)
      · rw [Nat.toDigits_of_base_le (by decide) (by omega),
          List.head?_append_of_ne_nil _ Nat.toDigits_ne_nil]
        exact ih (n / 10) (by omega) (by omega)

end FieldMap.Number
