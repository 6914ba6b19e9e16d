import FieldMap.Proofs.Number.Integer
import Mathlib.Algebra.Group.Nat.Defs

/-!
Numbers as they are written: a sign, digits with a point before, among or behind them, and a power of
ten. Every such text is read as a 64-bit number. A whole number that is read can be written again.
-/

namespace FieldMap.Number

structure Digits where
  chars : List Char
  decimal : ∀ c ∈ chars, Text.isDecimal c = true

structure Signed where
  chars : List Char
  negative : Bool
  signed : (chars, negative) ∈ signs

structure Power where
  mark : Char
  isMark : mark = 'e' ∨ mark = 'E'
  sign : Signed
  digits : Digits
  nonempty : digits.chars ≠ []

structure Numeral where
  sign : Signed
  whole : Digits
  fraction : Option Digits
  power : Option Power
  nonempty : whole.chars ≠ [] ∨ ∃ digits ∈ fraction, digits.chars ≠ []

def Power.chars (p : Power) : List Char := p.mark :: (p.sign.chars ++ p.digits.chars)

namespace Numeral

def fractionChars (n : Numeral) : List Char := (n.fraction.map fun digits => '.' :: digits.chars).getD []

def powerChars (n : Numeral) : List Char := (n.power.map Power.chars).getD []

def chars (n : Numeral) : List Char :=
  n.sign.chars ++ (n.whole.chars ++ (n.fractionChars ++ n.powerChars))

end Numeral

def marks : List Char := ['+', '-', '.', 'e', 'E']

theorem Signed.mem_marks (sign : Signed) : ∀ c ∈ sign.chars, c ∈ marks := by
  have each : ∀ sign ∈ signs, ∀ c ∈ sign.1, c ∈ marks := by simp [signs, marks]
  exact each _ sign.signed

theorem Power.mem_chars {p : Power} {c : Char} (member : c ∈ p.chars) :
    c ∈ marks ∨ Text.isDecimal c = true := by
  rcases List.mem_cons.mp member with rfl | rest
  · rcases p.isMark with mark | mark <;> rw [mark] <;> exact .inl (by decide)
  rcases List.mem_append.mp rest with sign | digit
  · exact .inl (p.sign.mem_marks c sign)
  · exact .inr (p.digits.decimal c digit)

namespace Numeral

variable (n : Numeral)

theorem mem_chars {c : Char} (member : c ∈ n.chars) : c ∈ marks ∨ Text.isDecimal c = true := by
  rcases List.mem_append.mp member with sign | rest
  · exact .inl (n.sign.mem_marks c sign)
  rcases List.mem_append.mp rest with whole | rest
  · exact .inr (n.whole.decimal c whole)
  rcases List.mem_append.mp rest with fraction | power
  · unfold fractionChars at fraction
    cases digits : n.fraction with
    | none => simp [digits] at fraction
    | some digits =>
        rw [digits] at fraction
        rcases List.mem_cons.mp fraction with rfl | digit
        · exact .inl (by decide)
        · exact .inr (Digits.decimal _ c digit)
  · unfold powerChars at power
    cases exponent : n.power with
    | none => simp [exponent] at power
    | some p =>
        rw [exponent] at power
        exact p.mem_chars power

theorem exists_digit : ∃ c ∈ n.chars, Text.isDecimal c = true := by
  rcases n.nonempty with whole | ⟨digits, fraction, nonempty⟩
  · obtain ⟨c, cs, split⟩ := List.exists_cons_of_ne_nil whole
    have digit : c ∈ n.whole.chars := split ▸ List.mem_cons_self
    exact ⟨c, by simp [chars, digit], n.whole.decimal c digit⟩
  · obtain ⟨c, cs, split⟩ := List.exists_cons_of_ne_nil nonempty
    have digit : c ∈ digits.chars := split ▸ List.mem_cons_self
    have member : c ∈ n.chars := by
      simp [chars, fractionChars, Option.mem_def.mp fraction, digit]
    exact ⟨c, member, digits.decimal c digit⟩

end Numeral

theorem Digits.head_not_mem {digits : Digits} {marks rest : List Char}
    (apart : marks.any Text.isDecimal = false) (after : ∀ c ∈ rest.head?, c ∉ marks) :
    ∀ c ∈ (digits.chars ++ rest).head?, c ∉ marks := by
  cases chars : digits.chars with
  | nil => exact after
  | cons first others =>
      rintro c ⟨⟩
      exact Text.not_mem_of_class (digits.decimal first (by simp [chars])) apart

namespace Numeral

variable (n : Numeral)

theorem head_powerChars : ∀ c ∈ n.powerChars.head?, c ∈ ['e', 'E'] := by
  unfold powerChars
  cases n.power with
  | none => nofun
  | some p =>
      rintro c ⟨⟩
      simpa using p.isMark

theorem head_fractionChars :
    ∀ c ∈ (n.fractionChars ++ n.powerChars).head?, c ∈ ['.', 'e', 'E'] := by
  unfold fractionChars
  cases n.fraction with
  | none => exact fun c head => List.mem_cons_of_mem _ (n.head_powerChars c head)
  | some digits =>
      rintro c ⟨⟩
      exact List.mem_cons_self

theorem splitPower_chars : ∃ power, splitPower n.powerChars = (power, []) := by
  unfold powerChars
  cases n.power with
  | none => exact ⟨0, rfl⟩
  | some p =>
      obtain ⟨first, others, nonempty⟩ := List.exists_cons_of_ne_nil p.nonempty
      rw [Option.map_some, Option.getD_some, Power.chars, splitPower, if_pos p.isMark,
        splitSign_signed p.sign.signed p.digits.decimal]
      simp only [spanDigits_of_decimal p.digits.decimal]
      rw [nonempty]
      exact ⟨_, rfl⟩

theorem read?_chars : ∃ d, Decimal.read? n.chars = some (d, []) := by
  obtain ⟨power, powerRead⟩ := n.splitPower_chars
  have unsigned :
      ∀ c ∈ (n.whole.chars ++ (n.fractionChars ++ n.powerChars)).head?, c ∉ ['+', '-'] :=
    Digits.head_not_mem (by decide)
      fun c head => Text.not_mem_of_mem (n.head_fractionChars c head) (by decide)
  have wholeStop : ∀ c ∈ (n.fractionChars ++ n.powerChars).head?, Text.isDecimal c = false :=
    fun c head => Text.eq_false_of_mem (n.head_fractionChars c head) (by decide)
  have fractionStop : ∀ c ∈ n.powerChars.head?, Text.isDecimal c = false :=
    fun c head => Text.eq_false_of_mem (n.head_powerChars c head) (by decide)
  rw [chars, Decimal.read?, splitSign_append n.sign.signed unsigned]
  simp only [spanDigits, Text.span_run n.whole.decimal wholeStop]
  cases fraction : n.fraction with
  | some digits =>
      have nonempty : (n.whole.chars.isEmpty && digits.chars.isEmpty) = false := by
        simpa [fraction, imp_iff_not_or] using n.nonempty
      simp only [fractionChars, fraction, Option.map_some, Option.getD_some, List.cons_append,
        Text.span_run digits.decimal fractionStop, powerRead, nonempty]
      exact ⟨_, rfl⟩
  | none =>
      have nonempty : n.whole.chars.isEmpty = false := by simpa [fraction] using n.nonempty
      have unpointed : ∀ more, n.powerChars ≠ '.' :: more := by
        intro more point
        exact absurd (n.head_powerChars '.' (by rw [point]; rfl)) (by decide)
      simp only [fractionChars, fraction, Option.map_none, Option.getD_none, List.nil_append,
        List.isEmpty_nil, Bool.and_true, powerRead, nonempty]
      exact ⟨_, rfl⟩

end Numeral

theorem digitValue_lt (c : Char) : (Text.digitValue? c).getD 0 < 10 := by
  unfold Text.digitValue?
  cases found : Text.decimalZeros.find? fun start => start ≤ c.toNat && c.toNat < start + 10 with
  | none => exact Nat.zero_lt_succ 9
  | some start =>
      have bounds := List.find?_some found
      simp only [Bool.and_eq_true, decide_eq_true_eq] at bounds
      simp only [Option.map_some, Option.getD_some]
      omega

theorem ofDigits_lt (digits : List Char) : ofDigits digits < 10 ^ digits.length := by
  induction digits using List.reverseRecOn with
  | nil => decide
  | append_singleton digits c ih =>
      have last := digitValue_lt c
      rw [ofDigits, List.foldl_append, ← ofDigits, List.length_append, List.length_singleton,
        Nat.pow_succ]
      simp only [List.foldl_cons, List.foldl_nil]
      omega

theorem isWritable_of_readInteger {cs : List Char} {n : Int} (read : readInteger cs = .ok n) :
    isWritable n = true := by
  simp only [readInteger] at read
  cases grouped : groupedDigits? (splitSign (Text.trimmed Text.isNumberBlank cs)).2 with
  | none => rw [grouped] at read; cases read
  | some digits =>
      simp only [grouped, ofSignedDigits] at read
      split at read
      · cases read
      · next short =>
          have size : n.natAbs = ofDigits digits := by
            cases read
            split <;> simp
          rw [isWritable, decide_eq_true_iff, size]
          -- The limit is named so that no power of it is computed.
          generalize digitLimit = limit at short ⊢
          calc ofDigits digits < 10 ^ digits.length := ofDigits_lt digits
            _ ≤ 10 ^ limit := Nat.pow_le_pow_right (by decide) (Nat.le_of_not_lt short)

end FieldMap.Number
