import FieldMap.Json.Reader
import FieldMap.Json.Writer
import FieldMap.Proofs.Outcome
import FieldMap.Proofs.Text.Surrogate
import Mathlib.Data.List.Chain

/-!
Texts between quotes, as they are written and read back. Reading undoes every escape. Two separate
halves of surrogate pairs are an exception where the second could belong to the first: what is written
for them is read as one character.
-/

namespace FieldMap

namespace Text

theorem hexDigits_succ {width : Nat} (wide : 0 < width) (n : Nat) :
    hexDigits (width + 1) n = hexDigits width (n / 16) ++ [Nat.digitChar (n % 16)] := by
  by_cases single : n < 16
  · have high : n / 16 = 0 := by omega
    have digits : Nat.toDigits 16 0 = ['0'] := rfl
    rw [hexDigits, hexDigits, Nat.toDigits_of_lt_base single, high, digits, Nat.mod_eq_of_lt single]
    obtain ⟨others, rfl⟩ : ∃ others, width = others + 1 := ⟨width - 1, by omega⟩
    simp [List.replicate_succ']
  · rw [hexDigits, hexDigits, Nat.toDigits_of_base_le (by decide) (by omega), List.length_append,
      List.length_singleton, Nat.add_sub_add_right, List.append_assoc]

end Text

namespace Json
open Outcome

theorem hexValue?_digitChar : ∀ digit < 16, hexValue? (Nat.digitChar digit) = some digit := by decide

theorem codeUnit?_hexDigits {code : Nat} (short : code < 0x10000) :
    ∃ a b c d, Text.hexDigits 4 code = [a, b, c, d] ∧ codeUnit? a b c d = some code := by
  have single : code / 16 / 16 / 16 < 16 := by omega
  have digits : Text.hexDigits 4 code = [Nat.digitChar (code / 16 / 16 / 16),
      Nat.digitChar (code / 16 / 16 % 16), Nat.digitChar (code / 16 % 16),
      Nat.digitChar (code % 16)] := by
    rw [Text.hexDigits_succ (by decide), Text.hexDigits_succ (by decide),
      Text.hexDigits_succ (by decide), Text.hexDigits, Nat.toDigits_of_lt_base single]
    rfl
  refine ⟨_, _, _, _, digits, ?_⟩
  have digit (n : Nat) : hexValue? (Nat.digitChar (n % 16)) = some (n % 16) :=
    hexValue?_digitChar _ (Nat.mod_lt n (by decide))
  have place : ((code / 16 / 16 / 16 * 16 + code / 16 / 16 % 16) * 16 + code / 16 % 16) * 16 +
      code % 16 = code := by omega
  simp only [codeUnit?, hexValue?_digitChar _ single, digit]
  exact congrArg some place

theorem hexValue?_of_codeUnit? {a b c d x : Char} {code : Nat} (unit : codeUnit? a b c d = some code)
    (member : x ∈ [a, b, c, d]) : hexValue? x ≠ none := by
  intro missing
  have absent : codeUnit? a b c d = none := by
    simp only [List.mem_cons, List.not_mem_nil, or_false] at member
    unfold codeUnit?
    rcases member with rfl | rfl | rfl | rfl <;> simp [missing]
  rw [unit] at absent
  cases absent

/-- The texts that a character may have between quotes, or the halves that one is kept as. -/
inductive Escaped : List Char → List Char → Prop
  | plain {c : Char} (quote : c ≠ '"') (backslash : c ≠ '\\') (visible : 0x1f < c.toNat) :
      Escaped [c] [c]
  | short {c letter : Char} (code : letter ≠ 'u') (stands : shortEscape? letter = some c) :
      Escaped [c] ['\\', letter]
  | unit {c x₁ x₂ x₃ x₄ : Char} (reads : codeUnit? x₁ x₂ x₃ x₄ = some (Text.codeOf c)) :
      Escaped [c] ['\\', 'u', x₁, x₂, x₃, x₄]
  | pair {x₁ x₂ x₃ x₄ y₁ y₂ y₃ y₄ : Char} {high low : Nat} (first : codeUnit? x₁ x₂ x₃ x₄ = some high)
      (second : codeUnit? y₁ y₂ y₃ y₄ = some low) (isHigh : Text.isHighSurrogate high = true)
      (isLow : Text.isLowSurrogate low = true) :
      Escaped (Text.ofPair high low) ['\\', 'u', x₁, x₂, x₃, x₄, '\\', 'u', y₁, y₂, y₃, y₄]

theorem escaped_units {high low : Nat} (isHigh : Text.isHighSurrogate high = true)
    (isLow : Text.isLowSurrogate low = true) :
    Escaped (Text.ofPair high low) (escapedUnits high ++ escapedUnits low) := by
  have short : high < 0x10000 ∧ low < 0x10000 := by
    simp only [Text.isHighSurrogate, Text.isLowSurrogate, Bool.and_eq_true,
      decide_eq_true_eq] at isHigh isLow
    omega
  obtain ⟨x₁, x₂, x₃, x₄, digits, first⟩ := codeUnit?_hexDigits short.1
  obtain ⟨y₁, y₂, y₃, y₄, digits', second⟩ := codeUnit?_hexDigits short.2
  simp only [escapedUnits, short, if_true, digits, digits']
  exact .pair first second isHigh isLow

theorem escaped_escapedUnits (c : Char) : Escaped [c] (escapedUnits (Text.codeOf c)) := by
  by_cases basic : Text.codeOf c < 0x10000
  · obtain ⟨x₁, x₂, x₃, x₄, digits, reads⟩ := codeUnit?_hexDigits basic
    simp only [escapedUnits, basic, if_true, digits]
    exact .unit reads
  · have beyond : 0x10000 ≤ Text.codeOf c := Nat.le_of_not_lt basic
    have bound := Text.codeOf_lt c
    obtain ⟨whole, isHigh, isLow⟩ := Text.pairCode_halves beyond bound
    have pair := escaped_units isHigh isLow
    rw [Text.ofPair, whole, Text.charsOf_codeOf] at pair
    have high : Text.highOf (Text.codeOf c) < 0x10000 := by
      rw [Text.highOf]
      omega
    have low : Text.lowOf (Text.codeOf c) < 0x10000 := by
      rw [Text.lowOf]
      omega
    simp only [escapedUnits, high, low, if_true] at pair
    simp only [escapedUnits, basic, if_false]
    exact pair

theorem escaped_escapedChar (c : Char) : Escaped [c] (escapedChar c) := by
  unfold escapedChar
  split
  case h_8 =>
    split
    · next visible =>
        refine .plain (by assumption) (by assumption) ?_
        simp only [Bool.and_eq_true, decide_eq_true_eq] at visible
        omega
    · exact escaped_escapedUnits c
  all_goals exact .short (by decide) (by decide)

theorem escapedChar_half {c : Char} (half : Text.isSurrogate (Text.codeOf c) = true) :
    escapedChar c = escapedUnits (Text.codeOf c) := by
  unfold escapedChar
  split
  case h_8 =>
    split
    · next visible =>
        simp only [Bool.and_eq_true, decide_eq_true_eq] at visible
        rw [Text.isSurrogate_codeOf, Text.half?_of_lt (by omega)] at half
        cases half
    · rfl
  all_goals exact absurd half (by decide)

/-- A text that does not begin with a second half of a surrogate pair, nor with a damaged escape. -/
def Unpaired (cs : List Char) : Prop :=
  ∀ x₁ x₂ x₃ x₄ rest, cs = '\\' :: 'u' :: x₁ :: x₂ :: x₃ :: x₄ :: rest →
    ∃ code, codeUnit? x₁ x₂ x₃ x₄ = some code ∧ Text.isLowSurrogate code = false

theorem unpaired_quote (rest : List Char) : Unpaired ('"' :: rest) := by
  rintro x₁ x₂ x₃ x₄ more same
  cases same

section Reading

variable {opening code : Nat} {x₁ x₂ x₃ x₄ : Char} {tail cs rest : List Char}

theorem stringBody_unit (unit : codeUnit? x₁ x₂ x₃ x₄ = some code)
    (read : stringBody opening tail = .ok (cs, rest))
    (apart : Text.isHighSurrogate code = true → Unpaired tail) :
    stringBody opening ('\\' :: 'u' :: x₁ :: x₂ :: x₃ :: x₄ :: tail) =
      .ok (Text.ofCode code :: cs, rest) := by
  cases tail with
  | nil =>
      rw [stringBody] at read
      cases read
  | cons e more =>
      rw [stringBody, unit]
      dsimp only
      -- Only a first half looks at the escape behind it, which must not be a second half then.
      split
      · next y₁ y₂ y₃ y₄ more =>
          split
          · next high =>
              obtain ⟨next, second, notLow⟩ :=
                apart (Bool.and_eq_true_iff.mp high).1 y₁ y₂ y₃ y₄ more rfl
              simp only [second, notLow, read]
              rfl
          · rw [read]
            rfl
      · rw [read]
        rfl

theorem stringBody_escaped {ds written : List Char}
    (escaped : Escaped ds written) (read : stringBody opening tail = .ok (cs, rest))
    (apart : ∀ c, ds = [c] → Text.isHighSurrogate (Text.codeOf c) = true → Unpaired tail) :
    stringBody opening (written ++ tail) = .ok (ds ++ cs, rest) := by
  cases escaped with
  | @plain c quote backslash visible =>
      have shown : ¬ c.toNat ≤ 0x1f := by omega
      rw [List.singleton_append, stringBody, if_neg shown, read]
      · rfl
      all_goals simp [quote, backslash]
  | @short c letter code stands =>
      have body : stringBody opening ('\\' :: letter :: tail) = .ok (c :: cs, rest) := by
        rw [stringBody, stands]
        · simp only [read]
          rfl
        all_goals simp [code]
      exact body
  | @unit c _ _ _ _ reads =>
      have body := stringBody_unit reads read (apart c rfl)
      rw [Text.ofCode_codeOf] at body
      exact body
  | @pair x₁ x₂ x₃ x₄ y₁ y₂ y₃ y₄ high low first second isHigh isLow =>
      have more : tail.isEmpty = false := by
        cases tail with
        | nil =>
            rw [stringBody] at read
            cases read
        | cons _ _ => rfl
      have body : stringBody opening ('\\' :: 'u' :: x₁ :: x₂ :: x₃ :: x₄ :: '\\' :: 'u' :: y₁ ::
          y₂ :: y₃ :: y₄ :: tail) = .ok (Text.ofPair high low ++ cs, rest) := by
        rw [stringBody, first]
        simp only [isHigh, more, second, isLow, read]
        rfl
      exact body

theorem stringBody_halves {high low : Nat} (isHigh : Text.isHighSurrogate high = true)
    (isLow : Text.isLowSurrogate low = true) (opening : Nat) (rest : List Char) :
    stringBody opening (escapedUnits high ++ escapedUnits low ++ '"' :: rest) =
      .ok (Text.ofPair high low, rest) := by
  have closed : stringBody opening ('"' :: rest) = .ok ([], rest) := by rw [stringBody]
  have body := stringBody_escaped (escaped_units isHigh isLow) closed fun _ _ _ => unpaired_quote rest
  rw [List.append_nil] at body
  exact body

end Reading

/-- No second half of a surrogate pair stands right after a first half, except where the two are
kept for one character. -/
def Unsplit (cs : List Char) : Prop :=
  cs.IsChain fun c next => Text.displaced? (Text.codeOf c) (Text.codeOf next) = none →
    Text.isHighSurrogate (Text.codeOf c) = true → Text.isLowSurrogate (Text.codeOf next) = false

theorem unpaired_escaped {c : Char} {written : List Char} (escaped : Escaped [c] written)
    (notLow : Text.isLowSurrogate (Text.codeOf c) = false) (tail : List Char) :
    Unpaired (written ++ tail) := by
  rintro z₁ z₂ z₃ z₄ rest same
  generalize chars : [c] = cs at escaped
  cases escaped with
  | plain quote backslash visible =>
      cases same
      exact absurd rfl backslash
  | short code stands =>
      cases same
      exact absurd rfl code
  | unit reads =>
      cases chars
      simp only [List.cons_append, List.cons.injEq, true_and] at same
      obtain ⟨rfl, rfl, rfl, rfl, -⟩ := same
      exact ⟨_, reads, notLow⟩
  | pair first second isHigh isLow =>
      simp only [List.cons_append, List.cons.injEq, true_and] at same
      obtain ⟨rfl, rfl, rfl, rfl, -⟩ := same
      refine ⟨_, first, ?_⟩
      simp only [Text.isHighSurrogate, Bool.and_eq_true, decide_eq_true_eq] at isHigh
      simp only [Text.isLowSurrogate, Bool.and_eq_false_iff, decide_eq_false_iff_not]
      omega

/-- Two halves that are kept for one character are read as that character, hence as themselves. -/
theorem escaped_displaced {c next : Char} {code : Nat}
    (found : Text.displaced? (Text.codeOf c) (Text.codeOf next) = some code) :
    Escaped [c, next] (escapedChar c ++ escapedChar next) := by
  obtain ⟨isHigh, isLow, -, same⟩ := Text.displaced?_eq_some found
  have pair := escaped_units isHigh isLow
  rw [Text.ofPair, ← same, Text.charsOf_displaced found] at pair
  rw [escapedChar_half (by rw [Text.isSurrogate, isHigh, Bool.true_or]),
    escapedChar_half (by rw [Text.isSurrogate, isLow, Bool.or_true])]
  exact pair

theorem stringBody_text {cs : List Char} (unsplit : Unsplit cs) (opening : Nat) (rest : List Char) :
    stringBody opening (cs.flatMap escapedChar ++ '"' :: rest) = .ok (cs, rest) := by
  have closed : stringBody opening ('"' :: rest) = .ok ([], rest) := by rw [stringBody]
  induction cs using Text.codes.induct with
  | case1 => exact closed
  | case2 c =>
      rw [List.flatMap_singleton]
      exact stringBody_escaped (escaped_escapedChar c) closed fun _ _ _ => unpaired_quote rest
  | case3 c next cs code found ih =>
      have later : Unsplit cs := unsplit.tail.tail
      rw [List.flatMap_cons, List.flatMap_cons, ← List.append_assoc, List.append_assoc]
      exact stringBody_escaped (escaped_displaced found) (ih later) (by simp)
  | case4 c next cs whole ih =>
      have later : Unsplit (next :: cs) := unsplit.tail
      rw [List.flatMap_cons, List.append_assoc]
      refine stringBody_escaped (escaped_escapedChar c) (ih later) ?_
      rintro _ ⟨⟩ high
      rw [List.flatMap_cons, List.append_assoc]
      have notLow := (List.isChain_cons_cons.mp unsplit).1 whole high
      exact unpaired_escaped (escaped_escapedChar next) notLow _

end Json

end FieldMap
