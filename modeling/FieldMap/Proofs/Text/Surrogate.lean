import FieldMap.Text.Surrogate

/-!
Codes of texts. What stands for the codes of a text is that text, so a text can be taken apart into
codes and put together again without loss.
-/

namespace FieldMap.Text

theorem isSurrogate_iff {code : Nat} : isSurrogate code = true ↔ 0xd800 ≤ code ∧ code < 0xe000 := by
  simp only [isSurrogate, isHighSurrogate, isLowSurrogate, Bool.or_eq_true, Bool.and_eq_true,
    decide_eq_true_eq]
  omega

theorem isSurrogate_of_lt {code : Nat} (basic : code < 0xd800) : isSurrogate code = false := by
  rw [Bool.eq_false_iff, ne_eq, isSurrogate_iff]
  omega

theorem isDisplaced_iff {code : Nat} :
    isDisplaced code = true ↔ 0x10d800 ≤ code ∧ code < 0x10e000 := by
  simp only [isDisplaced, Bool.and_eq_true, decide_eq_true_eq]

theorem toNat_valid (c : Char) : c.toNat < 0xd800 ∨ 0xdfff < c.toNat ∧ c.toNat < 0x110000 := c.valid

/-- A character stands for half of a pair, or for itself and then for none that is displaced. -/
theorem codeOf_cases (c : Char) :
    (half? c = some (codeOf c) ∧ isSurrogate (codeOf c) = true ∧ 0x100000 + codeOf c = c.toNat) ∨
      (half? c = none ∧ codeOf c = c.toNat ∧ isSurrogate c.toNat = false ∧
        isDisplaced c.toNat = false) := by
  have valid := toNat_valid c
  unfold codeOf half?
  simp only
  split
  · next half =>
      have range := isSurrogate_iff.mp half
      refine .inl ⟨rfl, half, ?_⟩
      rw [Option.getD_some]
      omega
  · next whole =>
      rw [isSurrogate_iff] at whole
      refine .inr ⟨rfl, rfl, ?_, ?_⟩
      · rw [Bool.eq_false_iff, ne_eq, isSurrogate_iff]
        omega
      · rw [Bool.eq_false_iff, ne_eq, isDisplaced_iff]
        omega

theorem ofCode_codeOf (c : Char) : ofCode (codeOf c) = c := by
  rcases codeOf_cases c with ⟨-, half, place⟩ | ⟨-, code, whole, -⟩
  · rw [ofCode, if_pos half, place, Char.ofNat_toNat]
  · rw [code, ofCode, if_neg (Bool.eq_false_iff.mp whole), Char.ofNat_toNat]

theorem half?_of_lt {c : Char} (basic : c.toNat < 0xd800) : half? c = none := by
  have whole : isSurrogate (c.toNat % 0x100000) = false := isSurrogate_of_lt (by omega)
  rw [half?, if_neg (Bool.eq_false_iff.mp whole)]

theorem codeOf_of_whole {c : Char} (whole : half? c = none) : codeOf c = c.toNat := by
  rw [codeOf, whole, Option.getD_none]

theorem isSurrogate_codeOf {c : Char} : isSurrogate (codeOf c) = (half? c).isSome := by
  rcases codeOf_cases c with ⟨found, half, -⟩ | ⟨none, code, whole, -⟩
  · rw [half, found, Option.isSome_some]
  · rw [code, whole, none, Option.isSome_none]

theorem isDisplaced_codeOf (c : Char) : isDisplaced (codeOf c) = false := by
  rcases codeOf_cases c with ⟨-, half, -⟩ | ⟨-, code, -, apart⟩
  · have range := isSurrogate_iff.mp half
    rw [Bool.eq_false_iff, ne_eq, isDisplaced_iff]
    omega
  · rw [code, apart]

theorem toNat_ofNat {code : Nat} (bound : code < 0x110000) (whole : isSurrogate code = false) :
    (Char.ofNat code).toNat = code := by
  rw [Bool.eq_false_iff, ne_eq, isSurrogate_iff] at whole
  have valid : code.isValidChar := by
    rw [Nat.isValidChar]
    omega
  rw [Char.ofNat, dif_pos valid]
  rfl

theorem codeOf_lt (c : Char) : codeOf c < 0x110000 := by
  rcases codeOf_cases c with ⟨-, half, -⟩ | ⟨-, code, -, -⟩
  · have range := isSurrogate_iff.mp half
    omega
  · have valid := toNat_valid c
    omega

theorem charsOf_codeOf (c : Char) : charsOf (codeOf c) = [c] := by
  rw [charsOf, isDisplaced_codeOf, if_neg Bool.false_ne_true, ofCode_codeOf]

theorem highOf_pairCode {high : Nat} (isHigh : isHighSurrogate high = true) (low : Nat) :
    highOf (pairCode high low) = high := by
  simp only [isHighSurrogate, Bool.and_eq_true, decide_eq_true_eq] at isHigh
  rw [highOf, pairCode]
  omega

theorem lowOf_pairCode {low : Nat} (isLow : isLowSurrogate low = true) (high : Nat) :
    lowOf (pairCode high low) = low := by
  simp only [isLowSurrogate, Bool.and_eq_true, decide_eq_true_eq] at isLow
  rw [lowOf, pairCode]
  omega

theorem pairCode_halves {code : Nat} (beyond : 0x10000 ≤ code) (bound : code < 0x110000) :
    pairCode (highOf code) (lowOf code) = code ∧ isHighSurrogate (highOf code) = true ∧
      isLowSurrogate (lowOf code) = true := by
  rw [isHighSurrogate, isLowSurrogate, Bool.and_eq_true, Bool.and_eq_true, decide_eq_true_iff,
    decide_eq_true_iff, decide_eq_true_iff, decide_eq_true_iff, pairCode, highOf, lowOf]
  omega

theorem displaced?_eq_some {high low code : Nat} (found : displaced? high low = some code) :
    isHighSurrogate high = true ∧ isLowSurrogate low = true ∧ isDisplaced code = true ∧
      code = pairCode high low := by
  unfold displaced? at found
  split at found
  · next halves =>
      cases found
      simp only [Bool.and_eq_true] at halves
      exact ⟨halves.1.1, halves.1.2, halves.2, rfl⟩
  · cases found

theorem displaced?_of_not_high {high low : Nat} (notHigh : isHighSurrogate high = false) :
    displaced? high low = none := by
  simp [displaced?, notHigh]

theorem displaced?_of_not_low {high low : Nat} (notLow : isLowSurrogate low = false) :
    displaced? high low = none := by
  simp [displaced?, notLow]

theorem charsOf_displaced {c next : Char} {code : Nat}
    (found : displaced? (codeOf c) (codeOf next) = some code) : charsOf code = [c, next] := by
  obtain ⟨isHigh, isLow, displaced, rfl⟩ := displaced?_eq_some found
  rw [charsOf, if_pos displaced, highOf_pairCode isHigh, lowOf_pairCode isLow,
    ofCode_codeOf, ofCode_codeOf]

theorem ofCodes_codes (cs : List Char) : ofCodes (codes cs) = cs := by
  unfold ofCodes
  fun_induction codes cs with
  | case1 => rfl
  | case2 c => rw [List.flatMap_singleton, charsOf_codeOf]
  | case3 c next cs code found ih =>
      rw [List.flatMap_cons, charsOf_displaced found, ih]
      rfl
  | case4 c next cs apart ih =>
      rw [List.flatMap_cons, charsOf_codeOf, ih]
      rfl

theorem codes_cons {c : Char} (notHigh : isHighSurrogate (codeOf c) = false) (cs : List Char) :
    codes (c :: cs) = codeOf c :: codes cs := by
  cases cs with
  | nil => rfl
  | cons next cs => rw [codes, displaced?_of_not_high notHigh]

theorem codes_append {cs ds : List Char} (apart : ∀ d ∈ ds.head?, isLowSurrogate (codeOf d) = false) :
    codes (cs ++ ds) = codes cs ++ codes ds := by
  fun_induction codes cs with
  | case1 => rfl
  | case2 c =>
      cases ds with
      | nil => rfl
      | cons d ds =>
          rw [List.singleton_append, codes, displaced?_of_not_low (apart d rfl)]
          rfl
  | case3 c next cs code found ih =>
      rw [List.cons_append, List.cons_append, codes, found]
      exact congrArg (code :: ·) ih
  | case4 c next cs unfound ih =>
      rw [List.cons_append, List.cons_append, codes, unfound]
      exact congrArg (codeOf c :: ·) ih

theorem lt_of_mem_codes {cs : List Char} {code : Nat} (member : code ∈ codes cs) :
    code < 0x110000 := by
  fun_induction codes cs with
  | case1 => cases member
  | case2 c =>
      rw [List.mem_singleton.mp member]
      exact codeOf_lt c
  | case3 c next cs pair found ih =>
      rcases List.mem_cons.mp member with rfl | later
      · have range := isDisplaced_iff.mp (displaced?_eq_some found).2.2.1
        omega
      · exact ih later
  | case4 c next cs apart ih =>
      rcases List.mem_cons.mp member with rfl | later
      · exact codeOf_lt c
      · exact ih later

theorem codes_of_whole {cs : List Char} (whole : ∀ c ∈ cs, half? c = none) :
    codes cs = cs.map Char.toNat := by
  induction cs with
  | nil => rfl
  | cons c cs ih =>
      obtain ⟨first, others⟩ := List.forall_mem_cons.mp whole
      have single : isSurrogate (codeOf c) = false := by rw [isSurrogate_codeOf, first]; rfl
      rw [codes_cons (Bool.or_eq_false_iff.mp single).1, codeOf_of_whole first, ih others,
        List.map_cons]

end FieldMap.Text
