import FieldMap.Proofs.Chain.Balance

/-!
Parameters as the scan of a spec sees them. It knows quotes, backslashes and brackets only, and yet it
ends every JSON text outside quotes and with as many brackets around it as before.
-/

namespace FieldMap.Chain
open Outcome

def outside (depth : Nat) : Scan := ⟨none, false, depth⟩

def delimiters : List Char := ['"', '\'', '[', ']', '\x7b', '\x7d']

variable {depth : Nat} {c : Char} {cs rest : List Char}

theorem not_mem_delimiters (plain : c ∉ marks) : c ∉ delimiters :=
  fun delimiter => plain (List.mem_cons_of_mem '.' delimiter)

theorem run_cons (s : Scan) (c : Char) (cs : List Char) : s.run (c :: cs) = (s.step c).run cs := rfl

theorem run_plain (plain : c ∉ delimiters) :
    (outside depth).run (c :: cs) = (outside depth).run cs := by
  simp only [delimiters, List.mem_cons, List.not_mem_nil, not_or] at plain
  simp [run_cons, Scan.step, outside, plain]

theorem run_append_plain (plain : ∀ c ∈ cs, c ∉ delimiters) (rest : List Char) :
    (outside depth).run (cs ++ rest) = (outside depth).run rest := by
  induction cs with
  | nil => rfl
  | cons c cs ih =>
      obtain ⟨here, later⟩ := List.forall_mem_cons.mp plain
      rw [List.cons_append, run_plain here, ih later]

section

variable (depth)

theorem run_dropWhile {p : Char → Bool} (plain : delimiters.any p = false) (cs : List Char) :
    (outside depth).run (cs.dropWhile p) = (outside depth).run cs := by
  induction cs with
  | nil => rfl
  | cons c cs ih =>
      rw [List.dropWhile_cons]
      split
      · next holds => rw [ih, run_plain (Text.not_mem_of_class holds plain)]
      · rfl

theorem run_skipSpace (cs : List Char) :
    (outside depth).run (Json.skipSpace cs) = (outside depth).run cs :=
  run_dropWhile depth (by decide) cs

theorem run_spanDigits (cs : List Char) :
    (outside depth).run (Json.spanDigits cs).2 = (outside depth).run cs := by
  rw [Json.spanDigits, List.span_eq_takeWhile_dropWhile]
  exact run_dropWhile depth (by decide) cs

theorem run_splitSign (cs : List Char) :
    (outside depth).run (Number.splitSign cs).2 = (outside depth).run cs := by
  unfold Number.splitSign
  split
  · exact (run_plain (by decide)).symm
  · exact (run_plain (by decide)).symm
  · rfl

theorem run_fractionPart (cs : List Char) :
    (outside depth).run (Json.fractionPart cs).2 = (outside depth).run cs := by
  unfold Json.fractionPart
  split
  · next rest =>
      have digits := run_spanDigits depth rest
      rcases split : Json.spanDigits rest with ⟨_ | ⟨d, ds⟩, more⟩
      · rfl
      · rw [split] at digits
        exact digits.trans (run_plain (by decide)).symm
  · rfl

theorem run_powerPart (cs : List Char) :
    (outside depth).run (Json.powerPart cs).2 = (outside depth).run cs := by
  unfold Json.powerPart
  split
  · next c rest =>
      split
      · next mark =>
          have plain : c ∉ delimiters := by
            simp only [Bool.or_eq_true, beq_iff_eq] at mark
            rcases mark with rfl | rfl <;> decide
          have sign := run_splitSign depth rest
          have digits := run_spanDigits depth (Number.splitSign rest).2
          rcases split : Json.spanDigits (Number.splitSign rest).2 with ⟨_ | ⟨d, ds⟩, more⟩
          · simp [split]
          · rw [split] at digits
            simp only [split]
            exact digits.trans (sign.trans (run_plain plain).symm)
      · rfl
  · rfl

end

theorem run_number {v : Value} (read : Json.number cs = .ok (v, rest)) :
    (outside depth).run cs = (outside depth).run rest := by
  unfold Json.number at read
  split at read
  next negative unsigned signed =>
  split at read
  next whole more spanned =>
  have sign : (outside depth).run unsigned = (outside depth).run cs := by
    split at signed
    · cases signed
      exact (run_plain (by decide)).symm
    · cases signed
      rfl
  have digits : (outside depth).run more = (outside depth).run unsigned := by
    split at spanned
    · cases spanned
      exact (run_plain (by decide)).symm
    · rw [← run_spanDigits depth unsigned, spanned]
  have fraction := run_fractionPart depth more
  have power := run_powerPart depth (Json.fractionPart more).2
  rw [← sign, ← digits, ← fraction, ← power]
  split at read
  · cases read
  · dsimp only at read
    split at read
    · split at read
      · cases read
      · cases read
        rfl
    · cases read
      rfl

theorem run_quoted {c : Char} (quote : c ≠ '"') (backslash : c ≠ '\\') :
    (quotedAt depth).run (c :: cs) = (quotedAt depth).run cs := by
  simp [run_cons, quotedAt, Scan.step, quote, backslash]

theorem run_escaped : (quotedAt depth).run ('\\' :: c :: cs) = (quotedAt depth).run cs := rfl

theorem run_unit {x₁ x₂ x₃ x₄ : Char} {code : Nat}
    (reads : Json.codeUnit? x₁ x₂ x₃ x₄ = some code) :
    (quotedAt depth).run ('\\' :: 'u' :: x₁ :: x₂ :: x₃ :: x₄ :: cs) = (quotedAt depth).run cs := by
  -- A quote or backslash has no value as a hexadecimal digit.
  have digit {x : Char} (member : x ∈ [x₁, x₂, x₃, x₄]) (more : List Char) :
      (quotedAt depth).run (x :: more) = (quotedAt depth).run more := by
    have value := Json.hexValue?_of_codeUnit? reads member
    apply run_quoted <;> rintro rfl <;> exact value rfl
  rw [run_escaped, digit (by simp), digit (by simp), digit (by simp), digit (by simp)]

theorem runs_after {x : Except Json.Stuck (List Char × List Char)} {before after : List Char}
    (moves : (quotedAt depth).run before = (quotedAt depth).run after)
    (later : ReturnsOnly (fun r => (quotedAt depth).run after = (outside depth).run r.2) x)
    (ds : List Char) :
    ReturnsOnly (fun r => (quotedAt depth).run before = (outside depth).run r.2)
      (do let (cs, rest) ← x; return (ds ++ cs, rest)) :=
  later.bind fun _ same => .ok (moves.trans same)

theorem run_stringBody (opening : Nat) (cs : List Char) :
    ReturnsOnly (fun r => (quotedAt depth).run cs = (outside depth).run r.2)
      (Json.stringBody opening cs) := by
  fun_induction Json.stringBody opening cs with
  | case2 => exact .ok rfl
  | case5 a b c d high first e f g h more pair low second isLow ih =>
      exact runs_after ((run_unit first).trans (run_unit second)) ih _
  | case6 a b c d high first e f g h more pair low second notLow ih =>
      exact runs_after (run_unit first) ih [_]
  | case7 a b c d high first e f g h more unpaired ih => exact runs_after (run_unit first) ih [_]
  | case8 a b c d code unit e more other ih => exact runs_after (run_unit unit) ih [_]
  | case11 c more _ _ escaped stands ih => exact runs_after run_escaped ih [_]
  | case14 c more quote _ _ last backslash visible ih =>
      refine runs_after (run_quoted quote ?_) ih [_]
      rintro rfl
      cases more with
      | nil => exact last rfl rfl
      | cons d more => exact backslash d more rfl rfl
  | _ => exact .error _

theorem run_text (depth opening : Nat) (cs : List Char) :
    ReturnsOnly (fun r => (outside depth).run ('"' :: cs) = (outside depth).run r.2)
      (Json.stringBody opening cs) :=
  run_stringBody opening cs

theorem run_opening {opening : Char} (bracket : opening = '[' ∨ opening = '\x7b') (cs : List Char) :
    (outside depth).run (opening :: cs) = (outside (depth + 1)).run cs := by
  rcases bracket with rfl | rfl <;> rfl

/-- A value leaves the scan at its depth, and the rest of a collection leads it out of the brackets. -/
structure Crossed (levels fuel : Nat) : Prop where
  value (cs : List Char) (depth : Nat) : ReturnsOnly
    (fun r => (outside depth).run cs = (outside depth).run r.2) (Json.value levels fuel cs)
  items (cs : List Char) (depth : Nat) : ReturnsOnly
    (fun r => (outside (depth + 1)).run cs = (outside depth).run r.2) (Json.items levels fuel cs)
  members (cs : List Char) (depth : Nat) : ReturnsOnly
    (fun r => (outside (depth + 1)).run cs = (outside depth).run r.2) (Json.members levels fuel cs)

section Nested

variable {fuel : Nat} (deeper : ∀ levels, Crossed levels fuel) (levels : Nat) (cs : List Char)
  (depth : Nat)
include deeper

theorem run_value : ReturnsOnly (fun r => (outside depth).run cs = (outside depth).run r.2)
    (Json.value levels (fuel + 1) cs) := by
  unfold Json.value
  split
  · next rest => exact (run_text depth _ rest).bind fun _ same => .ok same
  · next rest =>
      rw [run_opening (.inr rfl), ← run_skipSpace]
      split
      · exact .error _
      · next closed =>
          rw [closed]
          exact .ok rfl
      · exact ((deeper _).members _ depth).bind fun _ same => .ok same
  · next rest =>
      rw [run_opening (.inl rfl), ← run_skipSpace]
      split
      · exact .error _
      · next closed =>
          rw [closed]
          exact .ok rfl
      · exact ((deeper _).items _ depth).bind fun _ same => .ok same
  all_goals first
    | exact .ok rfl
    | exact fun r read => run_number read

theorem run_items : ReturnsOnly (fun r => (outside (depth + 1)).run cs = (outside depth).run r.2)
    (Json.items levels (fuel + 1) cs) := by
  unfold Json.items
  refine ((deeper _).value _ (depth + 1)).bind ?_
  rintro ⟨item, rest⟩ first
  dsimp only at first ⊢
  rw [first, ← run_skipSpace]
  split
  · next closed =>
      rw [closed]
      exact .ok rfl
  · next rest comma =>
      rw [comma, run_plain (by decide), ← run_skipSpace]
      exact ((deeper _).items _ depth).bind fun _ same => .ok same
  · exact .error _

theorem run_members : ReturnsOnly (fun r => (outside (depth + 1)).run cs = (outside depth).run r.2)
    (Json.members levels (fuel + 1) cs) := by
  unfold Json.members
  split
  · next rest =>
      refine (run_text (depth + 1) _ rest).bind ?_
      rintro ⟨key, rest⟩ named
      dsimp only at named ⊢
      rw [named, ← run_skipSpace _ rest]
      split
      · next rest colon =>
          rw [colon, run_plain (by decide), ← run_skipSpace]
          refine ((deeper _).value _ (depth + 1)).bind ?_
          rintro ⟨v, rest⟩ read
          dsimp only at read ⊢
          rw [read, ← run_skipSpace]
          split
          · next closed =>
              rw [closed]
              exact .ok rfl
          · next rest comma =>
              rw [comma, run_plain (by decide), ← run_skipSpace]
              exact ((deeper _).members _ depth).bind fun _ same => .ok same
          · exact .error _
      · exact .error _
  · exact .error _

end Nested

-- Values, items and members are read by each other, so one induction on the fuel is for all three.
theorem run_nested (fuel levels : Nat) : Crossed levels fuel := by
  induction fuel generalizing levels with
  | zero => exact ⟨fun _ _ => .error _, fun _ _ => .error _, fun _ _ => .error _⟩
  | succ fuel ih => exact ⟨run_value ih levels, run_items ih levels, run_members ih levels⟩

theorem run_readChars {v : Value} (read : Json.readChars cs = .ok v) (depth : Nat) :
    (outside depth).run cs = outside depth := by
  unfold Json.readChars at read
  split at read
  · cases read
  · obtain ⟨⟨w, rest⟩, value, ends⟩ := bind_eq_ok.mp read
    have same := (run_nested _ _).value _ depth _ value
    dsimp only at same ends
    split at ends
    · next space =>
        rw [← run_skipSpace, same, ← run_skipSpace, space]
        rfl
    · cases ends

end FieldMap.Chain
