import FieldMap.Text.Blank

/-!
The tokens of a guard: quoted strings, which may hold white space, and runs of characters without
white space. A quote that is never closed begins a run.
-/

namespace FieldMap.Guard

def quotedHere? : List Char → Option (List Char × List Char)
  | [] => none
  | quote :: cs =>
    if quote = '\'' ∨ quote = '"' then
      match cs.dropWhile (· != quote) with
      | [] => none
      | _ :: rest => some (quote :: cs.takeWhile (· != quote) ++ [quote], rest)
    else none

theorem length_dropWhile_le {α : Type} (p : α → Bool) (xs : List α) :
    (xs.dropWhile p).length ≤ xs.length := by
  induction xs with
  | nil => simp
  | cons x xs ih =>
    rw [List.dropWhile_cons]
    split
    · simp only [List.length_cons]
      omega
    · exact Nat.le_refl _

theorem length_of_quotedHere? {cs token rest : List Char}
    (h : quotedHere? cs = some (token, rest)) : rest.length < cs.length := by
  cases cs with
  | nil => simp [quotedHere?] at h
  | cons quote cs =>
    simp only [quotedHere?] at h
    split at h
    · split at h
      · contradiction
      · next c tail eq =>
        have bound := length_dropWhile_le (· != quote) cs
        rw [eq] at bound
        simp only [Option.some.injEq, Prod.mk.injEq] at h
        rw [← h.2]
        simp only [List.length_cons] at bound ⊢
        omega
    · contradiction

def tokenChars (cs : List Char) : List (List Char) :=
  match cs with
  | [] => []
  | c :: rest =>
    match _h : quotedHere? (c :: rest) with
    | some (token, after) => token :: tokenChars after
    | none =>
      if Text.isBlank c then tokenChars rest
      else (c :: rest.takeWhile (!Text.isBlank ·)) :: tokenChars (rest.dropWhile (!Text.isBlank ·))
termination_by cs.length
decreasing_by
  · exact length_of_quotedHere? _h
  · simp
  · exact Nat.lt_succ_of_le (length_dropWhile_le ..)

def tokens (expression : String) : List String := (tokenChars expression.toList).map String.ofList

end FieldMap.Guard
