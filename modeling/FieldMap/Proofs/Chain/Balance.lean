import FieldMap.Proofs.Chain.Pieces
import FieldMap.Proofs.Json.RoundTrip

/-!
Texts that the scan of a spec passes over as a whole. It knows quotes, backslashes and brackets and
nothing else of JSON, but that is enough for every text that a value is written as: no dot in it cuts,
and behind it the scan is where it was before.
-/

namespace FieldMap.Chain
open Outcome

/-- A text that, read from some state, belongs to one piece and leads back to that state. -/
def Keeps (s : Scan) (cs : List Char) : Prop :=
  ∀ rest, pieces s (cs ++ rest) = (pieces s rest).modifyHead (cs ++ ·)

namespace Keeps

variable {s inner : Scan} {c opening closing : Char} {cs ds : List Char}

theorem nil (s : Scan) : Keeps s [] := by
  intro rest
  rw [List.nil_append]
  cases pieces s rest <;> rfl

theorem append (first : Keeps s cs) (second : Keeps s ds) : Keeps s (cs ++ ds) := by
  intro rest
  rw [List.append_assoc, first, second, List.modifyHead_modifyHead]
  simp only [Function.comp_def, List.append_assoc]

theorem single (stays : s.step c = s) (nocut : ¬ (s.atTop = true ∧ c = '.')) : Keeps s [c] := by
  intro rest
  rw [List.singleton_append, pieces_cons nocut, stays]
  rfl

theorem enclosed (content : Keeps inner cs) (opens : s.step opening = inner)
    (closes : inner.step closing = s) (nocut : s.atTop = true → opening ≠ '.')
    (nocut' : inner.atTop = true → closing ≠ '.') : Keeps s (opening :: cs ++ [closing]) := by
  intro rest
  have first : ¬ (s.atTop = true ∧ opening = '.') := fun cut => nocut cut.1 cut.2
  have last : ¬ (inner.atTop = true ∧ closing = '.') := fun cut => nocut' cut.1 cut.2
  rw [List.cons_append, List.cons_append, pieces_cons first, opens, List.append_assoc, content,
    List.singleton_append, pieces_cons last, closes, List.modifyHead_modifyHead,
    List.modifyHead_modifyHead]
  simp [Function.comp_def]

end Keeps

def quotedAt (depth : Nat) : Scan := ⟨some '"', false, depth⟩

theorem keeps_plain {c : Char} (quote : c ≠ '"') (backslash : c ≠ '\\') (depth : Nat) :
    Keeps (quotedAt depth) [c] := by
  apply Keeps.single
  · simp [quotedAt, Scan.step, quote, backslash]
  · simp [quotedAt, Scan.atTop]

theorem keeps_short (letter : Char) (depth : Nat) : Keeps (quotedAt depth) ['\\', letter] := by
  have inner : Keeps ⟨some '"', true, depth⟩ [] := .nil _
  apply inner.enclosed
  · rfl
  · rfl
  · nofun
  · nofun

theorem keeps_unit {x₁ x₂ x₃ x₄ : Char} {code : Nat}
    (reads : Json.codeUnit? x₁ x₂ x₃ x₄ = some code) (depth : Nat) :
    Keeps (quotedAt depth) ['\\', 'u', x₁, x₂, x₃, x₄] := by
  -- A quote or backslash has no value as a hexadecimal digit.
  have digit {x : Char} (member : x ∈ [x₁, x₂, x₃, x₄]) : Keeps (quotedAt depth) [x] := by
    have value := Json.hexValue?_of_codeUnit? reads member
    apply keeps_plain <;> rintro rfl <;> exact value rfl
  exact (keeps_short 'u' depth).append ((digit (by simp)).append ((digit (by simp)).append
    ((digit (by simp)).append (digit (by simp)))))

theorem keeps_escaped {cs written : List Char} (escaped : Json.Escaped cs written)
    (depth : Nat) : Keeps (quotedAt depth) written := by
  cases escaped with
  | plain quote backslash visible => exact keeps_plain quote backslash depth
  | @short c letter code stands => exact keeps_short letter depth
  | unit reads => exact keeps_unit reads depth
  | pair first second isHigh isLow =>
      exact (keeps_unit first depth).append (keeps_unit second depth)

theorem keeps_content (cs : List Char) (depth : Nat) :
    Keeps (quotedAt depth) (cs.flatMap Json.escapedChar) := by
  induction cs with
  | nil => exact .nil _
  | cons c cs ih =>
      rw [List.flatMap_cons]
      exact (keeps_escaped (Json.escaped_escapedChar c) depth).append ih

/-- A text that the scan passes over outside quotes, inside of any brackets. -/
def Balanced (cs : List Char) : Prop := ∀ depth, Keeps ⟨none, false, depth⟩ cs

namespace Balanced

variable {cs ds : List Char}

theorem append (first : Balanced cs) (second : Balanced ds) : Balanced (cs ++ ds) :=
  fun depth => (first depth).append (second depth)

theorem of_plain (plain : ∀ c ∈ cs, c ∉ marks) : Balanced cs := by
  induction cs with
  | nil => exact fun depth => .nil _
  | cons c cs ih =>
      have later := ih fun d member => plain d (List.mem_cons_of_mem c member)
      have here := plain c List.mem_cons_self
      simp only [marks, List.mem_cons, List.not_mem_nil, not_or] at here
      have single : Balanced [c] := by
        intro depth
        apply Keeps.single
        · simp [Scan.step, here]
        · simp [here]
      exact single.append later

theorem of_apart (apart : marks.any (cs.contains ·) = false) : Balanced cs :=
  of_plain fun _ member => Text.not_mem_of_mem member apart

theorem quoted (s : String) : Balanced (Json.quoted s) := by
  intro depth
  apply (keeps_content s.toList depth).enclosed
  · rfl
  · rfl
  · exact fun _ => by decide
  · exact fun _ => by decide

theorem bracketed {opening closing : Char} (content : Balanced cs)
    (brackets : (opening, closing) ∈ [('[', ']'), ('\x7b', '\x7d')]) :
    Balanced (opening :: cs ++ [closing]) := by
  intro depth
  apply (content (depth + 1)).enclosed
  all_goals
    simp only [List.mem_cons, Prod.mk.injEq, List.not_mem_nil, or_false] at brackets
    rcases brackets with ⟨rfl, rfl⟩ | ⟨rfl, rfl⟩ <;> simp [Scan.step]

theorem separated {parts : List (List Char)} (each : ∀ part ∈ parts, Balanced part) :
    Balanced (Json.separated parts) := by
  induction parts with
  | nil => exact of_plain nofun
  | cons part parts ih =>
      have here := each part List.mem_cons_self
      have later := ih fun other member => each other (List.mem_cons_of_mem part member)
      cases parts with
      | nil =>
          rw [Json.separated_singleton]
          exact here
      | cons next parts =>
          have comma : Balanced [',', ' '] := of_apart (by decide)
          rw [Json.separated_cons_cons]
          exact here.append (comma.append later)

theorem integerText (n : Int) : Balanced (Number.integerText n) := by
  apply of_plain
  intro c member
  rcases Number.mem_integerText member with rfl | digit
  · decide
  · exact Text.not_mem_of_class digit (by decide)

theorem form {levels : Nat} {v : Value} (fits : Json.Fits levels v) : Balanced (Json.form v) := by
  induction fits with
  | null => exact of_apart (by decide)
  | bool b => cases b <;> exact of_apart (by decide)
  | int short => exact integerText _
  | text unsplit => exact quoted _
  | list each ih =>
      rw [Json.form, Json.itemForms_eq_map]
      have parts := separated (List.forall_mem_map.mpr ih)
      exact parts.bracketed (by decide)
  | @mapping levels entries distinct unsplit each ih =>
      rw [Json.form, Json.entryForms_textEntries]
      have colon : Balanced [':', ' '] := of_apart (by decide)
      have entry : ∀ part ∈ entries.map (Json.entryForm Json.form), Balanced part :=
        List.forall_mem_map.mpr fun entry member =>
          (quoted entry.1).append (colon.append (ih entry member))
      exact (separated entry).bracketed (by decide)

end Balanced

end FieldMap.Chain
