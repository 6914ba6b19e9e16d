import FieldMap.Chain.Pieces
import FieldMap.Proofs.Text.Run

/-!
The pieces of specs. A text in which nothing cuts, quotes or nests is one piece, and where a scan
comes back to the top a dot separates what stands before it from what follows.
-/

namespace FieldMap.Chain

def marks : List Char := ['.', '"', '\'', '[', ']', '\x7b', '\x7d']

theorem Scan.step_start {c : Char} (plain : c ∉ marks) : Scan.start.step c = .start := by
  simp only [marks, List.mem_cons, List.not_mem_nil, not_or] at plain
  simp [step, start, plain]

theorem pieces_start_of_plain {cs : List Char} (plain : ∀ c ∈ cs, c ∉ marks) :
    pieces .start cs = [cs] := by
  induction cs with
  | nil => rfl
  | cons c cs ih =>
      have here : c ∉ marks := plain c List.mem_cons_self
      have nocut : c ≠ '.' := by
        rintro rfl
        exact here (by decide)
      rw [pieces, if_neg (by simp [nocut]), Scan.step_start here,
        ih fun d later => plain d (List.mem_cons_of_mem c later)]

theorem splitChars_of_plain {cs : List Char} (nonempty : cs ≠ [])
    (plain : ∀ c ∈ cs, c ∉ marks) (stripped : Text.stripChars cs = cs) : splitChars cs = [cs] := by
  rw [splitChars, pieces_start_of_plain plain]
  simp [stripped, nonempty]

theorem pieces_ne_nil (s : Scan) (cs : List Char) : pieces s cs ≠ [] := by
  cases cs with
  | nil => simp [pieces]
  | cons c cs =>
      rw [pieces]
      split
      · simp
      · split <;> simp

theorem pieces_dot {s : Scan} (top : s.atTop = true) (cs : List Char) :
    pieces s ('.' :: cs) = [] :: pieces s cs := by
  simp [pieces, top]

theorem pieces_cons {s : Scan} {c : Char} (nocut : ¬ (s.atTop = true ∧ c = '.')) (cs : List Char) :
    pieces s (c :: cs) = (pieces (s.step c) cs).modifyHead (c :: ·) := by
  rw [pieces, if_neg nocut]
  cases rest : pieces (s.step c) cs with
  | nil => exact absurd rest (pieces_ne_nil _ cs)
  | cons piece others => rfl

namespace Scan

/-- Outside quotes no backslash waits for the character after it. -/
def Settled (s : Scan) : Prop := s.quote = none → s.escaped = false

theorem settled_step {s : Scan} (settled : s.Settled) (c : Char) : (s.step c).Settled := by
  obtain ⟨quote, escaped, depth⟩ := s
  cases quote with
  | none =>
      have calm : escaped = false := settled rfl
      subst calm
      intro _
      simp only [step]
      split <;> [rfl; split <;> [rfl; split <;> rfl]]
  | some quote =>
      simp only [step]
      split
      · exact fun _ => rfl
      · next calm =>
          split
          · nofun
          · split
            · exact fun _ => by simpa using calm
            · nofun

theorem settled_run {s : Scan} (settled : s.Settled) (cs : List Char) : (s.run cs).Settled := by
  induction cs generalizing s with
  | nil => exact settled
  | cons c cs ih => exact ih (settled_step settled c)

theorem eq_start {s : Scan} (settled : s.Settled) (top : s.atTop = true) : s = .start := by
  obtain ⟨quote, escaped, depth⟩ := s
  simp only [atTop, Bool.and_eq_true, Option.isNone_iff_eq_none, beq_iff_eq] at top
  obtain ⟨rfl, rfl⟩ := top
  have calm : escaped = false := settled rfl
  rw [calm, start]

theorem step_dot {s : Scan} (top : s.atTop = true) : s.step '.' = s := by
  obtain ⟨quote, escaped, depth⟩ := s
  simp only [atTop, Bool.and_eq_true, Option.isNone_iff_eq_none] at top
  simp [step, top.1]

end Scan

theorem pieces_append {s : Scan} {cs : List Char} (closed : s.run cs = .start) (ds : List Char) :
    pieces s (cs ++ '.' :: ds) = pieces s cs ++ pieces .start ds := by
  induction cs generalizing s with
  | nil =>
      have here : s = .start := closed
      subst here
      exact pieces_dot rfl ds
  | cons c cs ih =>
      by_cases cut : s.atTop = true ∧ c = '.'
      · obtain ⟨top, rfl⟩ := cut
        have same : s.run ('.' :: cs) = s.run cs := congrArg (Scan.run · cs) (Scan.step_dot top)
        rw [List.cons_append, pieces_dot top, pieces_dot top, ih (same.symm.trans closed)]
        rfl
      · rw [List.cons_append, pieces_cons cut, pieces_cons cut, ih closed]
        cases rest : pieces (s.step c) cs with
        | nil => exact absurd rest (pieces_ne_nil _ cs)
        | cons piece others => rfl

def Closed (cs : List Char) : Prop := (Scan.start.run cs).atTop = true

instance (cs : List Char) : Decidable (Closed cs) := inferInstanceAs (Decidable (_ = true))

theorem Closed.run_eq {cs : List Char} (closed : Closed cs) : Scan.start.run cs = .start :=
  Scan.eq_start (Scan.settled_run (fun _ => rfl) cs) closed

theorem splitChars_append {cs : List Char} (closed : Closed cs) (ds : List Char) :
    splitChars (cs ++ '.' :: ds) = splitChars cs ++ splitChars ds := by
  simp only [splitChars, pieces_append closed.run_eq, List.map_append, List.filter_append]

namespace Scan

def Quoted (s : Scan) : Prop := ∀ quote ∈ s.quote, quote ∈ marks

theorem quoted_start : start.Quoted := by
  intro quote inside
  cases inside

theorem quoted_step {s : Scan} (quoted : s.Quoted) (c : Char) : (s.step c).Quoted := by
  obtain ⟨quote, escaped, depth⟩ := s
  cases quote with
  | none =>
      simp only [step]
      split
      · next mark =>
          rintro _ ⟨⟩
          rcases mark with rfl | rfl <;> decide
      · split <;> [exact quoted; split <;> exact quoted]
  | some quote =>
      simp only [step]
      split
      · exact quoted
      · split <;> [exact quoted; split <;> [nofun; exact quoted]]

theorem quoted_run {s : Scan} (quoted : s.Quoted) (cs : List Char) : (s.run cs).Quoted := by
  induction cs generalizing s with
  | nil => exact quoted
  | cons c cs ih => exact ih (quoted_step quoted c)

theorem atTop_step {s : Scan} (quoted : s.Quoted) {c : Char} (plain : c ∉ marks) :
    (s.step c).atTop = s.atTop := by
  obtain ⟨quote, escaped, depth⟩ := s
  cases quote with
  | none =>
      simp only [marks, List.mem_cons, List.not_mem_nil, not_or] at plain
      simp [step, plain]
  | some quote =>
      have differ : c ≠ quote := by
        rintro rfl
        exact plain (quoted c rfl)
      simp only [step, if_neg differ]
      split <;> [rfl; split <;> rfl]

theorem atTop_run {s : Scan} (quoted : s.Quoted) {cs : List Char} (plain : ∀ c ∈ cs, c ∉ marks) :
    (s.run cs).atTop = s.atTop := by
  induction cs generalizing s with
  | nil => rfl
  | cons c cs ih =>
      obtain ⟨here, later⟩ := List.forall_mem_cons.mp plain
      exact (ih (quoted_step quoted c) later).trans (atTop_step quoted here)

theorem run_append (s : Scan) (cs ds : List Char) : s.run (cs ++ ds) = (s.run cs).run ds :=
  List.foldl_append

theorem run_start {cs : List Char} (plain : ∀ c ∈ cs, c ∉ marks) : start.run cs = start := by
  have top : (start.run cs).atTop = true := atTop_run quoted_start plain
  exact eq_start (settled_run (fun _ => rfl) cs) top

end Scan

theorem not_mem_marks_of_blank {cs : List Char} (blank : ∀ c ∈ cs, Text.isBlank c = true) :
    ∀ c ∈ cs, c ∉ marks :=
  fun c member => Text.not_mem_of_class (blank c member) (by decide)

theorem closed_append_plain {cs back : List Char} (plain : ∀ c ∈ back, c ∉ marks) :
    Closed (cs ++ back) ↔ Closed cs := by
  rw [Closed, Scan.run_append, Scan.atTop_run (Scan.quoted_run Scan.quoted_start cs) plain, Closed]

theorem closed_plain_append {front cs : List Char} (plain : ∀ c ∈ front, c ∉ marks) :
    Closed (front ++ cs) ↔ Closed cs := by
  rw [Closed, Scan.run_append, Scan.run_start plain, Closed]

theorem closed_stripChars {cs : List Char} : Closed (Text.stripChars cs) ↔ Closed cs := by
  obtain ⟨front, back, split, before, after⟩ := Text.exists_append_trimmed Text.isBlank cs
  have whole : Closed cs ↔ Closed (front ++ Text.stripChars cs ++ back) := Eq.to_iff (congrArg _ split)
  rw [whole, closed_append_plain (not_mem_marks_of_blank after),
    closed_plain_append (not_mem_marks_of_blank before)]

end FieldMap.Chain
