import FieldMap.Proofs.Chain.Pieces
import FieldMap.Proofs.Text.Cut

/-!
Where a spec is cut, in terms of the scan alone: the pieces of a spec, joined with dots, are the spec,
the dots between two pieces are those that stand outside quotes and brackets, and no piece has another
such dot. Every text can be cut in exactly one way, also one with quotes or brackets that are never
closed, and what is left of the pieces without white space is cut at the same places again. Main
statement: `split_cuts`.
-/

namespace FieldMap.Chain

/-- The pieces of a text. A dot cuts where the scan of the text before it ends outside quotes and
brackets. -/
structure IsCutting (cs : List Char) (pieces : List (List Char)) : Prop where
  nonempty : pieces ≠ []
  joined : Text.joinWith '.' pieces = cs
  cuts : ∀ front back, front ≠ [] → back ≠ [] → pieces = front ++ back →
    Closed (Text.joinWith '.' front)
  uncut : ∀ front before after back, pieces = front ++ (before ++ '.' :: after) :: back →
    ¬ Closed (Text.joinWith '.' (front ++ [before]))
  closed : ∀ piece ∈ pieces.dropLast, Closed piece

/-- No dot of a text cuts. -/
def Uncut (cs : List Char) : Prop := ∀ before after, cs = before ++ '.' :: after → ¬ Closed before

theorem run_dot {cs : List Char} (closed : Closed cs) (ds : List Char) :
    Scan.start.run (cs ++ '.' :: ds) = Scan.start.run ds := by
  rw [Scan.run_append, closed.run_eq]
  rfl

theorem closed_joinWith {front : List (List Char)} (closed : ∀ piece ∈ front, Closed piece)
    (last : List Char) : Closed (Text.joinWith '.' (front ++ [last])) ↔ Closed last := by
  induction front with
  | nil => rfl
  | cons piece front ih =>
      obtain ⟨here, later⟩ := List.forall_mem_cons.mp closed
      rw [← ih later, List.cons_append, Text.joinWith_cons (by simp), Closed, run_dot here, Closed]

theorem isCutting_iff {cs : List Char} {pieces : List (List Char)} :
    IsCutting cs pieces ↔ pieces ≠ [] ∧ Text.joinWith '.' pieces = cs ∧
      (∀ piece ∈ pieces, Uncut piece) ∧ ∀ piece ∈ pieces.dropLast, Closed piece := by
  have initial {front back : List (List Char)} (more : back ≠ []) :
      ∀ piece ∈ front, piece ∈ (front ++ back).dropLast := by
    intro piece member
    rw [List.dropLast_append_of_ne_nil more]
    exact List.mem_append_left _ member
  constructor
  · rintro ⟨nonempty, joined, -, uncut, closed⟩
    refine ⟨nonempty, joined, fun piece member before after split whole => ?_, closed⟩
    obtain ⟨front, back, rfl⟩ := List.append_of_mem member
    subst split
    have fronts : ∀ piece ∈ front, Closed piece :=
      fun other inFront => closed other (initial (List.cons_ne_nil _ back) other inFront)
    exact uncut front before after back rfl ((closed_joinWith fronts before).mpr whole)
  · rintro ⟨nonempty, joined, uncut, closed⟩
    refine ⟨nonempty, joined, ?_, ?_, closed⟩
    · rintro front back some more rfl
      obtain ⟨front, last, rfl⟩ := (List.eq_nil_or_concat' front).resolve_left some
      have fronts : ∀ piece ∈ front ++ [last], Closed piece :=
        fun piece member => closed piece (initial more piece member)
      rw [closed_joinWith fun piece member => fronts piece (List.mem_append_left _ member)]
      exact fronts last List.mem_concat_self
    · rintro front before after back rfl
      have fronts : ∀ piece ∈ front, Closed piece :=
        fun piece member => closed piece (initial (List.cons_ne_nil _ back) piece member)
      rw [closed_joinWith fronts]
      exact uncut _ (by simp) before after rfl

theorem IsCutting.closed_iff {cs last : List Char} {before : List (List Char)}
    (cutting : IsCutting cs (before ++ [last])) : Closed cs ↔ Closed last := by
  have fronts := cutting.closed
  rw [List.dropLast_concat] at fronts
  rw [← cutting.joined, closed_joinWith fronts]

theorem pieces_of_uncut {s : Scan} {cs : List Char}
    (uncut : ∀ before after, cs = before ++ '.' :: after → ¬ (s.run before).atTop = true) :
    pieces s cs = [cs] := by
  induction cs generalizing s with
  | nil => rfl
  | cons c cs ih =>
      have nocut : ¬ (s.atTop = true ∧ c = '.') := by
        rintro ⟨top, rfl⟩
        exact uncut [] cs rfl top
      have later : pieces (s.step c) cs = [cs] := by
        apply ih
        rintro before after rfl
        exact uncut (c :: before) after rfl
      rw [pieces_cons nocut, later]
      rfl

theorem pieces_joinWith {texts : List (List Char)} (nonempty : texts ≠ [])
    (uncut : ∀ text ∈ texts, Uncut text) (closed : ∀ text ∈ texts.dropLast, Closed text) :
    pieces .start (Text.joinWith '.' texts) = texts := by
  induction texts with
  | nil => contradiction
  | cons text texts ih =>
      obtain ⟨here, later⟩ := List.forall_mem_cons.mp uncut
      by_cases last : texts = []
      · subst last
        exact pieces_of_uncut here
      · rw [List.dropLast_cons_of_ne_nil last] at closed
        obtain ⟨ends, others⟩ := List.forall_mem_cons.mp closed
        rw [Text.joinWith_cons last, pieces_append ends.run_eq, pieces_of_uncut here,
          ih last later others]
        rfl

theorem IsCutting.eq_pieces {cs : List Char} {texts : List (List Char)} (cutting : IsCutting cs texts) :
    texts = pieces .start cs := by
  obtain ⟨nonempty, rfl, uncut, closed⟩ := isCutting_iff.mp cutting
  exact (pieces_joinWith nonempty uncut closed).symm

theorem IsCutting.append {cs ds : List Char} {front back : List (List Char)} (first : IsCutting cs front)
    (closed : Closed cs) (second : IsCutting ds back) :
    IsCutting (cs ++ '.' :: ds) (front ++ back) := by
  have all : ∀ piece ∈ front, Closed piece := by
    obtain ⟨before, last, rfl⟩ := (List.eq_nil_or_concat' front).resolve_left first.nonempty
    have fronts := first.closed
    rw [List.dropLast_concat] at fronts
    exact List.forall_mem_append.mpr ⟨fronts, List.forall_mem_singleton.mpr (first.closed_iff.mp closed)⟩
  obtain ⟨some, rfl, uncut, -⟩ := isCutting_iff.mp first
  obtain ⟨more, rfl, uncut', backs⟩ := isCutting_iff.mp second
  refine isCutting_iff.mpr ⟨by simp [some], Text.joinWith_append some more, ?_, ?_⟩
  · exact List.forall_mem_append.mpr ⟨uncut, uncut'⟩
  · rw [List.dropLast_append_of_ne_nil more]
    exact List.forall_mem_append.mpr ⟨all, backs⟩

theorem isCutting_pieces (cs : List Char) : IsCutting cs (pieces .start cs) := by
  by_cases uncut : Uncut cs
  · rw [pieces_of_uncut uncut]
    exact isCutting_iff.mpr ⟨List.cons_ne_nil cs [], rfl, by simpa using uncut, by simp⟩
  · simp only [Uncut, not_forall, not_not] at uncut
    obtain ⟨before, after, split, closed⟩ := uncut
    rw [split, pieces_append closed.run_eq]
    exact (isCutting_pieces before).append closed (isCutting_pieces after)
termination_by cs.length
decreasing_by
  all_goals
    rw [split, List.length_append, List.length_cons]
    omega

theorem Uncut.stripChars {cs : List Char} (uncut : Uncut cs) : Uncut (Text.stripChars cs) := by
  obtain ⟨front, back, split, blank, -⟩ := Text.exists_append_trimmed Text.isBlank cs
  intro before after inside closed
  have here : cs = (front ++ before) ++ '.' :: (after ++ back) := by
    rw [split, show Text.trimmed Text.isBlank cs = before ++ '.' :: after from inside]
    simp
  exact uncut _ _ here ((closed_plain_append (not_mem_marks_of_blank blank)).mpr closed)

theorem dropLast_sublist_dropLast {α : Type} {xs ys : List α} (sub : xs.Sublist ys) :
    xs.dropLast.Sublist ys.dropLast := by
  have tails := sub.reverse.tail
  rwa [List.tail_reverse, List.tail_reverse, List.reverse_sublist] at tails

theorem splitChars_joinWith (cs : List Char) :
    splitChars (Text.joinWith '.' (splitChars cs)) = splitChars cs := by
  by_cases none : splitChars cs = []
  · rw [none]
    rfl
  · obtain ⟨-, -, uncut, closed⟩ := isCutting_iff.mp (isCutting_pieces cs)
    have part : (splitChars cs).Sublist ((pieces .start cs).map Text.stripChars) := List.filter_sublist
    have uncutParts : ∀ text ∈ splitChars cs, Uncut text := by
      intro text member
      obtain ⟨piece, listed, rfl⟩ := List.mem_map.mp (part.subset member)
      exact (uncut piece listed).stripChars
    have closedParts : ∀ text ∈ (splitChars cs).dropLast, Closed text := by
      intro text member
      have listed := (dropLast_sublist_dropLast part).subset member
      rw [← List.map_dropLast] at listed
      obtain ⟨piece, initial, rfl⟩ := List.mem_map.mp listed
      exact closed_stripChars.mpr (closed piece initial)
    have stripped : ∀ text ∈ splitChars cs, Text.stripChars text = text := by
      intro text member
      obtain ⟨piece, -, rfl⟩ := List.mem_map.mp (part.subset member)
      exact Text.trimmed_trimmed
    have some : ∀ text ∈ splitChars cs, (!text.isEmpty) = true := fun text member =>
      (List.mem_filter.mp member).2
    conv_lhs => rw [splitChars, pieces_joinWith none uncutParts closedParts]
    rw [List.map_congr_left stripped, List.map_id', List.filter_eq_self.mpr some]

theorem split_cuts (spec : String) :
    (∃ pieces, IsCutting spec.toList pieces ∧
      (∀ others, IsCutting spec.toList others → others = pieces) ∧
      split spec = ((pieces.map Text.stripChars).filter (· ≠ [])).map String.ofList) ∧
    split (Text.joinStrings "." (split spec)) = split spec := by
  constructor
  · refine ⟨pieces .start spec.toList, isCutting_pieces _, fun others => IsCutting.eq_pieces, ?_⟩
    rw [split, splitChars]
    congr 2
    funext text
    cases text <;> rfl
  · have joined : (Text.joinStrings "." (split spec)).toList =
        Text.joinWith '.' (splitChars spec.toList) := by
      rw [Text.toList_joinStrings (show ".".toList = ['.'] from rfl), split, List.map_map]
      simp [Function.comp_def]
    rw [split, joined, splitChars_joinWith, split]

example : split "]a. .'b.c " = ["]a", "'b.c"] := by decide +kernel

end FieldMap.Chain
