import FieldMap.Proofs.Text.Run
import FieldMap.Text.Cut

/-!
Cutting and joining. Cutting a text at a separator is the splitting of lists that the library knows,
so joining the pieces gives the text back, and pieces without separators are found again.
-/

namespace FieldMap.Text

theorem cut_eq_splitOn (separator : Char) (cs : List Char) :
    cut separator cs = cs.splitOn separator := by
  induction cs with
  | nil => rfl
  | cons c cs ih =>
      rw [cut, ih, List.splitOn_cons_eq_if_modifyHead]
      by_cases here : c = separator
      · simp [here]
      · cases pieces : cs.splitOn separator with
        | nil => exact absurd pieces (List.splitOn_ne_nil separator cs)
        | cons piece rest => simp [here]

theorem joinWith_eq_intercalate (separator : Char) (pieces : List (List Char)) :
    joinWith separator pieces = [separator].intercalate pieces := by
  induction pieces with
  | nil => rfl
  | cons piece pieces ih =>
      cases pieces with
      | nil => simp [joinWith]
      | cons next pieces => simp [joinWith, ih, List.intercalate_cons_cons]

theorem joinWith_cut (separator : Char) (cs : List Char) :
    joinWith separator (cut separator cs) = cs := by
  rw [joinWith_eq_intercalate, cut_eq_splitOn, List.intercalate_splitOn]

theorem toList_joinStrings {mark : String} {separator : Char} (single : mark.toList = [separator])
    (pieces : List String) :
    (joinStrings mark pieces).toList = joinWith separator (pieces.map String.toList) := by
  rw [joinWith_eq_intercalate, joinStrings, String.toList_intercalate, single]

theorem cut_joinWith {separator : Char} {pieces : List (List Char)}
    (clean : ∀ piece ∈ pieces, separator ∉ piece) (nonempty : pieces ≠ []) :
    cut separator (joinWith separator pieces) = pieces := by
  rw [joinWith_eq_intercalate, cut_eq_splitOn, List.splitOn_intercalate separator clean nonempty]

theorem clean_of_mem_cut {separator : Char} {cs : List Char} :
    ∀ piece ∈ cut separator cs, separator ∉ piece := by
  induction cs with
  | nil => simp [cut]
  | cons c cs ih =>
      intro piece member
      rw [cut] at member
      split at member
      · rcases List.mem_cons.mp member with rfl | later
        · exact List.not_mem_nil
        · exact ih piece later
      · next differ =>
          have head : separator ≠ c := fun e => differ e.symm
          split at member
          · rw [List.mem_singleton.mp member]
            simpa using head
          · next first rest pieces =>
              rw [pieces] at ih
              rcases List.mem_cons.mp member with rfl | later
              · have inFirst := ih first List.mem_cons_self
                simp [head, inFirst]
              · exact ih piece (List.mem_cons_of_mem first later)

theorem cut_of_not_mem {separator : Char} {cs : List Char} (absent : separator ∉ cs) :
    cut separator cs = [cs] :=
  cut_joinWith (List.forall_mem_singleton.mpr absent) (List.cons_ne_nil cs [])

theorem cut_ne_nil (separator : Char) (cs : List Char) : cut separator cs ≠ [] := by
  rw [cut_eq_splitOn]
  exact List.splitOn_ne_nil separator cs

theorem cut_append (separator : Char) (cs ds : List Char) :
    cut separator (cs ++ separator :: ds) = cut separator cs ++ cut separator ds := by
  induction cs with
  | nil => simp [cut]
  | cons c cs ih =>
      rw [List.cons_append, cut, cut, ih]
      split
      · rfl
      · cases pieces : cut separator cs with
        | nil => exact absurd pieces (cut_ne_nil separator cs)
        | cons piece rest => rfl

theorem joinWith_cons {separator : Char} {piece : List Char} {pieces : List (List Char)}
    (more : pieces ≠ []) :
    joinWith separator (piece :: pieces) = piece ++ separator :: joinWith separator pieces := by
  cases pieces with
  | nil => contradiction
  | cons next pieces => rfl

theorem joinWith_append {separator : Char} {front back : List (List Char)} (some : front ≠ [])
    (more : back ≠ []) : joinWith separator (front ++ back) =
      joinWith separator front ++ separator :: joinWith separator back := by
  induction front with
  | nil => contradiction
  | cons piece front ih =>
      by_cases last : front = []
      · subst last
        exact joinWith_cons more
      · rw [List.cons_append, joinWith_cons (by simp [more]), ih last, joinWith_cons last,
          List.append_assoc, List.cons_append]

theorem mem_joinWith {separator : Char} {pieces : List (List Char)} {c : Char}
    (member : c ∈ joinWith separator pieces) : c = separator ∨ ∃ piece ∈ pieces, c ∈ piece := by
  induction pieces with
  | nil => cases member
  | cons piece pieces ih =>
      by_cases last : pieces = []
      · subst last
        exact .inr ⟨piece, List.mem_cons_self, member⟩
      · rw [joinWith_cons last, List.mem_append, List.mem_cons] at member
        rcases member with here | rfl | later
        · exact .inr ⟨piece, List.mem_cons_self, here⟩
        · exact .inl rfl
        · rcases ih later with mark | ⟨other, inside, found⟩
          · exact .inl mark
          · exact .inr ⟨other, List.mem_cons_of_mem piece inside, found⟩

theorem mem_of_mem_joinWith {separator : Char} {pieces : List (List Char)} {piece : List Char}
    {c : Char} (inside : piece ∈ pieces) (member : c ∈ piece) : c ∈ joinWith separator pieces := by
  induction pieces with
  | nil => cases inside
  | cons first pieces ih =>
      by_cases last : pieces = []
      · subst last
        rwa [List.mem_singleton.mp inside] at member
      · rw [joinWith_cons last, List.mem_append, List.mem_cons]
        rcases List.mem_cons.mp inside with rfl | later
        · exact .inl member
        · exact .inr (.inr (ih later))

theorem mem_of_mem_cut {separator : Char} {cs piece : List Char} {c : Char}
    (inside : piece ∈ cut separator cs) (member : c ∈ piece) : c ∈ cs := by
  rw [← joinWith_cut separator cs]
  exact mem_of_mem_joinWith inside member

theorem joinWith_map {separator : Char} {f : Char → Char} (fixed : f separator = separator)
    (pieces : List (List Char)) :
    joinWith separator (pieces.map (List.map f)) = (joinWith separator pieces).map f := by
  induction pieces with
  | nil => rfl
  | cons piece pieces ih =>
      by_cases last : pieces = []
      · subst last
        rfl
      · rw [List.map_cons, joinWith_cons (by simpa using last), ih, joinWith_cons last,
          List.map_append, List.map_cons, fixed]

theorem filter_joinWith {separator : Char} {p : Char → Bool} (kept : p separator = true)
    (pieces : List (List Char)) :
    (joinWith separator pieces).filter p = joinWith separator (pieces.map (List.filter p)) := by
  induction pieces with
  | nil => rfl
  | cons piece pieces ih =>
      by_cases last : pieces = []
      · subst last
        rfl
      · rw [List.map_cons, joinWith_cons last, joinWith_cons (by simpa using last),
          List.filter_append, List.filter_cons_of_pos kept, ih]

theorem cutAt?_of_not_mem {mark : Char} {cs : List Char} (absent : mark ∉ cs) :
    cutAt? [mark] cs = none := by
  induction cs with
  | nil => rfl
  | cons c cs ih =>
      rw [List.mem_cons, not_or] at absent
      simp [cutAt?, absent.1, ih absent.2]

theorem cutAt?_append {mark : Char} {before : List Char} (absent : mark ∉ before)
    (after : List Char) : cutAt? [mark] (before ++ mark :: after) = some (before, after) := by
  induction before with
  | nil => simp [cutAt?]
  | cons c before ih =>
      rw [List.mem_cons, not_or] at absent
      simp [cutAt?, absent.1, ih absent.2]

theorem splitAt_of_not_mem {mark : Char} {cs : List Char} (absent : mark ∉ cs) :
    splitAt mark cs = (cs, none) := by
  have run : ∀ c ∈ cs, (c != mark) = true := fun c member => by
    simpa using ne_of_mem_of_not_mem member absent
  rw [splitAt, span_eq_self run]

theorem splitAt_append {mark : Char} {before : List Char} (absent : mark ∉ before)
    (after : List Char) : splitAt mark (before ++ mark :: after) = (before, some after) := by
  have run : ∀ c ∈ before, (c != mark) = true := fun c member => by
    simpa using ne_of_mem_of_not_mem member absent
  have stop : ∀ c ∈ (mark :: after).head?, (c != mark) = false := by
    rintro c ⟨⟩
    simp
  rw [splitAt, span_run run stop]

theorem splitAtLast_of_not_mem {mark : Char} {cs : List Char} (absent : mark ∉ cs) :
    splitAtLast mark cs = (none, cs) := by
  have missing : mark ∉ cs.reverse := by simpa using absent
  simp [splitAtLast, splitAt_of_not_mem missing]

section Mark

variable {mark before after : List Char}

theorem not_infix_append_cons {c : Char} (absent : c ∉ mark) (left : ¬ mark <:+: before)
    (right : ¬ mark <:+: after) : ¬ mark <:+: before ++ c :: after := by
  have begins {part : List Char} (nonempty : part ≠ []) (here : part <+: c :: after)
      (inside : part ⊆ mark) : False := by
    obtain ⟨d, rest, rfl⟩ := List.exists_cons_of_ne_nil nonempty
    obtain ⟨rfl, -⟩ := List.cons_prefix_cons.mp here
    exact absent (inside List.mem_cons_self)
  have nonempty : mark ≠ [] := by
    rintro rfl
    exact left List.nil_infix
  rw [List.infix_append_iff_ne_nil, List.infix_cons_iff]
  rintro (inLeft | (here | inRight) | ⟨part, rest, -, some, rfl, -, here⟩)
  · exact left inLeft
  · exact begins nonempty here (List.Subset.refl _)
  · exact right inRight
  · exact begins some here (List.subset_append_right _ _)

theorem cutAt?_of_not_infix (absent : ¬ mark <:+: before) : cutAt? mark before = none := by
  induction before with
  | nil =>
      have nonempty : mark ≠ [] := by
        rintro rfl
        exact absent List.nil_infix
      rw [cutAt?, if_neg (by simpa using nonempty)]
  | cons c cs ih =>
      rw [List.infix_cons_iff, not_or] at absent
      rw [cutAt?, if_neg (by simpa using absent.1), ih absent.2]
      rfl

theorem not_infix_of_cutAt?_eq_none (uncut : cutAt? mark before = none) : ¬ mark <:+: before := by
  induction before with
  | nil =>
      rw [List.infix_nil]
      rintro rfl
      cases uncut
  | cons c cs ih =>
      rw [cutAt?] at uncut
      split at uncut
      · cases uncut
      · next absent =>
          rw [List.infix_cons_iff, not_or]
          exact ⟨by simpa using absent, ih (Option.map_eq_none_iff.mp uncut)⟩

theorem cutAt?_eq_some (nonempty : mark ≠ []) {cs : List Char}
    (cut : cutAt? mark cs = some (before, after)) :
    cs = before ++ (mark ++ after) ∧ ¬ mark <:+: before := by
  have empty : ¬ mark <:+: [] := fun inside => nonempty (List.infix_nil.mp inside)
  induction cs generalizing before with
  | nil =>
      rw [cutAt?, if_neg (by simpa using nonempty)] at cut
      cases cut
  | cons c cs ih =>
      rw [cutAt?] at cut
      split at cut
      · next here =>
          cases cut
          exact ⟨List.prefix_append_drop (List.isPrefixOf_iff_prefix.mp here), empty⟩
      · next absent =>
          obtain ⟨⟨front, back⟩, later, parts⟩ := Option.map_eq_some_iff.mp cut
          cases parts
          obtain ⟨rfl, fresh⟩ := ih later
          refine ⟨rfl, ?_⟩
          rw [List.infix_cons_iff, not_or]
          refine ⟨fun starts => absent ?_, fresh⟩
          exact List.isPrefixOf_iff_prefix.mpr (starts.trans (List.prefix_append (c :: front) _))

theorem cutAt?_append_mark
    (first : ∀ part, part ≠ [] → part <:+ before → ¬ mark <+: part ++ (mark ++ after)) :
    cutAt? mark (before ++ (mark ++ after)) = some (before, after) := by
  induction before with
  | nil =>
      cases mark with
      | nil =>
          cases after with
          | nil => rfl
          | cons c cs => simp [cutAt?]
      | cons m mark => simp [cutAt?]
  | cons c cs ih =>
      have here := first (c :: cs) (List.cons_ne_nil c cs) (List.suffix_refl _)
      have later := ih fun part some ends => first part some (ends.trans (List.suffix_cons c cs))
      rw [List.cons_append] at here ⊢
      rw [cutAt?, if_neg (by simpa using here), later]
      rfl

end Mark

end FieldMap.Text
