import FieldMap.FieldKey
import FieldMap.Proofs.Text.Cut
import FieldMap.Proofs.Text.Run

/-!
Field keys that are written out: a source, a new name and a guard, the two clauses in either order.
Reading the key gives back what was written, however many parentheses, keywords and clauses the guard
has in it. Main statement: `parse_written`.
-/

namespace FieldMap

namespace FieldKey

/-! ## What is written -/

/-- The ways to open a guard clause: the keyword in letters of either case and a parenthesis. The
dotless small and the dotted capital letter count as cases of the letter they look like. -/
def openings : List (List Char) :=
  ['i', 'I', 'İ', 'ı'].flatMap fun i => ['f', 'F'].map fun f => [i, f, '(']

def Unguarded (cs : List Char) : Prop := ∀ opening ∈ openings, ¬ opening <:+: cs

abbrev nameMark : List Char := " as ".toList

structure SourceText where
  chars : List Char
  solid : Text.Solid chars
  unguarded : Unguarded chars
  whole : ¬ nameMark <:+: chars
  ends : ¬ " as".toList <:+ chars

structure NameText where
  chars : List Char
  solid : Text.Solid chars
  unguarded : Unguarded chars
  unclosed : ')' ∉ chars

structure GuardClause where
  opening : List Char
  opens : opening ∈ openings
  guard : List Char
  solid : Text.Solid guard
  inLine : '\n' ∉ guard

structure Written where
  source : SourceText
  name : Option NameText
  guard : Option GuardClause
  guardFirst : Bool

namespace Written

def nameChars : Option NameText → List Char
  | none => []
  | some name => nameMark ++ name.chars

def guardChars : Option GuardClause → List Char
  | none => []
  | some clause => ' ' :: clause.opening ++ clause.guard ++ [')']

def text (key : Written) : String :=
  String.ofList (key.source.chars ++
    if key.guardFirst then guardChars key.guard ++ nameChars key.name
    else nameChars key.name ++ guardChars key.guard)

end Written

/-! ## Guard clauses -/

theorem mem_openings {opening : List Char} (opens : opening ∈ openings) :
    ∃ i f, opening = [i, f, '('] ∧ i ∈ ['i', 'I', 'İ', 'ı'] ∧ f ∈ ['f', 'F'] := by
  simp only [openings, List.mem_flatMap, List.mem_map] at opens
  obtain ⟨i, first, f, second, rfl⟩ := opens
  exact ⟨i, f, rfl, first, second⟩

theorem afterOpening?_eq_some {cs rest : List Char} :
    afterOpening? cs = some rest ↔ ∃ opening ∈ openings, cs = opening ++ rest := by
  unfold afterOpening?
  constructor
  · intro h
    split at h
    · next i f rest' =>
        split at h
        · next isKeyword =>
            cases h
            simp only [Bool.and_eq_true, List.contains_iff_mem] at isKeyword
            refine ⟨[i, f, '('], ?_, rfl⟩
            exact List.mem_flatMap.mpr ⟨i, isKeyword.1, List.mem_map.mpr ⟨f, isKeyword.2, rfl⟩⟩
        · cases h
    · cases h
  · rintro ⟨opening, opens, rfl⟩
    obtain ⟨i, f, rfl, first, second⟩ := mem_openings opens
    simp only [List.cons_append, List.nil_append]
    have isKeyword := And.intro (List.contains_iff_mem.mpr first) (List.contains_iff_mem.mpr second)
    rw [if_pos (by simpa only [Bool.and_eq_true] using isKeyword)]

theorem guardHere?_of_closed {cs : List Char} (closed : ∀ opening ∈ openings, ¬ opening <+: cs) :
    guardHere? cs = none := by
  cases opened : afterOpening? cs with
  | none => simp [guardHere?, opened]
  | some rest =>
      obtain ⟨opening, opens, rfl⟩ := afterOpening?_eq_some.mp opened
      exact absurd (List.prefix_append opening rest) (closed opening opens)

theorem beforeLast?_of_not_mem {mark : Char} {cs : List Char} (absent : mark ∉ cs) :
    beforeLast? mark cs = none := by
  induction cs with
  | nil => rfl
  | cons c cs ih =>
      rw [List.mem_cons, not_or] at absent
      rw [beforeLast?, ih absent.2]
      simp [Ne.symm absent.1]

theorem beforeLast?_append {mark : Char} {after : List Char} (absent : mark ∉ after)
    (before : List Char) : beforeLast? mark (before ++ mark :: after) = some before := by
  induction before with
  | nil => simp [beforeLast?, beforeLast?_of_not_mem absent]
  | cons c before ih => rw [List.cons_append, beforeLast?, ih]

theorem guardHere?_clause {opening guard after : List Char} (opens : opening ∈ openings)
    (nonempty : guard ≠ []) (inLine : '\n' ∉ guard) (unclosed : ')' ∉ after) :
    guardHere? (opening ++ (guard ++ ')' :: after)) = some guard := by
  have opened : afterOpening? (opening ++ (guard ++ ')' :: after)) = some (guard ++ ')' :: after) :=
    afterOpening?_eq_some.mpr ⟨opening, opens, rfl⟩
  have line : (guard ++ ')' :: after).takeWhile (· != '\n') =
      guard ++ ')' :: after.takeWhile (· != '\n') := by
    rw [List.takeWhile_append_of_pos]
    · rfl
    · intro c member
      have differ : c ≠ '\n' := fun same => inLine (same ▸ member)
      simpa using differ
  have last : ')' ∉ after.takeWhile (· != '\n') :=
    fun member => unclosed ((List.takeWhile_sublist _).subset member)
  simp [guardHere?, opened, line, beforeLast?_append last, nonempty]

theorem withoutGuards_of_unguarded {cs : List Char} (unguarded : Unguarded cs) :
    withoutGuards 0 cs = ([], cs) := by
  induction cs with
  | nil => rfl
  | cons c cs ih =>
      have here : guardHere? (c :: cs) = none :=
        guardHere?_of_closed fun opening opens starts => unguarded opening opens starts.isInfix
      have later := ih fun opening opens inside => unguarded opening opens (List.infix_cons inside)
      simp only [withoutGuards, here, later]

theorem withoutGuards_append {before rest : List Char}
    (closed : ∀ part, part ≠ [] → part <:+ before →
      ∀ opening ∈ openings, ¬ opening <+: part ++ rest) :
    withoutGuards 0 (before ++ rest) =
      ((withoutGuards 0 rest).1, before ++ (withoutGuards 0 rest).2) := by
  induction before with
  | nil => rfl
  | cons c cs ih =>
      have here := guardHere?_of_closed (closed (c :: cs) (List.cons_ne_nil c cs) (List.suffix_refl _))
      have later := ih fun part some ends => closed part some (ends.trans (List.suffix_cons c cs))
      rw [List.cons_append] at here ⊢
      simp only [withoutGuards, here, later, List.cons_append]

theorem withoutGuards_pass (passed rest : List Char) :
    withoutGuards passed.length (passed ++ rest) = withoutGuards 0 rest := by
  induction passed with
  | nil => rfl
  | cons c passed ih => exact ih

theorem withoutGuards_clause {opening guard after : List Char} (opens : opening ∈ openings)
    (nonempty : guard ≠ []) (inLine : '\n' ∉ guard) (unclosed : ')' ∉ after)
    (unguarded : Unguarded after) :
    withoutGuards 0 (opening ++ (guard ++ ')' :: after)) = ([guard], after) := by
  have here := guardHere?_clause opens nonempty inLine unclosed
  obtain ⟨i, f, rfl, -⟩ := mem_openings opens
  -- The keyword, its parenthesis and the guard are passed over, then the closing parenthesis.
  have passed : withoutGuards (guard.length + 3) (f :: '(' :: (guard ++ ')' :: after)) =
      ([], after) := by
    have pass := withoutGuards_pass (f :: '(' :: guard ++ [')']) after
    rw [withoutGuards_of_unguarded unguarded] at pass
    simpa [Nat.add_assoc] using pass
  simp only [List.cons_append, List.nil_append] at here ⊢
  rw [withoutGuards, here]
  simp only [passed]

/-! ## Names -/

theorem space_not_mem_of_opens {opening : List Char} (opens : opening ∈ openings) : ' ' ∉ opening := by
  revert opening
  decide

theorem unguarded_append_space {before after : List Char} (left : Unguarded before)
    (right : Unguarded after) : Unguarded (before ++ ' ' :: after) :=
  fun opening opens => Text.not_infix_append_cons (space_not_mem_of_opens opens) (left opening opens)
    (right opening opens)

/-- A text that may stand before the mark of a name: the mark neither stands in it nor begins in it. -/
structure Uncut (cs : List Char) : Prop where
  whole : ¬ nameMark <:+: cs
  ends : ¬ " as".toList <:+ cs

theorem Uncut.append_space {cs : List Char} (uncut : Uncut cs) : Uncut (cs ++ [' ']) where
  whole := by
    rw [List.infix_concat_iff, List.suffix_concat_iff]
    rintro ((marked | ⟨part, same, ends⟩) | inside)
    · exact absurd marked (by decide)
    · have part_eq : part = " as".toList := by
        have dropped := congrArg List.dropLast same
        rw [List.dropLast_concat] at dropped
        exact dropped.symm
      exact uncut.ends (part_eq ▸ ends)
    · exact uncut.whole inside
  ends := by
    rw [List.suffix_concat_iff]
    rintro (marked | ⟨part, same, -⟩)
    · exact absurd marked (by decide)
    · have last := congrArg List.getLast? same
      rw [List.getLast?_concat] at last
      exact absurd last (by decide)

theorem Uncut.cutAt?_append {cs : List Char} (uncut : Uncut cs) (after : List Char) :
    Text.cutAt? nameMark (cs ++ (nameMark ++ after)) = some (cs, after) := by
  apply Text.cutAt?_append_mark
  intro part some tail starts
  -- The mark would begin at one of the last three characters, or lie in the text as a whole.
  match part with
  | [] => exact some rfl
  | [a] => simp [nameMark] at starts
  | [a, b] => simp [nameMark] at starts
  | [a, b, c] =>
      have same : " as".toList = [a, b, c] := by simpa [nameMark, and_assoc] using starts
      exact uncut.ends (same ▸ tail)
  | a :: b :: c :: d :: rest =>
      have inside : nameMark <+: a :: b :: c :: d :: rest := by
        simpa [nameMark, List.cons_prefix_cons] using starts
      exact uncut.whole (inside.isInfix.trans tail.isInfix)

/-! ## Keys -/

theorem SourceText.uncut (source : SourceText) : Uncut source.chars := ⟨source.whole, source.ends⟩

theorem unguarded_nil : Unguarded [] := by
  unfold Unguarded
  decide

theorem NameText.unguarded_word (name : NameText) :
    Unguarded ('a' :: 's' :: ' ' :: name.chars) := by
  have word : Unguarded ['a', 's'] := by
    unfold Unguarded
    decide
  exact unguarded_append_space word name.unguarded

theorem withoutGuards_around {before after : List Char} (clause : GuardClause)
    (left : Unguarded before) (right : Unguarded after) (unclosed : ')' ∉ after) :
    withoutGuards 0 (before ++ (Written.guardChars (some clause) ++ after)) =
      ([clause.guard], before ++ ' ' :: after) := by
  have split : before ++ (Written.guardChars (some clause) ++ after) =
      (before ++ [' ']) ++ (clause.opening ++ (clause.guard ++ ')' :: after)) := by
    simp [Written.guardChars]
  have closed : ∀ part, part ≠ [] → part <:+ before ++ [' '] → ∀ opening ∈ openings,
      ¬ opening <+: part ++ (clause.opening ++ (clause.guard ++ ')' :: after)) := by
    intro part some tail opening opens starts
    rcases List.prefix_or_prefix_of_prefix starts (List.prefix_append part _) with inside | beyond
    · exact unguarded_append_space left unguarded_nil opening opens
        (inside.isInfix.trans tail.isInfix)
    · -- The part ends in the space, which no opening has.
      rcases List.suffix_concat_iff.mp tail with rfl | ⟨rest, rfl, -⟩
      · exact some rfl
      · have space : ' ' ∈ rest ++ [' '] := by simp
        exact space_not_mem_of_opens opens (beyond.subset space)
  rw [split, withoutGuards_append closed,
    withoutGuards_clause clause.opens clause.solid.nonempty clause.inLine unclosed right]
  simp

namespace Written

variable (key : Written)

def remainder : List Char :=
  match key.guard, key.guardFirst with
  | none, _ => key.source.chars ++ nameChars key.name
  | some _, true => key.source.chars ++ ' ' :: nameChars key.name
  | some _, false => key.source.chars ++ nameChars key.name ++ [' ']

theorem unguarded_nameChars (name : Option NameText) {before : List Char}
    (left : Unguarded before) : Unguarded (before ++ nameChars name) := by
  cases name with
  | none => simpa [nameChars] using left
  | some name => exact unguarded_append_space left name.unguarded_word

theorem unclosed_nameChars (name : Option NameText) : ')' ∉ nameChars name := by
  cases name with
  | none => exact List.not_mem_nil
  | some name => simp [nameChars, nameMark, name.unclosed]

theorem withoutGuards_text :
    withoutGuards 0 key.text.toList = (key.guard.toList.map GuardClause.guard, key.remainder) := by
  obtain ⟨source, name, guard, guardFirst⟩ := key
  have named := unguarded_nameChars name source.unguarded
  cases guard with
  | none =>
      have read := withoutGuards_of_unguarded named
      cases guardFirst <;> simpa [text, remainder, guardChars] using read
  | some clause =>
      cases guardFirst with
      | true =>
          have after := unguarded_nameChars name unguarded_nil
          have read := withoutGuards_around clause source.unguarded after (unclosed_nameChars name)
          simpa [text, remainder] using read
      | false =>
          have read := withoutGuards_around clause named unguarded_nil List.not_mem_nil
          simpa [text, remainder] using read

def gap : List Char := if key.guard.isSome && key.guardFirst then [' '] else []

theorem stripChars_source_gap : Text.stripChars (key.source.chars ++ key.gap) = key.source.chars := by
  unfold gap
  split
  · exact key.source.solid.stripChars_append_blank rfl
  · rw [List.append_nil, key.source.solid.stripChars_eq]

theorem uncut_source_gap : Uncut (key.source.chars ++ key.gap) := by
  unfold gap
  split
  · exact key.source.uncut.append_space
  · rw [List.append_nil]
    exact key.source.uncut

theorem stripChars_remainder_of_unnamed (unnamed : key.name = none) :
    Text.stripChars key.remainder = key.source.chars := by
  obtain ⟨source, name, guard, guardFirst⟩ := key
  cases unnamed
  have plain := source.solid.stripChars_eq
  have spaced := source.solid.stripChars_append_blank (c := ' ') rfl
  cases guard with
  | none => simpa [remainder, nameChars] using plain
  | some clause => cases guardFirst <;> simpa [remainder, nameChars] using spaced

theorem stripChars_remainder_of_named {name : NameText} (named : key.name = some name) :
    Text.stripChars key.remainder = key.source.chars ++ key.gap ++ (nameMark ++ name.chars) := by
  obtain ⟨source, given, guard, guardFirst⟩ := key
  cases named
  have plain := source.solid.append nameMark name.solid
  have spaced := source.solid.append (' ' :: nameMark) name.solid
  cases guard with
  | none => simpa [remainder, nameChars, gap] using plain.stripChars_eq
  | some clause =>
      cases guardFirst with
      | true => simpa [remainder, nameChars, gap] using spaced.stripChars_eq
      | false =>
          simpa [remainder, nameChars, gap] using plain.stripChars_append_blank (c := ' ') rfl

end Written

/-! ## The statement -/

theorem nonempty?_of_solid {cs : List Char} (solid : Text.Solid cs) :
    nonempty? (Text.stripChars cs) = some (String.ofList cs) := by
  rw [solid.stripChars_eq, nonempty?, if_neg (by simpa using solid.nonempty)]

theorem guard_head? (guard : Option GuardClause) :
    ((guard.toList.map GuardClause.guard).head?.bind fun cs => nonempty? (Text.stripChars cs)) =
      guard.map fun clause => String.ofList clause.guard := by
  cases guard with
  | none => rfl
  | some clause => exact nonempty?_of_solid clause.solid

theorem parse_written (key : Written) :
    let reference := Reference.parse (String.ofList key.source.chars)
    let name := key.name.map fun name => String.ofList name.chars
    parse key.text =
      { raw := key.text, reference, rename := name,
        guard := key.guard.map fun clause => String.ofList clause.guard } ∧
    (parse key.text).outputName = name.getD reference.property := by
  intro reference name
  have parsed : parse key.text =
      { raw := key.text, reference, rename := name,
        guard := key.guard.map fun clause => String.ofList clause.guard } := by
    unfold parse
    simp only [key.withoutGuards_text, guard_head?]
    cases given : key.name with
    | none =>
        have cut := Text.cutAt?_of_not_infix key.source.whole
        simp only [key.stripChars_remainder_of_unnamed given, cut, reference, name, given,
          Option.map_none]
    | some written =>
        have cut := key.uncut_source_gap.cutAt?_append written.chars
        simp only [key.stripChars_remainder_of_named given, cut, key.stripChars_source_gap,
          nonempty?_of_solid written.solid, reference, name, given, Option.map_some]
  exact ⟨parsed, by rw [parsed]; rfl⟩

def town : Written where
  source := ⟨"@u.city".toList, ⟨by decide, by decide +kernel, by decide +kernel⟩,
    by unfold Unguarded; decide +kernel, by decide, by decide⟩
  name := some ⟨"town".toList, ⟨by decide, by decide +kernel, by decide +kernel⟩,
    by unfold Unguarded; decide +kernel, by decide⟩
  guard := some ⟨"IF(".toList, by decide, "(x) as y if(z)".toList,
    ⟨by decide, by decide +kernel, by decide +kernel⟩, by decide⟩
  guardFirst := true

theorem parse_written_town :
    town.text = "@u.city IF((x) as y if(z)) as town" ∧
      parse "@u.city IF((x) as y if(z)) as town" =
        { raw := "@u.city IF((x) as y if(z)) as town",
          reference := .external (.container "u") [] "city",
          rename := some "town", guard := some "(x) as y if(z)" } ∧
      (parse "@u.city IF((x) as y if(z)) as town").outputName = "town" := by
  have written : town.text = "@u.city IF((x) as y if(z)) as town" := by decide +kernel
  have source : Reference.parse "@u.city" = .external (.container "u") [] "city" := by
    decide +kernel
  obtain ⟨parsed, output⟩ := parse_written town
  rw [written] at parsed output
  have same : String.ofList town.source.chars = "@u.city" := rfl
  rw [same, source] at parsed
  exact ⟨written, parsed, output⟩

/-! ## Letters that look like the keyword -/

def plainOpenings : List (List Char) := ["if(".toList, "If(".toList, "iF(".toList, "IF(".toList]

/-- A dotted capital letter opens a guard clause as well, so a source that has one is not read
back. -/
theorem parse_lookalike_keyword :
    Text.strip "İf(x)" = "İf(x)" ∧ ¬ nameMark <:+: "İf(x)".toList ∧
      ¬ " as".toList <:+ "İf(x)".toList ∧
      (∀ opening ∈ plainOpenings, ¬ opening <:+: "İf(x)".toList) ∧
      parse "İf(x) as y if(g)" ≠
        { raw := "İf(x) as y if(g)", reference := Reference.parse "İf(x)", rename := some "y",
          guard := some "g" } := by
  decide +kernel

end FieldKey

end FieldMap
