import FieldMap.Proofs.Text.Cut
import FieldMap.Template

/-!
Name clauses that are written out: a name, the keyword and a list of templates, between brackets or
not, with white space anywhere around the templates, the commas and the brackets. Reading the clause
gives the name and the templates, and the name by itself is a clause without templates. Main
statement: `parse_rendered`.
-/

namespace FieldMap.NameClause

abbrev keyword : List Char := " extends ".toList

def listMarks : List Char := [',', '[', ']']

structure NameText where
  chars : List Char
  solid : Text.Solid chars
  first : ∀ before after, chars ++ keyword = before ++ keyword ++ after → after = []

structure TemplateText where
  chars : List Char
  nonempty : chars ≠ []
  unspaced : ∀ c ∈ chars, Text.isBlank c = false
  unmarked : ∀ c ∈ chars, c ∉ listMarks

structure Padding where
  chars : List Char
  blank : ∀ c ∈ chars, Text.isBlank c = true

structure Item where
  before : Padding
  template : TemplateText
  after : Padding

namespace Item

def chars (item : Item) : List Char := item.before.chars ++ item.template.chars ++ item.after.chars

end Item

/-- A clause as it is written. -/
structure Written where
  name : NameText
  items : List Item
  nonempty : items ≠ []
  brackets : Option (Padding × Padding)

namespace Written

variable (clause : Written)

def listChars : List Char :=
  let list := Text.joinWith ',' (clause.items.map Item.chars)
  match clause.brackets with
  | none => list
  | some (before, after) => before.chars ++ '[' :: list ++ ']' :: after.chars

def text : String := String.ofList (clause.name.chars ++ (keyword ++ clause.listChars))

def templates : List String := clause.items.map fun item => String.ofList item.template.chars

end Written

theorem Padding.filter_chars (padding : Padding) : padding.chars.filter (!Text.isBlank ·) = [] := by
  simpa using padding.blank

theorem Item.filter_chars (item : Item) : item.chars.filter (!Text.isBlank ·) = item.template.chars := by
  have kept : item.template.chars.filter (!Text.isBlank ·) = item.template.chars := by
    simpa using item.template.unspaced
  rw [Item.chars, List.filter_append, List.filter_append, item.before.filter_chars,
    item.after.filter_chars, kept, List.nil_append, List.append_nil]

namespace Written

variable (clause : Written)

def names : List Char := Text.joinWith ',' (clause.items.map fun item => item.template.chars)

theorem filter_items :
    (Text.joinWith ',' (clause.items.map Item.chars)).filter (!Text.isBlank ·) = clause.names := by
  rw [Text.filter_joinWith (by decide), List.map_map, names]
  exact congrArg (Text.joinWith ',') (List.map_congr_left fun item _ => item.filter_chars)

theorem filter_listChars : clause.listChars.filter (!Text.isBlank ·) =
    if clause.brackets.isSome then '[' :: clause.names ++ [']'] else clause.names := by
  obtain ⟨name, items, nonempty, brackets⟩ := clause
  have plain := filter_items ⟨name, items, nonempty, brackets⟩
  cases brackets with
  | none => exact plain
  | some around =>
      obtain ⟨before, after⟩ := around
      have opening : Text.isBlank '[' = false := by decide
      have closing : Text.isBlank ']' = false := by decide
      simpa [listChars, before.filter_chars, after.filter_chars, opening, closing] using plain

theorem bracket_not_mem_names {c : Char} (bracket : c ∈ ['[', ']']) : c ∉ clause.names := by
  intro member
  have marks : c ∈ listMarks := List.mem_cons_of_mem ',' bracket
  rcases Text.mem_joinWith member with rfl | ⟨piece, inside, found⟩
  · exact absurd bracket (by decide)
  · obtain ⟨item, -, rfl⟩ := List.mem_map.mp inside
    exact item.template.unmarked c found marks

theorem filter_names : clause.names.filter (fun c => c != '[' && c != ']') = clause.names := by
  have opening := clause.bracket_not_mem_names (c := '[') (by decide)
  have closing := clause.bracket_not_mem_names (c := ']') (by decide)
  rw [List.filter_eq_self]
  intro c member
  have noOpening : c ≠ '[' := fun same => opening (same ▸ member)
  have noClosing : c ≠ ']' := fun same => closing (same ▸ member)
  simp [noOpening, noClosing]

theorem cut_names : Text.cut ',' clause.names = clause.items.map fun item => item.template.chars := by
  apply Text.cut_joinWith
  · intro piece member
    obtain ⟨item, -, rfl⟩ := List.mem_map.mp member
    exact fun comma => item.template.unmarked ',' comma (by decide)
  · simpa using clause.nonempty

theorem templatesOf_listChars : templatesOf clause.listChars = clause.templates := by
  have pieces : ((Text.cut ',' clause.names).filter (!·.isEmpty)).map String.ofList =
      clause.templates := by
    have filled : ∀ piece ∈ clause.items.map fun item => item.template.chars,
        (!piece.isEmpty) = true := by
      intro piece member
      obtain ⟨item, -, rfl⟩ := List.mem_map.mp member
      simpa using item.template.nonempty
    rw [clause.cut_names, List.filter_eq_self.mpr filled, List.map_map]
    rfl
  unfold templatesOf
  rw [clause.filter_listChars]
  cases bracketed : clause.brackets.isSome with
  | true => simpa [clause.filter_names] using pieces
  | false =>
      simp only [Bool.false_eq_true, if_false]
      split
      · next rest opened =>
          exact absurd (opened ▸ List.mem_cons_self) (clause.bracket_not_mem_names (c := '[') (by decide))
      · exact pieces

end Written

theorem NameText.cutAt?_append (name : NameText) (list : List Char) :
    Text.cutAt? keyword (name.chars ++ (keyword ++ list)) = some (name.chars, list) := by
  apply Text.cutAt?_append_mark
  intro part some tail starts
  -- A keyword that begins in the name ends before the list does, so that it is not the last.
  obtain ⟨before, split⟩ := tail
  have inside : keyword <+: part ++ keyword := by
    apply List.prefix_of_prefix_length_le starts
    · rw [← List.append_assoc]
      exact List.prefix_append _ _
    · simp
  obtain ⟨after, parts⟩ := inside
  have last : after = [] := by
    apply name.first before after
    rw [← split, List.append_assoc, ← parts, List.append_assoc]
  rw [last, List.append_nil] at parts
  exact some (List.append_left_eq_self.mp parts.symm)

theorem parse_text (clause : Written) :
    parse clause.text = ⟨String.ofList clause.name.chars, clause.templates⟩ := by
  have cut := clause.name.cutAt?_append clause.listChars
  unfold parse
  simp only [Written.text, String.toList_ofList, cut, clause.name.solid.stripChars_eq,
    clause.templatesOf_listChars]

theorem parse_stripped {cs : List Char} (plain : ¬ keyword <:+: cs) :
    parse (String.ofList (Text.stripChars cs)) = ⟨String.ofList (Text.stripChars cs), []⟩ := by
  have uncut : Text.cutAt? keyword (Text.stripChars cs) = none :=
    Text.cutAt?_of_not_infix fun inside => plain (inside.trans (Text.trimmed_infix Text.isBlank cs))
  have again : Text.stripChars (Text.stripChars cs) = Text.stripChars cs := Text.trimmed_trimmed
  unfold parse
  simp only [String.toList_ofList, uncut, Text.strip, again]

theorem parse_name (s : String) : parse (parse s).name = ⟨(parse s).name, []⟩ := by
  cases cut : Text.cutAt? keyword s.toList with
  | none =>
      have name : (parse s).name = String.ofList (Text.stripChars s.toList) := by
        simp only [parse, cut, Text.strip]
      rw [name]
      exact parse_stripped (Text.not_infix_of_cutAt?_eq_none cut)
  | some parts =>
      obtain ⟨before, list⟩ := parts
      have name : (parse s).name = String.ofList (Text.stripChars before) := by
        simp only [parse, cut]
      rw [name]
      exact parse_stripped (Text.cutAt?_eq_some (by decide) cut).2

theorem parse_rendered :
    (∀ clause : Written,
      parse clause.text = ⟨String.ofList clause.name.chars, clause.templates⟩) ∧
    ∀ s, parse (parse s).name = ⟨(parse s).name, []⟩ :=
  ⟨parse_text, parse_name⟩

theorem first_of_apart {cs : List Char}
    (apart : ∀ n < cs.length, ¬ keyword <+: (cs ++ keyword).drop n) (before after : List Char)
    (split : cs ++ keyword = before ++ keyword ++ after) : after = [] := by
  by_contra more
  have lengths := congrArg List.length split
  have positive := List.length_pos_iff.mpr more
  simp only [List.length_append] at lengths
  refine apart before.length (by omega) ?_
  rw [split, List.append_assoc, List.drop_left]
  exact List.prefix_append keyword after

def spaces : Padding := ⟨[' ', ' '], by decide +kernel⟩

def post : Written where
  name := ⟨"post".toList, ⟨by decide, by decide +kernel, by decide +kernel⟩,
    first_of_apart (by decide +kernel)⟩
  items :=
    [⟨spaces, ⟨"extends".toList, by decide, by decide +kernel, by decide⟩, spaces⟩,
      ⟨⟨['\n'], by decide +kernel⟩, ⟨"flow".toList, by decide, by decide +kernel, by decide⟩,
        spaces⟩]
  nonempty := by decide
  brackets := some (⟨['\t'], by decide +kernel⟩, spaces)

theorem parse_rendered_post :
    post.text = "post extends \t[  extends  ,\nflow  ]  " ∧
      parse "post extends \t[  extends  ,\nflow  ]  " = ⟨"post", ["extends", "flow"]⟩ ∧
      parse "post" = ⟨"post", []⟩ := by
  have written : post.text = "post extends \t[  extends  ,\nflow  ]  " := by decide +kernel
  have read := parse_rendered.1 post
  have name := parse_rendered.2 post.text
  rw [read] at name
  rw [written] at read
  exact ⟨written, read, name⟩

end FieldMap.NameClause
