import FieldMap.Proofs.Text.Cut
import FieldMap.Reference

/-!
Reading and writing references. A text that leads outside of one's own fields begins with a marker
and has a dot. Every text is written again as it was read, and the references that are read again as
they were written are those whose parts hold no dots of their own. Main statement: `parse_faithful`.
-/

namespace FieldMap

namespace Root

def marks : List Char := ['^', '&', '@']

def IsMarker (marker : List Char) : Prop :=
  marker = ['^'] ∨ marker = ['&'] ∨ ∃ c name, marker = '@' :: c :: name

def Proper : Root → Prop
  | parent | model => True
  | container name => name ≠ "" ∧ '.' ∉ name.toList

theorem IsMarker.exists_cons {marker : List Char} (marks : IsMarker marker) :
    ∃ c name, marker = c :: name ∧ c ∈ Root.marks := by
  rcases marks with rfl | rfl | ⟨c, name, rfl⟩
  · exact ⟨'^', [], rfl, by decide⟩
  · exact ⟨'&', [], rfl, by decide⟩
  · exact ⟨'@', c :: name, rfl, by decide⟩

theorem isMarker_iff {marker : List Char} : IsMarker marker ↔ ∃ root, ofMarker? marker = some root := by
  constructor
  · rintro (rfl | rfl | ⟨c, name, rfl⟩)
    · exact ⟨parent, rfl⟩
    · exact ⟨model, rfl⟩
    · exact ⟨_, rfl⟩
  · rintro ⟨root, marks⟩
    unfold ofMarker? at marks
    split at marks
    · exact .inl rfl
    · exact .inr (.inl rfl)
    · next c name => exact .inr (.inr ⟨c, name, rfl⟩)
    · cases marks

theorem marker_of_ofMarker? {marker : List Char} {root : Root} (marks : ofMarker? marker = some root) :
    root.marker.toList = marker := by
  unfold ofMarker? at marks
  split at marks
  · cases marks
    rfl
  · cases marks
    rfl
  · cases marks
    simp [Root.marker]
  · cases marks

theorem ofMarker?_marker {root : Root} (proper : root.Proper) :
    ofMarker? root.marker.toList = some root := by
  cases root with
  | parent => rfl
  | model => rfl
  | container name =>
      have nonempty : name.toList ≠ [] := fun empty => proper.1 (String.toList_eq_nil_iff.mp empty)
      obtain ⟨c, cs, chars⟩ := List.exists_cons_of_ne_nil nonempty
      have marker : (container name).marker.toList = '@' :: c :: cs := by
        rw [← chars]
        simp [Root.marker]
      rw [marker, ofMarker?, ← chars, String.ofList_toList]

theorem proper_of_ofMarker? {marker : List Char} {root : Root} (marks : ofMarker? marker = some root)
    (undotted : '.' ∉ marker) : root.Proper := by
  have written := marker_of_ofMarker? marks
  cases root with
  | parent => trivial
  | model => trivial
  | container name =>
      subst written
      refine ⟨?_, fun dotted => undotted (by simp [Root.marker, dotted])⟩
      rintro rfl
      cases marks

theorem Proper.undotted {root : Root} (proper : root.Proper) : '.' ∉ root.marker.toList := by
  cases root with
  | parent => decide
  | model => decide
  | container name => simp [Root.marker, proper.2]

end Root

namespace Reference

/-- A text that leads outside: before its first dot stands a marker. -/
def LeadsOut (s : String) : Prop :=
  ∃ marker rest, s.toList = marker ++ '.' :: rest ∧ '.' ∉ marker ∧ Root.IsMarker marker

def Proper : Reference → Prop
  | own name => ¬ LeadsOut name
  | external root path property =>
    root.Proper ∧ (∀ segment ∈ path, '.' ∉ segment.toList) ∧ '.' ∉ property.toList

def segments (root : Root) (path : List String) (property : String) : List String :=
  root.marker :: path ++ [property]

theorem leadsOut_iff {s : String} : LeadsOut s ↔ ∃ marker segment segments root,
    Text.cut '.' s.toList = marker :: segment :: segments ∧ Root.ofMarker? marker = some root := by
  constructor
  · rintro ⟨marker, rest, split, undotted, marks⟩
    obtain ⟨root, marks⟩ := Root.isMarker_iff.mp marks
    obtain ⟨segment, segments, later⟩ := List.exists_cons_of_ne_nil (Text.cut_ne_nil '.' rest)
    refine ⟨marker, segment, segments, root, ?_, marks⟩
    rw [split, Text.cut_append, Text.cut_of_not_mem undotted, later]
    rfl
  · rintro ⟨marker, segment, segments, root, cut, marks⟩
    have undotted := Text.clean_of_mem_cut marker (cut ▸ List.mem_cons_self)
    refine ⟨marker, Text.joinWith '.' (segment :: segments), ?_, undotted,
      Root.isMarker_iff.mpr ⟨root, marks⟩⟩
    rw [← Text.joinWith_cons (List.cons_ne_nil segment segments), ← cut, Text.joinWith_cut]

theorem parse_of_not_leadsOut {s : String} (inside : ¬ LeadsOut s) : parse s = .own s := by
  unfold parse
  split
  · next marker segment segments cut =>
      cases marks : Root.ofMarker? marker with
      | none => rfl
      | some root => exact absurd (leadsOut_iff.mpr ⟨_, _, _, root, cut, marks⟩) inside
  · rfl

theorem exists_parse_of_leadsOut {s : String} (leads : LeadsOut s) : ∃ root path property,
    parse s = .external root path property ∧ root.Proper ∧
      Text.cut '.' s.toList = (segments root path property).map String.toList := by
  obtain ⟨marker, segment, rest, root, cut, marks⟩ := leadsOut_iff.mp leads
  have undotted := Text.clean_of_mem_cut marker (cut ▸ List.mem_cons_self)
  have parsed : parse s = .external root (((segment :: rest).map String.ofList).dropLast)
      (((segment :: rest).map String.ofList).getLastD "") := by
    simp only [parse, cut, marks]
  refine ⟨root, _, _, parsed, Root.proper_of_ofMarker? marks undotted, ?_⟩
  have parts : (segment :: rest).map String.ofList =
      ((segment :: rest).map String.ofList).dropLast ++
        [((segment :: rest).map String.ofList).getLastD ""] :=
    (List.dropLast_append_getLast (List.cons_ne_nil _ _)).symm
  have texts : ((segment :: rest).map String.ofList).map String.toList = segment :: rest := by
    rw [List.map_map]
    simp
  rw [segments, List.cons_append, ← parts, List.map_cons, texts, Root.marker_of_ofMarker? marks, cut]

theorem isExternal_parse_iff {s : String} : (parse s).isExternal = true ↔ LeadsOut s := by
  by_cases leads : LeadsOut s
  · obtain ⟨root, path, property, parsed, -⟩ := exists_parse_of_leadsOut leads
    rw [parsed]
    exact iff_of_true rfl leads
  · rw [parse_of_not_leadsOut leads]
    exact iff_of_false Bool.false_ne_true leads

theorem parse_external {s : String} (h : (parse s).isExternal = true) :
    ∃ c before after, s.toList = c :: before ++ '.' :: after ∧ c ∈ Root.marks := by
  obtain ⟨marker, rest, split, -, marks⟩ := isExternal_parse_iff.mp h
  obtain ⟨c, name, rfl, mark⟩ := marks.exists_cons
  exact ⟨c, name, rest, split, mark⟩

theorem isExternal_parse_eq_false {c : Char} {cs : List Char} (plain : c ∉ Root.marks) :
    (parse (String.ofList (c :: cs))).isExternal = false := by
  rw [Bool.eq_false_iff]
  intro external
  obtain ⟨d, before, after, split, mark⟩ := parse_external external
  rw [String.toList_ofList] at split
  cases split
  exact plain mark

theorem toList_written (root : Root) (path : List String) (property : String) :
    (external root path property).written.toList =
      Text.joinWith '.' ((segments root path property).map String.toList) :=
  Text.toList_joinStrings rfl _

theorem written_parse (s : String) : (parse s).written = s := by
  by_cases leads : LeadsOut s
  · obtain ⟨root, path, property, parsed, -, cut⟩ := exists_parse_of_leadsOut leads
    rw [parsed, String.ext_iff, toList_written, ← cut, Text.joinWith_cut]
  · rw [parse_of_not_leadsOut leads, written]

theorem proper_parse (s : String) : (parse s).Proper := by
  by_cases leads : LeadsOut s
  · obtain ⟨root, path, property, parsed, proper, cut⟩ := exists_parse_of_leadsOut leads
    have undotted {name : String} (member : name ∈ segments root path property) :
        '.' ∉ name.toList :=
      Text.clean_of_mem_cut _ (cut ▸ List.mem_map_of_mem member)
    rw [parsed]
    exact ⟨proper, fun segment inside => undotted (by simp [segments, inside]),
      undotted (by simp [segments])⟩
  · rw [parse_of_not_leadsOut leads]
    exact leads

theorem undotted_segments {root : Root} {path : List String} {property : String}
    (proper : (external root path property).Proper) :
    ∀ name ∈ segments root path property, '.' ∉ name.toList := by
  obtain ⟨start, inside, last⟩ := proper
  simp only [segments, List.cons_append, List.mem_cons, List.mem_append, List.not_mem_nil, or_false]
  rintro name (rfl | member | rfl)
  · exact start.undotted
  · exact inside name member
  · exact last

theorem parse_written_of_proper {r : Reference} (proper : r.Proper) : parse r.written = r := by
  cases r with
  | own name => exact parse_of_not_leadsOut proper
  | external root path property =>
      have cut : Text.cut '.' (external root path property).written.toList =
          (segments root path property).map String.toList := by
        rw [toList_written]
        apply Text.cut_joinWith
        · simpa using undotted_segments proper
        · simp [segments]
      obtain ⟨segment, rest, parts⟩ : ∃ segment rest,
          (path ++ [property]).map String.toList = segment :: rest :=
        List.exists_cons_of_ne_nil (by simp)
      have texts : (segment :: rest).map String.ofList = path ++ [property] := by
        rw [← parts, List.map_map]
        simp
      rw [segments, List.cons_append, List.map_cons, parts] at cut
      simp only [parse, cut, Root.ofMarker?_marker proper.1]
      rw [texts, List.dropLast_concat, List.getLastD_concat]

/-- Reading loses nothing of a text, writing loses nothing of a reference with parts that can stand in
a text, and what is read leads outside exactly where the text does. -/
theorem parse_faithful :
    (∀ s, (parse s).written = s) ∧ Function.Injective parse ∧
    (∀ r, parse r.written = r ↔ r.Proper) ∧
    ∀ s, (parse s).isExternal = true ↔ LeadsOut s := by
  refine ⟨written_parse, ?_, fun r => ⟨?_, parse_written_of_proper⟩, fun s => isExternal_parse_iff⟩
  · exact Function.LeftInverse.injective written_parse
  · intro read
    rw [← read]
    exact proper_parse r.written

-- A lone marker is no container, and empty segments stay.
example : parse "@.name" = .own "@.name" ∧
    parse "@user..name." = .external (.container "user") ["", "name"] "" := by
  decide +kernel

end Reference

end FieldMap
