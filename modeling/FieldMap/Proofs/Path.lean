import FieldMap.Path
import FieldMap.Proofs.Outcome
import FieldMap.Proofs.Text.Cut

/-!
Walks along paths. A walk along two paths in a row is a walk along the second from where the first
leads. On data that is read by texts nothing fails but attributes that raise faults of their own. Main
statement: `resolve_composed`.
-/

namespace FieldMap.Path
open Outcome

structure IsSegment (s : String) : Prop where
  nonempty : s ≠ ""
  undotted : '.' ∉ s.toList

section Dotted

variable {names : List String}

theorem cut_joined (undotted : ∀ name ∈ names, '.' ∉ name.toList) (nonempty : names ≠ []) :
    Text.cut '.' (Text.joinStrings "." names).toList = names.map String.toList := by
  rw [Text.toList_joinStrings rfl]
  apply Text.cut_joinWith
  · simpa using undotted
  · simpa using nonempty

theorem segmentsOf_undotted (undotted : ∀ name ∈ names, '.' ∉ name.toList) :
    segmentsOf (Text.joinStrings "." names) = names.filter (· != "") := by
  by_cases none : names = []
  · subst none
    rfl
  · rw [segmentsOf, Text.cutString, cut_joined undotted none, List.map_map]
    simp

theorem segmentsOf_joined (each : ∀ name ∈ names, IsSegment name) :
    segmentsOf (Text.joinStrings "." names) = names := by
  rw [segmentsOf_undotted fun name member => (each name member).undotted, List.filter_eq_self]
  simpa using fun name member => (each name member).nonempty

end Dotted

theorem segments_text (s : String) : segments (.text s) = .ok ((segmentsOf s).map .text) := by
  by_cases empty : s = ""
  · subst empty
    rfl
  · simp [segments, Value.truthy, Value.opened, empty]

theorem segments_list (names : List String) :
    segments (.list (names.map .text)) = .ok ((names.filter (· != "")).map .text) := by
  have kept : (names.map Value.text).filter Value.truthy = (names.filter (· != "")).map .text :=
    List.filter_map
  cases names with
  | nil => rfl
  | cons name names => simpa [segments, Value.truthy, Value.opened, Value.members?] using kept

/-- What lies along a path is read by way of an attribute that raises a fault. An attribute that
complains of not being there does not raise one. -/
inductive Raises : Value → List String → Fault → Prop
  | here {v : Value} {profile : Profile} {attributes : List (String × Except Fault Value)}
      {name : String} {names : List String} {fault : Fault} (shown : v.opened = .object profile attributes)
      (raised : attributes.lookup name = some (.error fault)) (own : fault.family ≠ .badAttribute) :
      Raises v (name :: names) fault
  | later {v next : Value} {name : String} {names : List String} {fault : Fault}
      (reads : read v (.text name) = .ok (.found next)) (raises : Raises next names fault) :
      Raises v (name :: names) fault

theorem readAttribute_eq_error {v : Value} {name : String} {fault : Fault} :
    readAttribute v name = .error fault ↔ ∃ profile attributes, v = .object profile attributes ∧
      attributes.lookup name = some (.error fault) ∧ fault.family ≠ .badAttribute := by
  constructor
  · intro fails
    unfold readAttribute at fails
    split at fails
    · next profile attributes =>
        refine ⟨profile, attributes, rfl, ?_⟩
        split at fails
        · cases fails
        · next raised found =>
            split at fails
            · cases fails
            · next own =>
                cases fails
                exact ⟨found, own⟩
        · cases fails
    · split at fails <;> cases fails
  · rintro ⟨profile, attributes, rfl, raised, own⟩
    simp only [readAttribute, raised, own, if_false]

theorem read_text_eq_error {v : Value} {name : String} {fault : Fault} :
    read v (.text name) = .error fault ↔ ∃ profile attributes, v.opened = .object profile attributes ∧
      attributes.lookup name = some (.error fault) ∧ fault.family ≠ .badAttribute := by
  unfold read
  split
  case h_1 shown | h_2 shown => simp [shown]
  case h_3 shown | h_4 shown => simp [shown, unhashable?]
  case h_5 shown | h_6 shown =>
    simp only [shown, indexOf?, ok_bind]
    cases (Number.readInteger name.toList).toOption <;> simp
  case h_7 => exact readAttribute_eq_error

theorem walk_eq_error_iff {v : Value} {names : List String} {fault : Fault} :
    walk v (names.map .text) = .error fault ↔ Raises v names fault := by
  induction names generalizing v with
  | nil =>
      constructor
      · intro fails
        cases fails
      · rintro ⟨⟩
  | cons name names ih =>
      rw [List.map_cons, walk, bind_eq_error]
      constructor
      · rintro (here | ⟨found, reads, later⟩)
        · obtain ⟨profile, attributes, shown, raised, own⟩ := read_text_eq_error.mp here
          exact .here shown raised own
        · cases found with
          | found next => exact .later reads (ih.mp later)
          | missing segment => cases later
          | absent => cases later
      · rintro (⟨shown, raised, own⟩ | ⟨reads, raises⟩)
        · exact .inl (read_text_eq_error.mpr ⟨_, _, shown, raised, own⟩)
        · exact .inr ⟨_, reads, ih.mpr raises⟩

def onward (segments : List Value) : Lookup → Except Fault Lookup
  | .found v => walk v segments
  | .absent => walk .undefined segments
  | .missing segment => .ok (.missing segment)

inductive ReadsAs (segment : Value) : Lookup → Prop
  | found (v : Value) : ReadsAs segment (.found v)
  | missing : ReadsAs segment (.missing segment)

theorem readsAs_getD (v? : Option Value) (segment : Value) :
    ReadsAs segment ((v?.map Lookup.found).getD (.missing segment)) := by
  cases v? with
  | none => exact .missing
  | some v => exact .found v

theorem readAttribute_readsAs (v : Value) (name : String) :
    ReturnsOnly (ReadsAs (.text name)) (readAttribute v name) := by
  unfold readAttribute
  split
  · split
    · exact ReturnsOnly.ok (.found _)
    · split
      · exact ReturnsOnly.ok .missing
      · exact ReturnsOnly.error _
    · exact ReturnsOnly.ok .missing
  · split
    · exact ReturnsOnly.ok (.found _)
    · exact ReturnsOnly.ok .missing

theorem read_readsAs (v segment : Value) : ReturnsOnly (ReadsAs segment) (read v segment) := by
  unfold read
  split
  case h_1 | h_2 => exact ReturnsOnly.ok .missing
  case h_3 | h_4 =>
    split
    · exact ReturnsOnly.error _
    · exact ReturnsOnly.ok (readsAs_getD _ segment)
  case h_5 | h_6 =>
    refine (ReturnsOnly.any _).bind fun index _ => ?_
    split
    · exact ReturnsOnly.ok (readsAs_getD _ segment)
    · exact ReturnsOnly.ok .missing
  case h_7 =>
    split
    · exact readAttribute_readsAs _ _
    · exact ReturnsOnly.error _

theorem read_ne_absent (v segment : Value) : read v segment ≠ .ok .absent := by
  intro reads
  cases read_readsAs v segment _ reads

theorem walk_append (v : Value) (first second : List Value) :
    walk v (first ++ second) = walk v first >>= onward second := by
  induction first generalizing v with
  | nil =>
      cases v <;> rfl
  | cons segment first ih =>
      rw [List.cons_append, walk, walk]
      cases reads : read v segment with
      | error fault => rfl
      | ok found =>
          cases found with
          | found next => exact ih next
          | missing segment => rfl
          | absent => exact absurd reads (read_ne_absent v segment)

theorem resolve_list (v : Value) (names : List String) :
    resolve v (.list (names.map .text)) = walk v ((names.filter (· != "")).map .text) := by
  rw [resolve, segments_list, ok_bind]

theorem resolve_dotted {names : List String} (undotted : ∀ name ∈ names, '.' ∉ name.toList) (v : Value) :
    resolve v (.text (Text.joinStrings "." names)) = walk v ((names.filter (· != "")).map .text) := by
  rw [resolve, segments_text, segmentsOf_undotted undotted, ok_bind]

theorem walk_undefined (segments : List Value) (v : Value) :
    walk .undefined segments ≠ .ok (.found v) := by
  cases segments <;> nofun

theorem walk_append_eq_found {v out : Value} {first second : List Value} :
    walk v (first ++ second) = .ok (.found out) ↔
      ∃ next, walk v first = .ok (.found next) ∧ walk next second = .ok (.found out) := by
  rw [walk_append, bind_eq_ok]
  constructor
  · rintro ⟨reached, leads, later⟩
    cases reached with
    | found next => exact ⟨next, leads, later⟩
    | missing segment => cases later
    | absent => exact absurd later (walk_undefined second out)
  · rintro ⟨next, leads, later⟩
    exact ⟨.found next, leads, later⟩

inductive Leads : Value → List String → Value → Prop
  | here (v : Value) : Leads v [] v
  | later {v next out : Value} {name : String} {names : List String}
      (reads : read v (.text name) = .ok (.found next)) (leads : Leads next names out) :
      Leads v (name :: names) out

inductive Stops (v : Value) (names : List String) : Option Value → Prop
  | unread {before after : List String} {name : String} {reached : Value}
      (split : names = before ++ name :: after) (leads : Leads v before reached)
      (fails : read reached (.text name) = .ok (.missing (.text name))) :
      Stops v names (some (.text name))
  | undefined (leads : Leads v names .undefined) : Stops v names none

theorem Stops.later {v next : Value} {name : String} {names : List String} {reported : Option Value}
    (reads : read v (.text name) = .ok (.found next)) (stops : Stops next names reported) :
    Stops v (name :: names) reported := by
  cases stops with
  | unread split leads fails => exact .unread (congrArg (name :: ·) split) (.later reads leads) fails
  | undefined leads => exact .undefined (.later reads leads)

theorem stops_of_walk {v : Value} {names : List String} {stopped : Lookup}
    (walked : walk v (names.map .text) = .ok stopped) (nothing : stopped.isFound = false) :
    Stops v names stopped.missingSegment? := by
  induction names generalizing v with
  | nil =>
      rw [List.map_nil, walk] at walked
      cases walked
      cases v with
      | undefined => exact .undefined (.here .undefined)
      | _ => cases nothing
  | cons name names ih =>
      rw [List.map_cons, walk, bind_eq_ok] at walked
      obtain ⟨found, reads, onward⟩ := walked
      cases found with
      | found next => exact (ih onward).later reads
      | missing segment =>
          cases onward
          cases read_readsAs v (.text name) _ reads
          exact .unread rfl (.here v) reads
      | absent => exact absurd reads (read_ne_absent v (.text name))

theorem resolve_composed (o : Value) (first second : List String)
    (filled : ∀ name ∈ first ++ second, name ≠ "") :
    let along (v : Value) (names : List String) := resolve v (.list (names.map .text))
    (∀ v, along o (first ++ second) = .ok (.found v) ↔
      ∃ u, along o first = .ok (.found u) ∧ along u second = .ok (.found v)) ∧
    (∀ stopped, along o (first ++ second) = .ok stopped → stopped.isFound = false →
      stopped.value = .undefined ∧ Stops o (first ++ second) stopped.missingSegment?) ∧
    (∀ fault, (along o first = .error fault ↔ Raises o first fault) ∧
      (along o first = .error fault → along o (first ++ second) = .error fault)) ∧
    ∀ (v : Value) (names : List String), along v names = along v (names.filter (· != "")) ∧
      ((∀ name ∈ names, '.' ∉ name.toList) →
        resolve v (.text (Text.joinStrings "." names)) = along v names) := by
  intro along
  have walks {names : List String} (part : names ⊆ first ++ second) (v : Value) :
      along v names = walk v (names.map .text) := by
    have kept : names.filter (· != "") = names := by simpa using fun name here => filled name (part here)
    simp only [along, resolve_list, kept]
  have left := walks (List.subset_append_left first second)
  have right := walks (List.subset_append_right first second)
  have both := walks (List.Subset.refl _)
  simp only [left, right, both]
  refine ⟨fun v => ?_, fun stopped walked nothing => ⟨?_, stops_of_walk walked nothing⟩,
    fun fault => ⟨walk_eq_error_iff, fun fails => ?_⟩, fun v names => ⟨?_, fun undotted => ?_⟩⟩
  · rw [List.map_append, walk_append_eq_found]
  · cases stopped with
    | found v => cases nothing
    | _ => rfl
  · rw [List.map_append, walk_append, fails]
    rfl
  · simp only [along, resolve_list, List.filter_filter, Bool.and_self]
  · simp only [along, resolve_list, resolve_dotted undotted]

def pen : Value :=
  .object { kind := "Pen", text := "Pen()", truth := true, members := none, sized := false,
            identity := ["pen"] }
    [("ink", .ok (.text "blue")), ("width", .ok (.int 7)), ("clip", .ok .undefined),
      ("cap", .error (.raised .badValue "lost"))]

def desk : Value := .mapping [(.text "pens", .list [.null, pen])]

theorem resolve_composed_desk :
    let along (names : List String) := resolve desk (.list (names.map .text))
    (∀ name ∈ ["pens", "-1"] ++ ["ink"], name ≠ "") ∧
      along (["pens", "-1"] ++ ["ink"]) = .ok (.found (.text "blue")) ∧
      along (["pens", "1", "width"] ++ ["real"]) = .ok (.found (.int 7)) ∧
      Stops desk (["pens", "0"] ++ ["ink"]) (some (.text "ink")) ∧
      Stops desk (["pens", "1"] ++ ["clip"]) none ∧
      along (["pens", "1", "cap"] ++ ["ink"]) = .error (.raised .badValue "lost") ∧
      resolve desk (.text "pens..-1.ink") = .ok (.found (.text "blue")) := by
  intro along
  have filled : ∀ name ∈ ["pens", "-1"] ++ ["ink"], name ≠ "" := by decide
  have raises : Raises desk ["pens", "1", "cap"] (.raised .badValue "lost") :=
    .later rfl (.later rfl (.here rfl rfl (by decide)))
  obtain ⟨found, -, -, written⟩ := resolve_composed desk ["pens", "-1"] ["ink"] filled
  obtain ⟨measured, -, -, -⟩ := resolve_composed desk ["pens", "1", "width"] ["real"] (by decide)
  obtain ⟨-, nulled, -, -⟩ := resolve_composed desk ["pens", "0"] ["ink"] (by decide)
  obtain ⟨-, undefined, -, -⟩ := resolve_composed desk ["pens", "1"] ["clip"] (by decide)
  obtain ⟨-, -, raised, -⟩ := resolve_composed desk ["pens", "1", "cap"] ["ink"] (by decide)
  have ink : along (["pens", "-1"] ++ ["ink"]) = .ok (.found (.text "blue")) :=
    (found _).mpr ⟨pen, rfl, rfl⟩
  have width : along (["pens", "1", "width"] ++ ["real"]) = .ok (.found (.int 7)) :=
    (measured _).mpr ⟨.int 7, rfl, rfl⟩
  have cap := (raised _).2 ((raised _).1.mpr raises)
  obtain ⟨kept, joined⟩ := written desk ["pens", "", "-1", "ink"]
  exact ⟨filled, ink, width, (nulled _ rfl rfl).2, (undefined _ rfl rfl).2, cap,
    (joined (by decide)).trans (kept.trans ink)⟩

end FieldMap.Path
