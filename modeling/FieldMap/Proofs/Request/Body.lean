import FieldMap.Proofs.Chain.Written
import FieldMap.Proofs.Request

/-!
Bodies. The body of a request is JSON text, and reading it gives the payload again: without the
entries that are undefined, with null for undefined values further inside, and with lists for tuples.
Main statement: for every method that sends a body and every address and headers that can be prepared,
the payload arrives, as long as it is nested no deeper than a body can be.
-/

namespace FieldMap
open Number Outcome

namespace Json

mutual

def decoded : Value → Value
  | .undefined => .null
  | .list items | .tuple items => .list (decodedItems items)
  | .mapping entries => .mapping (decodedEntries entries)
  | v => v
termination_by structural v => v

def decodedItems : List Value → List Value
  | [] => []
  | item :: items => decoded item :: decodedItems items
termination_by structural items => items

def decodedEntries : List (Value × Value) → List (Value × Value)
  | [] => []
  | (key, v) :: entries => (key, decoded v) :: decodedEntries entries
termination_by structural entries => entries

end

theorem decodedItems_eq_map (items : List Value) : decodedItems items = items.map decoded := by
  induction items with
  | nil => rfl
  | cons item items ih => rw [decodedItems, ih, List.map_cons]

theorem decodedEntries_textEntries (entries : List (String × Value)) :
    decodedEntries (textEntries entries) =
      textEntries (entries.map fun entry => (entry.1, decoded entry.2)) := by
  unfold textEntries
  induction entries with
  | nil => rfl
  | cons entry entries ih => rw [List.map_cons, decodedEntries, ih, List.map_cons, List.map_cons]

theorem entryForm_decoded :
    (entryForm form ∘ fun entry => (entry.1, decoded entry.2)) = entryForm (form ∘ decoded) := rfl

/-- A value made of what JSON can carry, with some levels of lists and objects at most: undefined
values and tuples are carried as well. An undefined value takes a level itself, as null is written
in its place by a further call. -/
inductive Carried : Nat → Value → Prop
  | undefined {levels : Nat} : Carried (levels + 1) .undefined
  | null {levels : Nat} : Carried levels .null
  | bool {levels : Nat} (b : Bool) : Carried levels (.bool b)
  | int {levels : Nat} {n : Int} (short : isWritable n = true) : Carried levels (.int n)
  | text {levels : Nat} {s : String} (unsplit : Unsplit s.toList) : Carried levels (.text s)
  | list {levels : Nat} {items : List Value} (each : ∀ item ∈ items, Carried levels item) :
      Carried (levels + 1) (.list items)
  | tuple {levels : Nat} {items : List Value} (each : ∀ item ∈ items, Carried levels item) :
      Carried (levels + 1) (.tuple items)
  | mapping {levels : Nat} {entries : List (String × Value)}
      (distinct : (entries.map Prod.fst).Nodup)
      (unsplit : ∀ entry ∈ entries, Unsplit entry.1.toList)
      (each : ∀ entry ∈ entries, Carried levels entry.2) :
      Carried (levels + 1) (.mapping (textEntries entries))

theorem Fits.map_decoded {levels : Nat} {entries : List (String × Value)}
    (distinct : (entries.map Prod.fst).Nodup) (unsplit : ∀ entry ∈ entries, Unsplit entry.1.toList)
    (each : ∀ entry ∈ entries, Fits levels (decoded entry.2)) :
    Fits (levels + 1)
      (.mapping (textEntries (entries.map fun entry => (entry.1, decoded entry.2)))) := by
  apply Fits.mapping
  · rw [List.map_map]
    exact distinct
  · exact List.forall_mem_map.mpr unsplit
  · exact List.forall_mem_map.mpr each

theorem Carried.fits {levels : Nat} {v : Value} (carried : Carried levels v) :
    Fits levels (decoded v) := by
  induction carried with
  | undefined | null => exact .null
  | bool b => exact .bool b
  | int short => exact .int short
  | text unsplit => exact .text unsplit
  | list each ih | tuple each ih =>
      rw [decoded, decodedItems_eq_map]
      exact .list (List.forall_mem_map.mpr ih)
  | mapping distinct unsplit each ih =>
      rw [decoded, decodedEntries_textEntries]
      exact .map_decoded distinct unsplit ih

theorem writeWith_carried {levels : Nat} {v : Value} (carried : Carried levels v)
    (cyclic : Nat → Value → Except Fault String) {most level : Nat} (few : level + levels ≤ most) :
    writeWith .inline (some most) Request.standIn cyclic level v =
      .ok (String.ofList (form (decoded v))) := by
  have roomFor {levels level : Nat} (few : level + (levels + 1) ≤ most) :
      hasRoom (some most) level = true := by
    simp only [hasRoom, Option.all_some, decide_eq_true_eq]
    omega
  have inside {levels level : Nat} (few : level + (levels + 1) ≤ most) :
      level + 1 + levels ≤ most := by omega
  induction carried generalizing level with
  | undefined =>
      rw [writeWith]
      · simp only [Layout.standInLevel, roomFor few]
        rfl
      all_goals simp
  | null => rfl
  | bool b => cases b <;> rfl
  | int short => simp [writeWith, decoded, form, integerText, short]
  | text unsplit => rfl
  | list each ih =>
      rw [decoded, decodedItems_eq_map, form, itemForms_eq_map, List.map_map]
      exact (writeWith_list (roomFor few) fun item member => ih item member (inside few)).1
  | tuple each ih =>
      rw [decoded, decodedItems_eq_map, form, itemForms_eq_map, List.map_map]
      exact (writeWith_list (roomFor few) fun item member => ih item member (inside few)).2
  | mapping distinct unsplit each ih =>
      rw [decoded, decodedEntries_textEntries, form, entryForms_textEntries, List.map_map,
        entryForm_decoded]
      exact writeWith_mapping (roomFor few) fun entry member => ih entry member (inside few)

theorem read_write_carried {levels : Nat} {v : Value} (carried : Carried levels v)
    (few : levels ≤ levelLimit) :
    ∃ text, writeWithin levels .inline Request.standIn v = .ok text ∧
      read text = .ok (decoded v) := by
  refine ⟨_, writeWith_carried carried _ (Nat.le_of_eq (Nat.zero_add levels)), ?_⟩
  rw [read, String.toList_ofList]
  exact readChars_form (carried.fits.mono few)

end Json

namespace Request
open Json

structure Payload where
  entries : List (String × Value)
  distinct : (entries.map Prod.fst).Nodup
  unsplit : ∀ entry ∈ entries, Unsplit entry.1.toList
  carried : ∀ entry ∈ entries, Carried (bodyLevels - 1) entry.2

namespace Payload

def value (p : Payload) : Value := .mapping (textEntries p.entries)

def present (p : Payload) : List (String × Value) :=
  p.entries.filter fun entry => !entry.2.isUndefined

/-- What arrives of a payload. -/
def received (p : Payload) : Value :=
  .mapping (textEntries (p.present.map fun entry => (entry.1, decoded entry.2)))

theorem carried_present (p : Payload) : Carried bodyLevels (.mapping (textEntries p.present)) := by
  have inside {entry : String × Value} (member : entry ∈ p.present) : entry ∈ p.entries :=
    List.mem_of_mem_filter member
  have sublist : (p.present.map Prod.fst).Sublist (p.entries.map Prod.fst) :=
    List.filter_sublist.map _
  exact .mapping (sublist.nodup p.distinct) (fun entry member => p.unsplit entry (inside member))
    fun entry member => p.carried entry (inside member)

theorem entriesOf_value (p : Payload) : entriesOf p.value = .ok (textEntries p.entries) :=
  entriesOf_mapping _

theorem filter_textEntries (p : Payload) :
    (textEntries p.entries).filter (fun entry => !entry.2.isUndefined) = textEntries p.present := by
  rw [textEntries, textEntries, List.filter_map]
  rfl

theorem bodyOf_value (p : Payload) :
    ∃ body, bodyOf p.value = .ok body ∧ Json.read body = .ok p.received := by
  obtain ⟨text, written, read⟩ := read_write_carried p.carried_present (Nat.pred_le levelLimit)
  refine ⟨text, ?_, ?_⟩
  · rw [bodyOf, entriesOf_value, ok_bind, filter_textEntries, written]
  · rw [read, decoded, decodedEntries_textEntries, received]

end Payload

theorem prepare_body (p : Payload) (uri : String) (method : Option String)
    (headers : List (Value × Value)) (other : methodOf method ≠ "GET") :
    ∃ body, Json.read body = .ok p.received ∧
      ((∃ r, prepare uri method p.value headers = .ok r) ↔ Preparable uri headers) ∧
      ∀ r, prepare uri method p.value headers = .ok r → r.body = some body := by
  obtain ⟨body, written, read⟩ := p.bodyOf_value
  exact ⟨body, read, exists_prepare_iff other written, fun r => body_of_prepare other written⟩

def gaps : Payload where
  entries := [("a", .undefined), ("b", .tuple [.undefined])]
  distinct := by decide
  unsplit := by simp [Unsplit]
  carried := by
    have inside : Carried (bodyLevels - 3 + 1 + 1) (.tuple [.undefined]) :=
      .tuple fun item member => List.mem_singleton.mp member ▸ .undefined
    simp only [List.mem_cons, List.not_mem_nil, or_false, forall_eq_or_imp, forall_eq]
    exact ⟨.undefined, inside⟩

theorem preparable_plain : Preparable "http://h/p" [] :=
  ⟨"http://h/p", [("Content-Type", "application/json")], none, by decide +kernel, by decide +kernel,
    by decide +kernel⟩

theorem prepare_body_gaps : methodOf (some "post") ≠ "GET" ∧ ∃ r body,
    prepare "http://h/p" (some "post") gaps.value [] = .ok r ∧ r.body = some body ∧
      Json.read body = .ok (.mapping [(.text "b", .list [.null])]) := by
  have other : methodOf (some "post") ≠ "GET" := by decide +kernel
  obtain ⟨body, read, returns, carries⟩ := prepare_body gaps "http://h/p" (some "post") [] other
  obtain ⟨r, prepared⟩ := returns.mpr preparable_plain
  exact ⟨other, r, body, prepared, carries r prepared, read⟩

end Request

namespace Json

def entryText (more : List Char) : List Char := '\x7b' :: '"' :: 'k' :: '"' :: ':' :: ' ' :: more

theorem stringBody_key (opening : Nat) (rest : List Char) :
    stringBody opening ('k' :: '"' :: rest) = .ok (['k'], rest) := by
  have unsplit : Unsplit ['k'] := .singleton _
  exact stringBody_text unsplit opening rest

theorem value_entry_of_ok {levels fuel : Nat} {more : List Char} {v : Value}
    (solid : skipSpace more = more) (found : value levels fuel more = .ok (v, ['\x7d'])) :
    value (levels + 1) (fuel + 2) (entryText more) = .ok (.mapping [(.text "k", v)], []) := by
  have quote := skipSpace_of_solid (c := '"') (by decide)
  have colon := skipSpace_of_solid (c := ':') (by decide)
  have brace := skipSpace_of_solid (c := '\x7d') (by decide)
  have built : Value.mappingOf (textEntries [("k", v)]) = .mapping (textEntries [("k", v)]) :=
    mappingOf_textEntries (by simp)
  have inside : members levels (fuel + 1) ('"' :: 'k' :: '"' :: ':' :: ' ' :: more) =
      .ok (textEntries [("k", v)], []) := by
    rw [members]
    simp only [stringBody_key, ok_bind, colon, skipSpace_space, solid, found, brace]
    rfl
  simp [entryText, value, quote, inside, built]
  rfl

theorem readChars_entry_of_ok {more : List Char} {v : Value} (solid : skipSpace more = more)
    (found : value (levelLimit - 1) (2 * more.length + 12) more = .ok (v, ['\x7d'])) :
    readChars (entryText more) = .ok (.mapping [(.text "k", v)]) :=
  readChars_eq_ok (by decide) (by decide) (value_entry_of_ok solid found)

theorem readChars_entry_halves :
    readChars (entryText (Chain.halvesForm ++ ['\x7d'])) =
      .ok (.mapping [(.text "k", Chain.joinedHalves)]) := by
  have isHigh : Text.isHighSurrogate 0xd83d = true := by decide
  have isLow : Text.isLowSurrogate 0xde00 = true := by decide
  have body (opening : Nat) := stringBody_halves isHigh isLow opening ['\x7d']
  simp only [List.append_assoc] at body
  apply readChars_entry_of_ok (skipSpace_of_solid (by decide) _)
  simp [value, body, Chain.joinedHalves]

theorem writeWith_nested {standIn : Value → Except Fault Value}
    {cyclic : Nat → Value → Except Fault String} {most level depth : Nat} (start : level ≤ most)
    (deep : most ≤ level + depth) :
    writeWith .inline (some most) standIn cyclic level (Chain.nested depth) =
      .error Layout.inline.excess := by
  induction depth generalizing level with
  | zero =>
      have full : hasRoom (some most) level = false := by simp [hasRoom]; omega
      rw [Chain.nested, writeWith, full]
      rfl
  | succ depth ih =>
      rw [Chain.nested, writeWith]
      by_cases room : level < most
      · have inner := @ih (level + 1) room (by omega)
        have more : hasRoom (some most) level = true := by simpa [hasRoom] using room
        rw [writeItems, inner, more]
        rfl
      · have full : hasRoom (some most) level = false := by simpa [hasRoom] using room
        rw [full]
        rfl

theorem writeWithin_nested {most : Nat} (positive : 0 < most) :
    writeWithin most .inline Request.standIn (.mapping [(.text "k", Chain.nested (most - 1))]) =
      .error Layout.inline.excess := by
  have room : hasRoom (some most) 0 = true := by simpa [hasRoom] using positive
  rw [writeWithin, writeWith, writeEntries, writeWith_nested positive (by omega), room]
  rfl

theorem write_halves :
    writeWithin Request.bodyLevels .inline Request.standIn (.mapping [(.text "k", Chain.halves)]) =
      .ok (String.ofList (entryText (Chain.halvesForm ++ ['\x7d']))) := by
  decide +kernel

end Json

namespace Request
open Json

theorem bodyOf_entry {v : Value} (defined : v.isUndefined = false) :
    bodyOf (.mapping [(.text "k", v)]) =
      writeWithin bodyLevels .inline standIn (.mapping [(.text "k", v)]) := by
  simp [bodyOf, entriesOf, Value.truthy, Value.opened, defined]

theorem exists_prepared {v : Value} {body : String} (defined : v.isUndefined = false)
    (written : writeWithin bodyLevels .inline standIn (.mapping [(.text "k", v)]) = .ok body) :
    ∃ r, prepare "http://h/p" (some "POST") (.mapping [(.text "k", v)]) [] = .ok r ∧
      r.body = some body := by
  have other : methodOf (some "POST") ≠ "GET" := by decide +kernel
  have whole : bodyOf (.mapping [(.text "k", v)]) = .ok body := by
    rw [bodyOf_entry defined, written]
  obtain ⟨r, prepared⟩ := (exists_prepare_iff other whole).mpr preparable_plain
  exact ⟨r, prepared, body_of_prepare other whole prepared⟩

theorem prepare_nested :
    prepare "http://h/p" (some "POST") (.mapping [(.text "k", Chain.nested (bodyLevels - 1))]) [] =
      .error Layout.inline.excess := by
  have other : methodOf (some "POST") ≠ "GET" := by decide +kernel
  have defined : (Chain.nested (bodyLevels - 1)).isUndefined = false := rfl
  have tooDeep := writeWithin_nested (by decide : 0 < bodyLevels)
  rw [prepare_of_not_get other, bodyOf_entry defined, tooDeep]
  rfl

/-- Two halves of a surrogate pair, which are read as one character, and lists that are nested too
deeply to be written. -/
theorem prepare_body_beyond :
    (∃ r body, prepare "http://h/p" (some "POST") (.mapping [(.text "k", Chain.halves)]) [] = .ok r ∧
      r.body = some body ∧ Json.read body = .ok (.mapping [(.text "k", Chain.joinedHalves)]) ∧
      Chain.halves ≠ Chain.joinedHalves) ∧
    prepare "http://h/p" (some "POST") (.mapping [(.text "k", Chain.nested (bodyLevels - 1))]) [] =
      .error (.tooDeep "encoding a JSON object") := by
  obtain ⟨r, prepared, carries⟩ := exists_prepared rfl write_halves
  refine ⟨⟨r, _, prepared, carries, ?_, Chain.halves_ne_joined⟩, prepare_nested⟩
  rw [Json.read, String.toList_ofList, readChars_entry_halves]

end Request

end FieldMap
