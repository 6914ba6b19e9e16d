import FieldMap.Proofs.Json.Escape
import FieldMap.Proofs.Json.Limits
import FieldMap.Proofs.Number.Integer

/-!
Values written as JSON and read back. A value made of null, truth values, whole numbers, texts, lists
and objects is written as one text, whatever the writer does with other values, and reading that text
gives the value again, as long as it is nested no deeper than the reader follows.
-/

namespace FieldMap.Json
open Number Outcome

/-! ## Values with a form of their own -/

def textEntries (entries : List (String × Value)) : List (Value × Value) :=
  entries.map fun entry => (.text entry.1, entry.2)

/-- A value that is made of what JSON knows, with some levels of lists and objects at most. -/
inductive Fits : Nat → Value → Prop
  | null {levels : Nat} : Fits levels .null
  | bool {levels : Nat} (b : Bool) : Fits levels (.bool b)
  | int {levels : Nat} {n : Int} (short : isWritable n = true) : Fits levels (.int n)
  | text {levels : Nat} {s : String} (unsplit : Unsplit s.toList) : Fits levels (.text s)
  | list {levels : Nat} {items : List Value} (each : ∀ item ∈ items, Fits levels item) :
      Fits (levels + 1) (.list items)
  | mapping {levels : Nat} {entries : List (String × Value)}
      (distinct : (entries.map Prod.fst).Nodup) (unsplit : ∀ entry ∈ entries, Unsplit entry.1.toList)
      (each : ∀ entry ∈ entries, Fits levels entry.2) :
      Fits (levels + 1) (.mapping (textEntries entries))

theorem Fits.mono {levels more : Nat} {v : Value} (fits : Fits levels v) (few : levels ≤ more) :
    Fits more v := by
  induction fits generalizing more with
  | null => exact .null
  | bool b => exact .bool b
  | int short => exact .int short
  | text unsplit => exact .text unsplit
  | list each ih =>
      obtain ⟨inner, rfl⟩ : ∃ inner, more = inner + 1 := ⟨more - 1, by omega⟩
      exact .list fun item member => ih item member (Nat.le_of_succ_le_succ few)
  | mapping distinct unsplit each ih =>
      obtain ⟨inner, rfl⟩ : ∃ inner, more = inner + 1 := ⟨more - 1, by omega⟩
      exact .mapping distinct unsplit fun entry member =>
        ih entry member (Nat.le_of_succ_le_succ few)

def quoted (s : String) : List Char := '"' :: s.toList.flatMap escapedChar ++ ['"']

def separated (parts : List (List Char)) : List Char := [',', ' '].intercalate parts

mutual

def form : Value → List Char
  | .null => ['n', 'u', 'l', 'l']
  | .bool true => ['t', 'r', 'u', 'e']
  | .bool false => ['f', 'a', 'l', 's', 'e']
  | .int n => Number.integerText n
  | .text s => quoted s
  | .list items => '[' :: separated (itemForms items) ++ [']']
  | .mapping entries => '\x7b' :: separated (entryForms entries) ++ ['\x7d']
  | _ => []
termination_by structural v => v

def itemForms : List Value → List (List Char)
  | [] => []
  | item :: items => form item :: itemForms items
termination_by structural items => items

def entryForms : List (Value × Value) → List (List Char)
  | [] => []
  | (key, v) :: entries => (form key ++ ':' :: ' ' :: form v) :: entryForms entries
termination_by structural entries => entries

end

theorem itemForms_eq_map (items : List Value) : itemForms items = items.map form := by
  induction items with
  | nil => rfl
  | cons item items ih => rw [itemForms, ih, List.map_cons]

def entryForm (text : Value → List Char) (entry : String × Value) : List Char :=
  quoted entry.1 ++ ':' :: ' ' :: text entry.2

theorem entryForms_textEntries (entries : List (String × Value)) :
    entryForms (textEntries entries) = entries.map (entryForm form) := by
  rw [textEntries]
  induction entries with
  | nil => rfl
  | cons entry entries ih => rw [List.map_cons, entryForms, ih, List.map_cons, form, entryForm]

/-! ## Writing -/

section Writing

variable {limit : Option Nat} {standIn : Value → Except Fault Value}
  {cyclic : Nat → Value → Except Fault String}

theorem bracketed_forms (level : Nat) (opening closing : Char) (parts : List (List Char)) :
    bracketed .inline level (String.singleton opening) (String.singleton closing)
      (parts.map String.ofList) = String.ofList (opening :: separated parts ++ [closing]) := by
  apply String.toList_injective
  cases parts with
  | nil => simp [bracketed, separated]
  | cons part parts => simp [bracketed, separated, String.toList_intercalate]

variable {text : Value → List Char} {level : Nat}

theorem writeItems_forms {items : List Value}
    (each : ∀ item ∈ items,
      writeWith .inline limit standIn cyclic level item = .ok (String.ofList (text item))) :
    writeItems .inline limit standIn cyclic level items =
      .ok ((items.map text).map String.ofList) := by
  induction items with
  | nil => rfl
  | cons item items ih =>
      have others := ih fun later member => each later (List.mem_cons_of_mem item member)
      rw [writeItems, each item List.mem_cons_self, others]
      rfl

theorem writeEntries_forms {entries : List (String × Value)}
    (each : ∀ entry ∈ entries,
      writeWith .inline limit standIn cyclic level entry.2 = .ok (String.ofList (text entry.2))) :
    writeEntries .inline limit standIn cyclic level (textEntries entries) =
      .ok ((entries.map (entryForm text)).map String.ofList) := by
  induction entries with
  | nil => rfl
  | cons entry entries ih =>
      have others := ih fun later member => each later (List.mem_cons_of_mem entry member)
      have joined : stringText entry.1 ++ ": " ++ String.ofList (text entry.2) =
          String.ofList (entryForm text entry) := by
        apply String.toList_injective
        simp [stringText, entryForm, quoted]
      simp only [textEntries, List.map_cons] at others ⊢
      rw [writeEntries, each entry List.mem_cons_self, others, ← joined]
      rfl

section Room

variable (room : hasRoom limit level = true)
include room

theorem writeWith_list {items : List Value}
    (each : ∀ item ∈ items,
      writeWith .inline limit standIn cyclic (level + 1) item = .ok (String.ofList (text item))) :
    writeWith .inline limit standIn cyclic level (.list items) =
        .ok (String.ofList ('[' :: separated (items.map text) ++ [']'])) ∧
      writeWith .inline limit standIn cyclic level (.tuple items) =
        .ok (String.ofList ('[' :: separated (items.map text) ++ [']'])) := by
  rw [writeWith, writeWith, writeItems_forms each, room]
  exact and_self_iff.mpr (congrArg Except.ok (bracketed_forms level '[' ']' _))

theorem writeWith_mapping {entries : List (String × Value)}
    (each : ∀ entry ∈ entries,
      writeWith .inline limit standIn cyclic (level + 1) entry.2 =
        .ok (String.ofList (text entry.2))) :
    writeWith .inline limit standIn cyclic level (.mapping (textEntries entries)) =
      .ok (String.ofList ('\x7b' :: separated (entries.map (entryForm text)) ++ ['\x7d'])) := by
  rw [writeWith, writeEntries_forms each, room]
  exact congrArg Except.ok (bracketed_forms level '\x7b' '\x7d' _)

end Room

theorem writeWith_form {levels : Nat} {v : Value} (fits : Fits levels v) (level : Nat) :
    writeWith .inline none standIn cyclic level v = .ok (String.ofList (form v)) := by
  induction fits generalizing level with
  | null => rfl
  | bool b => cases b <;> rfl
  | int short => simp [writeWith, form, integerText, short]
  | text unsplit => rfl
  | list each ih =>
      rw [form, itemForms_eq_map]
      exact (writeWith_list rfl fun item member => ih item member (level + 1)).1
  | mapping distinct unsplit each ih =>
      rw [form, entryForms_textEntries]
      exact writeWith_mapping rfl fun entry member => ih entry member (level + 1)

theorem write_form {levels : Nat} {v : Value} (fits : Fits levels v) :
    write .inline standIn v = .ok (String.ofList (form v)) :=
  writeWith_form fits 0

end Writing

/-! ## Reading numbers -/

def Ends (rest : List Char) : Prop := ∀ c ∈ rest.head?, c = ',' ∨ c = ']' ∨ c = '\x7d'

section Numbers

variable {rest : List Char} {n : Nat}

theorem Ends.isDigit (ends : Ends rest) : ∀ c ∈ rest.head?, c.isDigit = false := by
  intro c head
  rcases ends c head with rfl | rfl | rfl <;> decide

theorem fractionPart_of_ends (ends : Ends rest) : fractionPart rest = (none, rest) := by
  cases rest with
  | nil => rfl
  | cons c rest => rcases ends c rfl with rfl | rfl | rfl <;> rfl

theorem powerPart_of_ends (ends : Ends rest) : powerPart rest = (none, rest) := by
  cases rest with
  | nil => rfl
  | cons c rest => rcases ends c rfl with rfl | rfl | rfl <;> rfl

theorem number_toDigits {n : Nat} (short : (Nat.toDigits 10 n).length ≤ digitLimit)
    (ends : Ends rest) :
    number (Nat.toDigits 10 n ++ rest) = .ok (.int n, rest) ∧
      number ('-' :: Nat.toDigits 10 n ++ rest) = .ok (.int (-n), rest) := by
  have value := ofDigits_toDigits n
  have noFraction := fractionPart_of_ends ends
  have noPower := powerPart_of_ends ends
  -- Reading takes a leading zero for the whole number, so that zero itself is a case of its own.
  cases n with
  | zero =>
      have zero : Nat.toDigits 10 0 = ['0'] := rfl
      have few : digitLimit ≠ 0 := by decide
      rw [zero] at value ⊢
      constructor <;> simp [number, noFraction, noPower, value, few]
  | succ n =>
      have span : spanDigits (Nat.toDigits 10 (n + 1) ++ rest) = (Nat.toDigits 10 (n + 1), rest) :=
        Text.span_run isDigit_of_mem_toDigits ends.isDigit
      have digit := isDigit_of_mem_toDigits (n := n + 1)
      have leading := head_toDigits n.succ_pos
      cases digits : Nat.toDigits 10 (n + 1) with
      | nil => exact absurd digits Nat.toDigits_ne_nil
      | cons first others =>
          rw [digits] at value span digit leading short
          have few : others.length + 1 ≤ digitLimit := short
          have nonzero : first ≠ '0' := leading first rfl
          have unsigned : first ≠ '-' := by
            rintro rfl
            exact absurd (digit _ List.mem_cons_self) (by decide)
          rw [List.cons_append] at span
          constructor
          all_goals
            simp [number, nonzero, unsigned, span, noFraction, noPower, value]
            omega

theorem number_integerText {n : Int} (short : isWritable n = true) (ends : Ends rest) :
    number (Number.integerText n ++ rest) = .ok (.int n, rest) := by
  have read := number_toDigits (length_toDigits_of_isWritable short) ends
  rw [Number.integerText]
  split
  · next negative =>
      rw [read.2]
      have value : -(n.natAbs : Int) = n := by omega
      rw [value]
  · next positive =>
      rw [read.1]
      have value : (n.natAbs : Int) = n := by omega
      rw [value]

end Numbers

/-! ## Reading -/

theorem skipSpace_space (cs : List Char) : skipSpace (' ' :: cs) = skipSpace cs :=
  List.dropWhile_cons_of_pos rfl

theorem integerText_head (n : Int) :
    ∃ c cs, Number.integerText n = c :: cs ∧ (c.isDigit = true ∨
      c = '-' ∧ ∃ d ds, cs = d :: ds ∧ d.isDigit = true) := by
  have digit := isDigit_of_mem_toDigits (n := n.natAbs)
  cases digits : Nat.toDigits 10 n.natAbs with
  | nil => exact absurd digits Nat.toDigits_ne_nil
  | cons first others =>
      rw [digits] at digit
      have here := digit first List.mem_cons_self
      rw [Number.integerText, digits]
      split
      · exact ⟨'-', _, rfl, .inr ⟨rfl, first, others, rfl, here⟩⟩
      · exact ⟨first, others, rfl, .inl here⟩

theorem form_head {levels : Nat} {v : Value} (fits : Fits levels v) :
    ∃ c cs, form v = c :: cs ∧ Text.isBlank c = false ∧ c ∉ [']', '\ufeff'] := by
  cases fits with
  | null => exact ⟨'n', _, rfl, by decide, by decide⟩
  | bool b =>
      cases b with
      | true => exact ⟨'t', _, rfl, by decide, by decide⟩
      | false => exact ⟨'f', _, rfl, by decide, by decide⟩
  | @int _ n short =>
      obtain ⟨c, cs, text, digit | ⟨rfl, -⟩⟩ := integerText_head n
      · exact ⟨c, cs, text, solid_of_isDigit digit, Text.not_mem_of_class digit (by decide)⟩
      · exact ⟨'-', cs, text, by decide, by decide⟩
  | text unsplit => exact ⟨'"', _, rfl, by decide, by decide⟩
  | list each => exact ⟨'[', _, rfl, by decide, by decide⟩
  | mapping distinct unsplit each => exact ⟨'\x7b', _, rfl, by decide, by decide⟩

theorem form_last {levels : Nat} {v : Value} (fits : Fits levels v) :
    ∀ c ∈ (form v).getLast?, Text.isBlank c = false := by
  have enclosed (cs : List Char) {closing : Char} (solid : Text.isBlank closing = false) :
      ∀ c ∈ (cs ++ [closing]).getLast?, Text.isBlank c = false := by
    rw [List.getLast?_concat]
    rintro c ⟨⟩
    exact solid
  cases fits with
  | null => exact enclosed ['n', 'u', 'l'] (by decide)
  | bool b =>
      cases b with
      | true => exact enclosed ['t', 'r', 'u'] (by decide)
      | false => exact enclosed ['f', 'a', 'l', 's'] (by decide)
  | int short =>
      intro c last
      rcases mem_integerText (List.mem_of_getLast? last) with rfl | digit
      · decide
      · exact solid_of_isDigit digit
  | text unsplit => exact enclosed _ (by decide)
  | list each => exact enclosed _ (by decide)
  | mapping distinct unsplit each => exact enclosed _ (by decide)

theorem value_of_minus {levels fuel : Nat} {c : Char} (digit : c.isDigit = true) (cs : List Char) :
    value levels (fuel + 1) ('-' :: c :: cs) = number ('-' :: c :: cs) := by
  have finite : c ≠ 'I' := by
    rintro rfl
    exact absurd digit (by decide)
  rw [value]
  all_goals simp [finite]

/-- The reader takes a text for a value, whatever follows, with fuel for its characters. -/
def Reads (levels : Nat) (v : Value) : Prop :=
  ∀ (fuel : Nat) (rest : List Char), (form v).length ≤ fuel → Ends rest →
    value levels fuel (form v ++ rest) = .ok (v, rest)

theorem reads_int {levels : Nat} {n : Int} (short : isWritable n = true) : Reads levels (.int n) := by
  intro fuel rest enough ends
  have read := number_integerText short ends
  obtain ⟨c, cs, text, shape⟩ := integerText_head n
  cases fuel with
  | zero => simp [form, text] at enough
  | succ fuel =>
      rw [form]
      rw [text] at read ⊢
      rcases shape with digit | ⟨rfl, d, ds, rfl, digit⟩
      · exact (value_of_digit digit).trans read
      · exact (value_of_minus digit _).trans read

theorem reads_text {levels : Nat} {s : String} (unsplit : Unsplit s.toList) :
    Reads levels (.text s) := by
  intro fuel rest enough ends
  cases fuel with
  | zero => simp [form, quoted] at enough
  | succ fuel =>
      have body := stringBody_text unsplit
      simp [form, quoted, value, body]

theorem ends_cons {c : Char} (mark : c = ',' ∨ c = ']' ∨ c = '\x7d') (rest : List Char) :
    Ends (c :: rest) := by
  rintro first ⟨⟩
  exact mark

theorem separated_cons_cons (part next : List Char) (parts : List (List Char)) :
    separated (part :: next :: parts) = part ++ ',' :: ' ' :: separated (next :: parts) := by
  simp [separated, List.intercalate_cons_cons]

theorem separated_singleton (part : List Char) : separated [part] = part := by
  simp [separated]

theorem skipSpace_form {levels : Nat} {v : Value} (fits : Fits levels v) (rest : List Char) :
    skipSpace (form v ++ rest) = form v ++ rest := by
  obtain ⟨c, cs, text, solid, -⟩ := form_head fits
  rw [text]
  exact skipSpace_of_solid solid _

theorem skipSpace_separated {part : List Char}
    (solid : ∀ rest, skipSpace (part ++ rest) = part ++ rest) (parts : List (List Char))
    (rest : List Char) :
    skipSpace (separated (part :: parts) ++ rest) = separated (part :: parts) ++ rest := by
  cases parts with
  | nil =>
      rw [separated_singleton]
      exact solid rest
  | cons next parts =>
      rw [separated_cons_cons, List.append_assoc]
      exact solid _

section Nested

variable {levels fuel : Nat}

theorem items_forms {item : Value} {others : List Value}
    (fits : ∀ each ∈ item :: others, Fits levels each)
    (reads : ∀ each ∈ item :: others, Reads levels each)
    (enough : (separated ((item :: others).map form)).length < fuel) (rest : List Char) :
    items levels fuel (separated ((item :: others).map form) ++ ']' :: rest) =
      .ok (item :: others, rest) := by
  induction others generalizing item fuel with
  | nil =>
      cases fuel with
      | zero => omega
      | succ fuel =>
          rw [List.map_singleton, separated_singleton] at enough ⊢
          have first := reads item List.mem_cons_self fuel _ (Nat.le_of_lt_succ enough)
            (ends_cons (c := ']') (by decide) rest)
          rw [items, first]
          rfl
  | cons next others ih =>
      cases fuel with
      | zero => omega
      | succ fuel =>
          have inside {each : Value} (member : each ∈ next :: others) :
              each ∈ item :: next :: others := List.mem_cons_of_mem item member
          simp only [List.map_cons, separated_cons_cons, List.length_append,
            List.length_cons] at enough ih ⊢
          have left : (separated (form next :: others.map form)).length < fuel := by omega
          have later := ih (fun each member => fits each (inside member))
            (fun each member => reads each (inside member)) left
          have solid := skipSpace_separated (skipSpace_form (fits next (inside List.mem_cons_self)))
            (others.map form) (']' :: rest)
          have comma := skipSpace_of_solid (c := ',') (by decide)
          have first := reads item List.mem_cons_self fuel _ (by omega) (ends_cons (c := ',')
            (by decide) (' ' :: separated (form next :: others.map form) ++ ']' :: rest))
          simp only [List.append_assoc, List.cons_append] at first ⊢
          rw [items, first]
          simp only [ok_bind, comma, skipSpace_space, solid, later]
          rfl

theorem skipSpace_entryForm (entry : String × Value) (rest : List Char) :
    skipSpace (entryForm form entry ++ rest) = entryForm form entry ++ rest :=
  skipSpace_of_solid (by decide) _

section Entry

variable {entry : String × Value} (unsplit : Unsplit entry.1.toList) (fits : Fits levels entry.2)
  (reads : Reads levels entry.2) (enough : (entryForm form entry).length ≤ fuel)
include unsplit fits reads enough

theorem members_last (rest : List Char) :
    members levels (fuel + 1) (entryForm form entry ++ '\x7d' :: rest) =
      .ok (textEntries [entry], rest) := by
  simp only [entryForm, quoted, List.length_append, List.length_cons] at enough
  have v := reads fuel _ (by omega) (ends_cons (c := '\x7d') (by decide) rest)
  have solid := skipSpace_form fits ('\x7d' :: rest)
  have colon := skipSpace_of_solid (c := ':') (by decide)
  have brace := skipSpace_of_solid (c := '\x7d') (by decide)
  simp only [entryForm, quoted, List.append_assoc, List.cons_append, List.nil_append]
  rw [members]
  simp only [stringBody_text unsplit, ok_bind, colon, skipSpace_space, solid, v, brace,
    String.ofList_toList]
  rfl

theorem members_comma {more rest : List Char} {others : List (Value × Value)}
    (later : members levels fuel (skipSpace more) = .ok (others, rest)) :
    members levels (fuel + 1) (entryForm form entry ++ ',' :: ' ' :: more) =
      .ok ((.text entry.1, entry.2) :: others, rest) := by
  simp only [entryForm, quoted, List.length_append, List.length_cons] at enough
  have v := reads fuel _ (by omega) (ends_cons (c := ',') (by decide) (' ' :: more))
  have solid := skipSpace_form fits (',' :: ' ' :: more)
  have colon := skipSpace_of_solid (c := ':') (by decide)
  have comma := skipSpace_of_solid (c := ',') (by decide)
  simp only [entryForm, quoted, List.append_assoc, List.cons_append, List.nil_append]
  rw [members]
  simp only [stringBody_text unsplit, ok_bind, colon, skipSpace_space, solid, v, comma, later,
    String.ofList_toList]
  rfl

end Entry

theorem members_forms {entry : String × Value} {others : List (String × Value)}
    (unsplit : ∀ each ∈ entry :: others, Unsplit each.1.toList)
    (fits : ∀ each ∈ entry :: others, Fits levels each.2)
    (reads : ∀ each ∈ entry :: others, Reads levels each.2)
    (enough : (separated ((entry :: others).map (entryForm form))).length < fuel) (rest : List Char) :
    members levels fuel (separated ((entry :: others).map (entryForm form)) ++ '\x7d' :: rest) =
      .ok (textEntries (entry :: others), rest) := by
  induction others generalizing entry fuel with
  | nil =>
      cases fuel with
      | zero => omega
      | succ fuel =>
          rw [List.map_singleton, separated_singleton] at enough ⊢
          exact members_last (unsplit entry List.mem_cons_self) (fits entry List.mem_cons_self)
            (reads entry List.mem_cons_self) (Nat.le_of_lt_succ enough) rest
  | cons next others ih =>
      cases fuel with
      | zero => omega
      | succ fuel =>
          have inside {each : String × Value} (member : each ∈ next :: others) :
              each ∈ entry :: next :: others := List.mem_cons_of_mem entry member
          simp only [List.map_cons, separated_cons_cons, List.length_append,
            List.length_cons] at enough ih ⊢
          have left : (separated (entryForm form next :: others.map (entryForm form))).length < fuel := by omega
          have later := ih (fun each member => unsplit each (inside member))
            (fun each member => fits each (inside member))
            (fun each member => reads each (inside member)) left
          rw [List.append_assoc]
          apply members_comma (unsplit entry List.mem_cons_self) (fits entry List.mem_cons_self)
            (reads entry List.mem_cons_self) (by omega)
          rw [List.append_eq, skipSpace_separated (skipSpace_entryForm next), later]
          rfl

end Nested

theorem separated_head (c : Char) (cs : List Char) (parts : List (List Char)) :
    ∃ tail, separated ((c :: cs) :: parts) = c :: tail := by
  cases parts with
  | nil => exact ⟨cs, separated_singleton _⟩
  | cons next parts => exact ⟨_, separated_cons_cons _ next parts⟩

theorem reads_list {levels : Nat} {items : List Value} (fits : ∀ item ∈ items, Fits levels item)
    (reads : ∀ item ∈ items, Reads levels item) : Reads (levels + 1) (.list items) := by
  intro fuel rest enough ends
  cases fuel with
  | zero => simp [form] at enough
  | succ fuel =>
      simp only [form, itemForms_eq_map, List.cons_append, List.length_cons, List.length_append,
        List.append_assoc] at enough ⊢
      cases items with
      | nil => rfl
      | cons item others =>
          have fitsHere := fits item List.mem_cons_self
          have left : (separated ((item :: others).map form)).length < fuel := by omega
          have inside := items_forms fits reads left rest
          have solid := skipSpace_separated (skipSpace_form fitsHere) (others.map form) (']' :: rest)
          obtain ⟨c, cs, text, -, inner⟩ := form_head fitsHere
          obtain ⟨tail, head⟩ : ∃ tail, separated ((item :: others).map form) = c :: tail := by
            rw [List.map_cons, text]
            exact separated_head c cs _
          rw [← List.map_cons, head, List.cons_append] at solid
          rw [head, List.cons_append] at inside ⊢
          have item : c ≠ ']' := List.ne_of_not_mem_cons inner
          simp [value, solid, item, inside]

/-! ## Entries under different keys -/

theorem insert_of_absent {key v : Value} {built : List (Value × Value)}
    (absent : ∀ entry ∈ built, Value.same entry.1 key = false) :
    Value.insert key v built = built ++ [(key, v)] := by
  induction built with
  | nil => rfl
  | cons entry built ih =>
      have differ := absent entry List.mem_cons_self
      have later := ih fun other member => absent other (List.mem_cons_of_mem entry member)
      rw [Value.insert, differ, if_neg (by simp), later, List.cons_append]

theorem insert_textEntry {entry : String × Value} {earlier : List (String × Value)}
    (fresh : entry.1 ∉ earlier.map Prod.fst) :
    Value.insert (.text entry.1) entry.2 (textEntries earlier) =
      textEntries earlier ++ [(.text entry.1, entry.2)] := by
  have absent : ∀ other ∈ textEntries earlier, Value.same other.1 (.text entry.1) = false := by
    intro other member
    obtain ⟨known, inside, rfl⟩ := List.mem_map.mp member
    have differ : known.1 ≠ entry.1 := fun same => fresh (same ▸ List.mem_map_of_mem inside)
    simpa [Value.same] using differ
  exact insert_of_absent absent

theorem mappingOf_textEntries {entries : List (String × Value)}
    (distinct : (entries.map Prod.fst).Nodup) :
    Value.mappingOf (textEntries entries) = .mapping (textEntries entries) := by
  have built (entries : List (String × Value)) (distinct : (entries.map Prod.fst).Nodup) :
      (textEntries entries).foldl (fun built entry => Value.insert entry.1 entry.2 built) [] =
        textEntries entries := by
    induction entries using List.reverseRecOn with
    | nil => rfl
    | append_singleton earlier entry ih =>
        rw [List.map_append, List.nodup_append] at distinct
        have fresh : entry.1 ∉ earlier.map Prod.fst :=
          fun member => distinct.2.2 _ member _ List.mem_cons_self rfl
        have split : textEntries (earlier ++ [entry]) =
            textEntries earlier ++ [(.text entry.1, entry.2)] := List.map_append
        rw [split, List.foldl_append, ih distinct.1]
        exact insert_textEntry fresh
  exact congrArg Value.mapping (built entries distinct)

theorem reads_mapping {levels : Nat} {entries : List (String × Value)}
    (distinct : (entries.map Prod.fst).Nodup) (unsplit : ∀ entry ∈ entries, Unsplit entry.1.toList)
    (fits : ∀ entry ∈ entries, Fits levels entry.2)
    (reads : ∀ entry ∈ entries, Reads levels entry.2) :
    Reads (levels + 1) (.mapping (textEntries entries)) := by
  intro fuel rest enough ends
  cases fuel with
  | zero => simp [form] at enough
  | succ fuel =>
      simp only [form, entryForms_textEntries, List.cons_append, List.length_cons,
        List.length_append, List.append_assoc] at enough ⊢
      cases entries with
      | nil => rfl
      | cons entry others =>
          have left : (separated ((entry :: others).map (entryForm form))).length < fuel := by omega
          have inside := members_forms unsplit fits reads left rest
          have solid := skipSpace_separated (skipSpace_entryForm entry) (others.map (entryForm form))
            ('\x7d' :: rest)
          have built := mappingOf_textEntries distinct
          obtain ⟨tail, head⟩ : ∃ tail, separated ((entry :: others).map (entryForm form)) = '"' :: tail :=
            separated_head '"' _ (others.map (entryForm form))
          rw [← List.map_cons, head, List.cons_append] at solid
          rw [head, List.cons_append] at inside ⊢
          simp [value, solid, inside, built]

theorem reads_form {levels : Nat} {v : Value} (fits : Fits levels v) : Reads levels v := by
  -- The empty text is no form of a value, so that there is fuel for the first character.
  induction fits with
  | null =>
      intro fuel rest enough ends
      cases fuel with
      | zero => simp [form] at enough
      | succ fuel => rfl
  | bool b =>
      intro fuel rest enough ends
      cases fuel with
      | zero => cases b <;> simp [form] at enough
      | succ fuel => cases b <;> rfl
  | int short => exact reads_int short
  | text unsplit => exact reads_text unsplit
  | list each ih => exact reads_list each ih
  | mapping distinct unsplit each ih => exact reads_mapping distinct unsplit each ih

theorem readChars_form {v : Value} (fits : Fits levelLimit v) : readChars (form v) = .ok v := by
  obtain ⟨c, cs, text, solid, inner⟩ := form_head fits
  have unmarked : c ≠ '\ufeff' := List.ne_of_not_mem_cons (List.not_mem_of_not_mem_cons inner)
  have enough : (form v).length ≤ 2 * (form v).length + 2 := by omega
  have read := reads_form fits _ [] enough nofun
  rw [text, List.append_nil] at read
  rw [text]
  exact readChars_eq_ok solid unmarked read

end FieldMap.Json
