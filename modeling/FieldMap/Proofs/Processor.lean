import FieldMap.Proofs.Chain.Composition
import FieldMap.Proofs.Number.Integer

/-!
Whole numbers in texts. The digits of a number are read as the number, behind white space and before
anything but a digit, so that chains which turn a number into a text and end in reading a number come
back to it. Main statement: `toInteger_spelled`.
-/

namespace FieldMap.Processor
open Outcome Number

variable {n : Int}

theorem leadingInteger_spelled (short : isWritable n = true) {before after : List Char}
    (blank : ∀ c ∈ before, Text.isBlank c = true)
    (ends : ∀ c ∈ after.head?, Text.isDecimal c = false) :
    leadingInteger (before ++ (integerText n ++ after)) = .ok n := by
  obtain ⟨sign, negative, signed, text, value⟩ := exists_integerText n
  have digit : ∀ c ∈ Nat.toDigits 10 n.natAbs, Text.isDecimal c = true :=
    fun c member => Text.isDecimal_of_isDigit (isDigit_of_mem_toDigits c member)
  have first : ∀ c ∈ (Nat.toDigits 10 n.natAbs ++ after).head?, Text.isDecimal c = true := by
    rw [List.head?_append_of_ne_nil _ Nat.toDigits_ne_nil]
    exact fun c head => digit c (List.mem_of_head? head)
  have unblank : ∀ c ∈ (integerText n ++ after).head?, Text.isBlank c = false := by
    rw [List.head?_append_of_ne_nil _ (integerText_ne_nil n)]
    exact fun c head => isBlank_of_mem_integerText (List.mem_of_head? head)
  have skipped : Text.dropBlanks (before ++ (integerText n ++ after)) = integerText n ++ after :=
    Text.dropWhile_run blank unblank
  have unsigned : splitSign (integerText n ++ after) =
      (negative, Nat.toDigits 10 n.natAbs ++ after) := by
    rw [text, List.append_assoc]
    exact splitSign_append signed fun c head => Text.not_mem_of_class (first c head) (by decide)
  have span : spanDigits (Nat.toDigits 10 n.natAbs ++ after) = (Nat.toDigits 10 n.natAbs, after) :=
    Text.span_run digit ends
  have read : ofSignedDigits negative (Nat.toDigits 10 n.natAbs) = .ok n := by
    rw [ofSignedDigits, if_neg (Nat.not_lt.mpr (length_toDigits_of_isWritable short)),
      ofDigits_toDigits, value]
  unfold leadingInteger
  simp only [skipped, unsigned, span]
  cases digits : Nat.toDigits 10 n.natAbs with
  | nil => exact absurd digits Nat.toDigits_ne_nil
  | cons d ds =>
      rw [digits] at read
      simp only [read]

theorem toInteger_text (s : String) : toInteger (.text s) = (leadingInteger s.toList).map .int := by
  by_cases empty : s = ""
  · subst empty
    rfl
  · have integer : integerOf (.text s) = leadingInteger s.toList := by
      simp [integerOf, Value.truthy, Value.isBool, Value.written, empty]
    rw [toInteger, integer]
    cases leadingInteger s.toList <;> rfl

theorem written_int (short : isWritable n = true) :
    (Value.int n).written = .ok (String.ofList (integerText n)) := by
  simp [Value.written, Value.form, Value.formWith, short]

def textOf (n : Int) : List Char := if n = 0 then [] else integerText n

theorem toText_int (short : isWritable n = true) :
    toText (.int n) = .ok (.text (String.ofList (textOf n))) := by
  by_cases zero : n = 0
  · have falsy : (Value.int n).truthy = false := by simpa [Value.truthy] using zero
    simp only [toText, falsy, Bool.false_eq_true, if_false, textOf, if_pos zero,
      String.ofList_nil]
  · have truthy : (Value.int n).truthy = true := by simpa [Value.truthy] using zero
    simp [toText, truthy, written_int short, textOf, zero]

theorem currency_int (short : isWritable n = true) {sign : Char} (minus : sign ≠ '-')
    (foreign : Text.isDecimal sign = false) :
    currency sign (.int n) = .ok (.text (String.ofList (integerText n ++ [sign]))) := by
  have unsigned : sign ∉ integerText n := by
    intro member
    rcases mem_integerText member with same | digit
    · exact minus same
    · cases foreign.symm.trans (Text.isDecimal_of_isDigit digit)
  simp [currency, written_int short, unsigned]

theorem trim_textOf (n : Int) : onText Text.stripChars (.text (String.ofList (textOf n))) =
    .ok (.text (String.ofList (textOf n))) := by
  have unblank : ∀ c ∈ textOf n, Text.isBlank c = false := by
    rw [textOf]
    split
    · exact List.forall_mem_nil _
    · exact fun c => isBlank_of_mem_integerText
  have solid : Text.stripChars (textOf n) = textOf n :=
    Text.stripChars_eq_self (fun c head => unblank c (List.mem_of_head? head))
      fun c last => unblank c (List.mem_of_getLast? last)
  rw [onText, String.toList_ofList, solid]

theorem toInteger_ofList (short : isWritable n = true) {before after : List Char}
    (blank : ∀ c ∈ before, Text.isBlank c = true)
    (ends : ∀ c ∈ after.head?, Text.isDecimal c = false) :
    toInteger (.text (String.ofList (before ++ (integerText n ++ after)))) = .ok (.int n) := by
  rw [toInteger_text, String.toList_ofList, leadingInteger_spelled short blank ends, map_ok]

theorem toInteger_textOf (short : isWritable n = true) :
    toInteger (.text (String.ofList (textOf n))) = .ok (.int n) := by
  by_cases zero : n = 0
  · subst zero
    rfl
  · have ends : ∀ c ∈ ([] : List Char).head?, Text.isDecimal c = false := nofun
    have read := toInteger_ofList short (List.forall_mem_nil _) ends
    rw [List.nil_append, List.append_nil] at read
    rw [textOf, if_neg zero, read]

theorem toInteger_signed (short : isWritable n = true) {sign : Char}
    (foreign : Text.isDecimal sign = false) :
    toInteger (.text (String.ofList (integerText n ++ [sign]))) = .ok (.int n) := by
  have ends : ∀ c ∈ [sign].head?, Text.isDecimal c = false := by simpa
  have read := toInteger_ofList short (List.forall_mem_nil _) ends
  rwa [List.nil_append] at read

theorem inTurn_currency (short : isWritable n = true) (sign : Char) (minus : sign ≠ '-')
    (foreign : Text.isDecimal sign = false) (name other : String) :
    Chain.inTurn [(name, currency sign), (other, toInteger)] (.int n) = .ok (.int n) := by
  simp only [Chain.inTurn, List.foldlM_cons, List.foldlM_nil, currency_int short minus foreign,
    ok_bind, toInteger_signed short foreign, pure_eq]

theorem standard_unmarked : ∀ entry ∈ standard, ':' ∉ entry.1.toList := by
  have names : ∀ name ∈ standard.map Prod.fst, ':' ∉ name.toList := by decide
  exact fun entry member => names entry.1 (List.mem_map_of_mem member)

def Known (processors : Registry Processor) : Prop :=
  ∀ entry ∈ standard, processors.get? entry.1 = some entry.2

theorem known_standard : Known ((Registry.empty "processor").withAll standard) := by
  unfold Known
  simp only [standard, List.forall_mem_cons]
  exact ⟨rfl, rfl, rfl, rfl, rfl, rfl, rfl, rfl, rfl, List.forall_mem_nil _⟩

theorem compile_standard {processors : Registry Processor} (known : Known processors)
    (modifiers : Registry Modifier) {spec : String} (entries : List (String × Processor))
    (listed : ∀ entry ∈ entries, entry ∈ standard)
    (pieces : Chain.splitChars spec.toList = entries.map fun entry => entry.1.toList) :
    Chain.compile (some spec) processors modifiers =
      .ok ⟨some spec, Chain.processorSteps entries⟩ :=
  Chain.compile_processors pieces (fun entry member => standard_unmarked entry (listed entry member))
    fun entry member => known entry (listed entry member)

theorem exists_run_standard {processors : Registry Processor} (known : Known processors)
    (modifiers : Registry Modifier) {spec : String} {entries : List (String × Processor)} {v out : Value}
    (ran : Chain.inTurn entries v = .ok out) (listed : ∀ entry ∈ entries, entry ∈ standard)
    (pieces : Chain.splitChars spec.toList = entries.map fun entry => entry.1.toList) :
    ∃ chain, Chain.compile (some spec) processors modifiers = .ok chain ∧ chain.run v = .ok out :=
  ⟨_, compile_standard known modifiers entries listed pieces, (Chain.run_processors _ entries v).trans ran⟩

theorem toInteger_spelled (short : isWritable n = true) {processors : Registry Processor}
    (known : Known processors) (modifiers : Registry Modifier) :
    (∃ digits, (Value.int n).written = .ok digits ∧ ∀ before after : String,
      Text.blank before = true → (∀ c ∈ after.toList.head?, Text.isDecimal c = false) →
        toInteger (.text (before ++ digits ++ after)) = .ok (.int n)) ∧
    ∀ spec ∈ ["string.int", "usd.int", "kzt.int", "string.trim.int"], ∃ chain,
      Chain.compile (some spec) processors modifiers = .ok chain ∧
        chain.run (.int n) = .ok (.int n) := by
  constructor
  · refine ⟨_, written_int short, fun before after blank ends => ?_⟩
    have read := toInteger_ofList short (List.all_eq_true.mp blank) ends
    simpa [String.ofList_append, String.append_assoc] using read
  · have text : Chain.inTurn [("string", toText), ("int", toInteger)] (.int n) = .ok (.int n) := by
      simp [Chain.inTurn, toText_int short, toInteger_textOf short]
    have trimmed : Chain.inTurn
        [("string", toText), ("trim", onText Text.stripChars), ("int", toInteger)] (.int n) =
          .ok (.int n) := by
      simp [Chain.inTurn, toText_int short, trim_textOf, toInteger_textOf short]
    have usd := inTurn_currency short '$' (by decide) (by decide) "usd" "int"
    have kzt := inTurn_currency short '₸' (by decide) (by decide) "kzt" "int"
    simp only [List.forall_mem_cons]
    refine ⟨?_, ?_, ?_, ?_, List.forall_mem_nil _⟩
    · exact exists_run_standard known modifiers text (by simp [standard]) (by decide +kernel)
    · exact exists_run_standard known modifiers usd (by simp [standard]) (by decide +kernel)
    · exact exists_run_standard known modifiers kzt (by simp [standard]) (by decide +kernel)
    · exact exists_run_standard known modifiers trimmed (by simp [standard]) (by decide +kernel)

theorem toInteger_spelled_negative :
    let processors := (Registry.empty "processor").withAll standard
    isWritable (-40) = true ∧ Known processors ∧
      toInteger (.text ("\u2003\n" ++ "-40" ++ "$07")) = .ok (.int (-40)) ∧
      ∃ chain, Chain.compile (some "string.trim.int") processors (Registry.empty "modifier") = .ok chain ∧
        chain.run (.int (-40)) = .ok (.int (-40)) := by
  intro processors
  have short : isWritable (-40) = true := by decide +kernel
  have known : Known processors := known_standard
  obtain ⟨⟨digits, written, reads⟩, chains⟩ := toInteger_spelled short known (Registry.empty "modifier")
  have same : digits = "-40" := by
    rw [written_int short] at written
    cases written
    decide +kernel
  subst same
  have blank : Text.blank "\u2003\n" = true := by decide +kernel
  have ends : ∀ c ∈ "$07".toList.head?, Text.isDecimal c = false := by
    intro c head
    cases head
    decide
  exact ⟨short, known, reads "\u2003\n" "$07" blank ends, chains _ (by decide)⟩

end FieldMap.Processor
