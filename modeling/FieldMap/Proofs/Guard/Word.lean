import FieldMap.Proofs.Guard.Token
import FieldMap.Proofs.Number.Integer

/-!
What the words of a written guard stand for: each word of a tree is read as the part of the guard that
it was written for, once references have values.
-/

namespace FieldMap.Guard

def operators : List (List Char) :=
  ["==", "===", "!=", "!==", "<", "<=", ">", ">=", "&&", "and", "||", "or"].map String.toList

theorem mem_operators {token : String} {part : Part} (h : operatorOf? token = some part) :
    token.toList ∈ operators := by
  unfold operatorOf? at h
  split at h
  all_goals first
    | decide
    | cases h

theorem operatorOf?_of_foreign {cs : List Char} {c : Char} (member : c ∈ cs)
    (foreign : c ∉ operators.flatten) : operatorOf? (String.ofList cs) = none := by
  cases operator : operatorOf? (String.ofList cs) with
  | none => rfl
  | some part =>
      have listed := mem_operators operator
      rw [String.toList_ofList] at listed
      exact absurd (List.mem_flatten.mpr ⟨cs, listed, member⟩) foreign

theorem operatorOf?_symbol (s : Symbol) :
    operatorOf? s.text = some (.comparison s.text s.comparison) := by
  cases s with
  | order test => cases test <;> rfl
  | _ => rfl

theorem quotedContent?_quoted (q : QuotedText) : quotedContent? q.chars = some q.content := by
  rw [QuotedText.chars, List.cons_append, quotedContent?,
    if_pos ⟨q.isQuote, List.getLast?_concat⟩, List.dropLast_concat]

theorem quotedContent?_unquoted {c : Char} {cs : List Char} (unquoted : c ∉ quotes) :
    quotedContent? (c :: cs) = none := by
  have plain : ¬((c = '\'' ∨ c = '"') ∧ cs.getLast? = some c) := by
    intro quoted
    exact unquoted (by simpa [quotes] using quoted.1)
  rw [quotedContent?, if_neg plain]

theorem WholeNumber.number?_chars (n : WholeNumber) : number? n.chars = some (.int n.value) := by
  have signed : (n.sign.chars, decide (n.sign = .minus)) ∈ Number.signs := by
    cases n.sign <;> decide
  rw [chars, number?, Number.Decimal.read?_signed signed n.nonempty n.decimal]
  simp [Number.readInteger_signed signed n.nonempty n.decimal n.short, value]

theorem literal?_of_number {cs : List Char} {c : Char} {v : Value} (member : c ∈ cs)
    (digit : Text.isDecimal c = true) (unquoted : quotedContent? cs = none)
    (number : number? cs = some v) : literal? (String.ofList cs) = some v := by
  have nameless : ∀ name ∈ ["true", "false", "null", "undefined"], String.ofList cs ≠ name := by
    intro name listed same
    have digitless : ∀ name ∈ ["true", "false", "null", "undefined"],
        name.toList.any Text.isDecimal = false := by decide
    have outside : c ∉ name.toList := Text.not_mem_of_class digit (digitless name listed)
    rw [← same, String.toList_ofList] at outside
    exact outside member
  simp only [literal?, String.toList_ofList, unquoted]
  split
  · exact absurd ‹_› (nameless "true" (by decide))
  · exact absurd ‹_› (nameless "false" (by decide))
  · exact absurd ‹_› (nameless "null" (by decide))
  · exact absurd ‹_› (nameless "undefined" (by decide))
  · rw [String.toList_ofList, number]

theorem Word.ofToken_reference (r : ReferenceText) :
    Word.ofToken (String.ofList r.chars) = .reference r.reference := by
  obtain ⟨c, before, after, split, -⟩ := Reference.parse_external r.external
  rw [String.toList_ofList] at split
  have dot : '.' ∈ r.chars := by simp [split]
  have external : r.reference.isExternal = true := r.external
  rw [ofToken, operatorOf?_of_foreign dot (by decide)]
  exact if_pos external

theorem Word.ofToken_literal {c : Char} {cs : List Char} {v : Value} (unmarked : c ∉ Root.marks)
    (plain : operatorOf? (String.ofList (c :: cs)) = none)
    (literal : literal? (String.ofList (c :: cs)) = some v) :
    Word.ofToken (String.ofList (c :: cs)) = .literal v := by
  rw [ofToken, plain]
  dsimp only
  rw [Reference.isExternal_parse_eq_false unmarked, if_neg Bool.false_ne_true, literal]

/-- A digit keeps a token from being an operator or a name, and its first character, if it is neither
a quote nor the mark of a reference, from being a text or a reference. -/
theorem Word.ofToken_of_number {cs : List Char} {digit : Char} {v : Value} (member : digit ∈ cs)
    (decimal : Text.isDecimal digit = true) (apart : ∀ c ∈ cs, c ∉ quotes ++ Root.marks)
    (number : number? cs = some v) : Word.ofToken (String.ofList cs) = .literal v := by
  have foreign : digit ∉ operators.flatten := Text.not_mem_of_class decimal (by decide)
  have plain := operatorOf?_of_foreign member foreign
  cases cs with
  | nil => cases member
  | cons c cs =>
      have plainFirst := apart c List.mem_cons_self
      have unquoted : quotedContent? (c :: cs) = none :=
        quotedContent?_unquoted fun quote => plainFirst (List.mem_append_left _ quote)
      have unmarked : c ∉ Root.marks := fun mark => plainFirst (List.mem_append_right _ mark)
      exact ofToken_literal unmarked plain (literal?_of_number member decimal unquoted number)

theorem Word.ofToken_number (n : WholeNumber) :
    Word.ofToken (String.ofList n.chars) = .literal (.int n.value) := by
  obtain ⟨digit, digits, nonempty⟩ := List.exists_cons_of_ne_nil n.nonempty
  have inDigits : digit ∈ n.digits := nonempty ▸ List.mem_cons_self
  exact ofToken_of_number (List.mem_append_right _ inDigits) (n.decimal digit inDigits)
    (fun c member => n.not_mem_of_apart member (by decide) (by decide)) n.number?_chars

theorem Word.ofToken_quoted (q : QuotedText) :
    Word.ofToken (String.ofList q.chars) = .literal (.text (String.ofList q.content)) := by
  have quote : q.quote ∈ quotes := by simpa [quotes] using q.isQuote
  have unmarked : q.quote ∉ Root.marks := Text.not_mem_of_mem quote (by decide)
  have foreign : q.quote ∉ operators.flatten := Text.not_mem_of_mem quote (by decide)
  have content := quotedContent?_quoted q
  have literal : literal? (String.ofList q.chars) = some (.text (String.ofList q.content)) := by
    simp only [literal?, String.toList_ofList, content]
  exact ofToken_literal unmarked (operatorOf?_of_foreign List.mem_cons_self foreign) literal

theorem Word.ofToken_truth (b : Bool) :
    Word.ofToken (String.ofList (Operand.truth b).chars) = .literal (.bool b) := by
  cases b
  · exact ofToken_literal (c := 'f') (by decide) rfl rfl
  · exact ofToken_literal (c := 't') (by decide) rfl rfl

theorem Word.ofToken_null : Word.ofToken (String.ofList Operand.null.chars) = .literal .null :=
  ofToken_literal (c := 'n') (by decide) rfl rfl

theorem Word.ofToken_undefined :
    Word.ofToken (String.ofList Operand.undefined.chars) = .literal .undefined :=
  ofToken_literal (c := 'u') (by decide) rfl rfl

def resolver (env : Reference → Value) (reference : Reference) : Except Fault Value :=
  .ok (env reference)

theorem outcome_consult_cons (env : Reference → Value) (origin : String) (lexeme : Lexeme)
    (tokens : List String) :
    (consult (resolver env) origin (String.ofList lexeme.chars :: tokens)).outcome =
      (consult (resolver env) origin tokens).outcome.map (lexeme.part env :: ·) := by
  rw [consult]
  cases lexeme with
  | operand a =>
      rw [Lexeme.chars]
      cases a with
      | reference r =>
          rw [Operand.chars_reference, Word.ofToken_reference]
          rfl
      | truth b =>
          rw [Word.ofToken_truth]
          rfl
      | null =>
          rw [Word.ofToken_null]
          rfl
      | undefined =>
          rw [Word.ofToken_undefined]
          rfl
      | number n =>
          rw [Operand.chars_number, Word.ofToken_number]
          rfl
      | quoted q =>
          rw [Operand.chars_quoted, Word.ofToken_quoted]
          rfl
  | symbol s =>
      rw [Lexeme.chars, String.ofList_toList, Word.ofToken, operatorOf?_symbol]
      rfl
  | conjunction spelling => cases spelling <;> rfl
  | disjunction spelling => cases spelling <;> rfl

theorem outcome_consult (env : Reference → Value) (origin : String) (lexemes : List Lexeme) :
    (consult (resolver env) origin
      (lexemes.map fun lexeme => String.ofList lexeme.chars)).outcome =
        .ok (lexemes.map (Lexeme.part env)) := by
  induction lexemes with
  | nil => rfl
  | cons lexeme lexemes ih =>
      rw [List.map_cons, outcome_consult_cons, ih]
      rfl

end FieldMap.Guard
