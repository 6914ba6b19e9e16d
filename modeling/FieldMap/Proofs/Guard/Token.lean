import FieldMap.Proofs.Guard.Syntax
import FieldMap.Proofs.Reference
import FieldMap.Proofs.Text.Digit
import FieldMap.Proofs.Text.Run

/-!
The tokens of a written guard. A word is read as one token where white space or nothing follows it,
and white space gives no token, so that reading the text of a tree gives the words of the tree. Of any
other text, too, nothing is lost but white space. Main statement: `tokens_spaced`.
-/

namespace FieldMap.Guard

def quotes : List Char := ['\'', '"']

inductive IsWord : List Char → Prop where
  | quoted (q : QuotedText) : IsWord q.chars
  | run {c : Char} {cs : List Char} (unquoted : c ∉ quotes)
      (solid : ∀ d ∈ c :: cs, Text.isBlank d = false) : IsWord (c :: cs)

theorem Gap.head_blank (gap : Gap) (rest : List Char) :
    ∀ c ∈ (gap.chars ++ rest).head?, Text.isBlank c = true := by
  obtain ⟨first, others, split⟩ := List.exists_cons_of_ne_nil gap.nonempty
  rw [split]
  intro c head
  cases head
  exact gap.blank _ (split ▸ List.mem_cons_self)

theorem quotedHere?_quoted (q : QuotedText) (rest : List Char) :
    quotedHere? (q.chars ++ rest) = some (q.chars, rest) := by
  have inside : ∀ c ∈ q.content, (c != q.quote) = true := by
    intro c member
    have differ : c ≠ q.quote := fun same => q.free (same ▸ member)
    simpa using differ
  have closes : ∀ c ∈ (q.quote :: rest).head?, (c != q.quote) = false := by simp
  have split : q.chars ++ rest = q.quote :: (q.content ++ q.quote :: rest) := by
    simp [QuotedText.chars]
  rw [split, quotedHere?, if_pos q.isQuote, Text.dropWhile_run inside closes,
    Text.takeWhile_run inside closes]
  rfl

theorem quotedHere?_unquoted {c : Char} {cs : List Char} (unquoted : c ∉ quotes) :
    quotedHere? (c :: cs) = none := by
  have plain : ¬(c = '\'' ∨ c = '"') := by simpa [quotes] using unquoted
  rw [quotedHere?, if_neg plain]

theorem tokenChars_of_quoted {cs token after : List Char}
    (here : quotedHere? cs = some (token, after)) : tokenChars cs = token :: tokenChars after := by
  cases cs with
  | nil => cases here
  | cons c cs =>
      rw [tokenChars]
      split
      · next found =>
          cases here.symm.trans found
          rfl
      · next missing => cases here.symm.trans missing

theorem tokenChars_of_unquoted {c : Char} {cs : List Char} (unquoted : quotedHere? (c :: cs) = none) :
    tokenChars (c :: cs) =
      if Text.isBlank c then tokenChars cs
      else (c :: cs.takeWhile (!Text.isBlank ·)) :: tokenChars (cs.dropWhile (!Text.isBlank ·)) := by
  rw [tokenChars]
  split
  · next found => cases unquoted.symm.trans found
  · rfl

theorem tokenChars_blank {c : Char} {cs : List Char} (blank : Text.isBlank c = true) :
    tokenChars (c :: cs) = tokenChars cs := by
  have unquoted : c ∉ quotes := Text.not_mem_of_class blank (by decide)
  rw [tokenChars_of_unquoted (quotedHere?_unquoted unquoted), if_pos blank]

theorem tokenChars_append_blank {gap : List Char} (rest : List Char)
    (blank : ∀ c ∈ gap, Text.isBlank c = true) : tokenChars (gap ++ rest) = tokenChars rest := by
  induction gap with
  | nil => rfl
  | cons c gap ih =>
      rw [List.cons_append, tokenChars_blank (blank c List.mem_cons_self)]
      exact ih fun d later => blank d (List.mem_cons_of_mem c later)

theorem tokens_of_blank {expression : String} (blank : Text.blank expression = true) :
    tokens expression = [] := by
  have none := tokenChars_append_blank [] (List.all_eq_true.mp blank)
  rw [List.append_nil, tokenChars] at none
  rw [tokens, none, List.map_nil]

theorem tokenChars_append_word {word rest : List Char} (isWord : IsWord word)
    (stop : ∀ c ∈ rest.head?, Text.isBlank c = true) :
    tokenChars (word ++ rest) = word :: tokenChars rest := by
  cases isWord with
  | quoted q => exact tokenChars_of_quoted (quotedHere?_quoted q rest)
  | @run c cs unquoted solid =>
      have run : ∀ d ∈ cs, (!Text.isBlank d) = true := by
        intro d member
        rw [solid d (List.mem_cons_of_mem c member)]
        rfl
      have ends : ∀ d ∈ rest.head?, (!Text.isBlank d) = false := by
        intro d head
        rw [stop d head]
        rfl
      rw [List.cons_append, tokenChars_of_unquoted (quotedHere?_unquoted unquoted),
        if_neg (by simp [solid c List.mem_cons_self]), Text.takeWhile_run run ends,
        Text.dropWhile_run run ends]

theorem tokenChars_spaced {gap : Nat → Gap} {words : List (List Char)}
    (each : ∀ word ∈ words, IsWord word) : tokenChars (spaced gap words) = words := by
  induction words with
  | nil => rw [spaced, tokenChars]
  | cons word words ih =>
      have first := each word List.mem_cons_self
      have others := ih fun later member => each later (List.mem_cons_of_mem word member)
      cases words with
      | nil =>
          have alone : tokenChars (word ++ []) = word :: tokenChars [] :=
            tokenChars_append_word first (by simp)
          rw [List.append_nil, tokenChars] at alone
          rw [spaced, alone]
      | cons next words =>
          let between := gap (next :: words).length
          rw [spaced, List.append_assoc, tokenChars_append_word first (between.head_blank _),
            tokenChars_append_blank _ between.blank, others]
          exact List.cons_ne_nil _ _

theorem ReferenceText.isWord (r : ReferenceText) : IsWord r.chars := by
  obtain ⟨c, before, after, split, mark⟩ := Reference.parse_external r.external
  rw [String.toList_ofList] at split
  have unquoted : c ∉ quotes := Text.not_mem_of_mem mark (by decide)
  have solid := r.solid
  rw [split] at solid ⊢
  exact .run unquoted solid

theorem WholeNumber.mem_chars {n : WholeNumber} {c : Char} (member : c ∈ n.chars) :
    c ∈ ['+', '-'] ∨ Text.isDecimal c = true := by
  rcases List.mem_append.mp member with sign | digit
  · left
    cases kind : n.sign with
    | none => simp [kind, Sign.chars] at sign
    | plus => simp [kind, Sign.chars] at sign; simp [sign]
    | minus => simp [kind, Sign.chars] at sign; simp [sign]
  · exact .inr (n.decimal c digit)

theorem WholeNumber.exists_cons (n : WholeNumber) : ∃ c cs, n.chars = c :: cs :=
  List.exists_cons_of_ne_nil (List.append_ne_nil_of_right_ne_nil _ n.nonempty)

theorem WholeNumber.solid {n : WholeNumber} {c : Char} (member : c ∈ n.chars) :
    Text.isBlank c = false := by
  rcases n.mem_chars member with sign | digit
  · exact Text.eq_false_of_mem sign (by decide)
  · exact Text.isBlank_of_isDecimal digit

theorem WholeNumber.not_mem_of_apart {n : WholeNumber} {c : Char} {marks : List Char}
    (member : c ∈ n.chars) (signless : marks.any (['+', '-'].contains ·) = false)
    (digitless : marks.any Text.isDecimal = false) : c ∉ marks := by
  rcases n.mem_chars member with sign | digit
  · exact Text.not_mem_of_mem sign signless
  · exact Text.not_mem_of_class digit digitless

theorem WholeNumber.isWord (n : WholeNumber) : IsWord n.chars := by
  obtain ⟨c, cs, split⟩ := n.exists_cons
  have begins : c ∈ n.chars := split ▸ List.mem_cons_self
  have unquoted : c ∉ quotes := n.not_mem_of_apart begins (by decide) (by decide)
  rw [split]
  exact .run unquoted fun d member => n.solid (split ▸ member)

theorem IsWord.of_plain {c : Char} {cs : List Char} (unquoted : c ∉ quotes)
    (solid : (c :: cs).any Text.isBlank = false) : IsWord (c :: cs) :=
  .run unquoted fun _ member => Text.eq_false_of_mem member solid

theorem Operand.isWord (a : Operand) : IsWord a.chars := by
  cases a with
  | reference r => exact r.isWord
  | truth b =>
      cases b
      · exact .of_plain (c := 'f') (by decide) (by decide)
      · exact .of_plain (c := 't') (by decide) (by decide)
  | null => exact .of_plain (c := 'n') (by decide) (by decide)
  | undefined => exact .of_plain (c := 'u') (by decide) (by decide)
  | number n => exact n.isWord
  | quoted q => exact .quoted q

theorem Lexeme.isWord (lexeme : Lexeme) : IsWord lexeme.chars := by
  cases lexeme with
  | operand a => exact a.isWord
  | symbol s =>
      cases s with
      | order test => cases test <;> exact .of_plain (by decide) (by decide)
      | _ => exact .of_plain (by decide) (by decide)
  | conjunction spelling => cases spelling <;> exact .of_plain (by decide) (by decide)
  | disjunction spelling => cases spelling <;> exact .of_plain (by decide) (by decide)

theorem tokens_text (tree : Tree) (gap : Nat → Gap) :
    tokens (tree.text gap) = tree.lexemes.map fun lexeme => String.ofList lexeme.chars := by
  have each : ∀ word ∈ tree.lexemes.map Lexeme.chars, IsWord word := by
    intro word member
    obtain ⟨lexeme, -, rfl⟩ := List.mem_map.mp member
    exact lexeme.isWord
  rw [tokens, Tree.text, String.toList_ofList, tokenChars_spaced each, List.map_map]
  rfl

structure Spaced where
  gap : List Char
  token : List Char
  blank : ∀ c ∈ gap, Text.isBlank c = true
  nonempty : token ≠ []
  kind : (∀ c ∈ token, Text.isBlank c = false) ∨ ∃ q : QuotedText, token = q.chars

namespace Spaced

def chars (part : Spaced) : List Char := part.gap ++ part.token

def ofQuoted (q : QuotedText) : Spaced where
  gap := []
  token := q.chars
  blank := List.forall_mem_nil _
  nonempty := List.cons_ne_nil _ _
  kind := .inr ⟨q, rfl⟩

def ofRun (c : Char) (cs : List Char) (solid : ∀ d ∈ c :: cs, Text.isBlank d = false) : Spaced where
  gap := []
  token := c :: cs
  blank := List.forall_mem_nil _
  nonempty := List.cons_ne_nil c cs
  kind := .inl solid

def behind (part : Spaced) (c : Char) (blank : Text.isBlank c = true) : Spaced :=
  { part with gap := c :: part.gap, blank := List.forall_mem_cons.mpr ⟨blank, part.blank⟩ }

end Spaced

def ReadsAs (cs : List Char) (parts : List Spaced) : Prop :=
  tokenChars cs = parts.map Spaced.token ∧
    ∃ rest, cs = parts.flatMap Spaced.chars ++ rest ∧ ∀ c ∈ rest, Text.isBlank c = true

theorem ReadsAs.cons {cs rest : List Char} {part : Spaced} {parts : List Spaced}
    (first : tokenChars cs = part.token :: tokenChars rest) (split : cs = part.chars ++ rest)
    (others : ReadsAs rest parts) : ReadsAs cs (part :: parts) := by
  obtain ⟨tokens, back, rfl, blank⟩ := others
  refine ⟨by rw [first, tokens, List.map_cons], back, ?_, blank⟩
  rw [split, List.flatMap_cons, List.append_assoc]

theorem exists_quoted {cs token rest : List Char} (here : quotedHere? cs = some (token, rest)) :
    ∃ q : QuotedText, token = q.chars ∧ cs = q.chars ++ rest := by
  cases cs with
  | nil => cases here
  | cons quote cs =>
      rw [quotedHere?] at here
      split at here
      · next isQuote =>
          split at here
          · cases here
          · next c rest' found =>
              cases here
              have closing : c = quote := by
                have stopped := Text.head_dropWhile c (by rw [found]; rfl)
                simpa using stopped
              have free : quote ∉ cs.takeWhile (· != quote) := fun member => by
                simpa using Text.holds_of_mem_takeWhile member
              refine ⟨⟨quote, cs.takeWhile (· != quote), isQuote, free⟩, rfl, ?_⟩
              have whole := List.takeWhile_append_dropWhile (p := (· != quote)) (l := cs)
              rw [found, closing] at whole
              simp [QuotedText.chars, whole]
      · cases here

theorem exists_readsAs (cs : List Char) : ∃ parts, ReadsAs cs parts := by
  -- The scan comes to the end, to a quoted text, to white space or to a run.
  induction cs using tokenChars.induct with
  | case1 => exact ⟨[], by rw [tokenChars]; rfl, [], rfl, List.forall_mem_nil _⟩
  | case2 c cs token after here ih =>
      obtain ⟨parts, others⟩ := ih
      obtain ⟨q, rfl, split⟩ := exists_quoted here
      exact ⟨.ofQuoted q :: parts, others.cons (tokenChars_of_quoted here) split⟩
  | case3 c cs _ blank ih =>
      obtain ⟨parts, tokens, rest, split, blanks⟩ := ih
      rw [← tokenChars_blank blank] at tokens
      cases parts with
      | nil =>
          refine ⟨[], tokens, c :: rest, congrArg (c :: ·) split, ?_⟩
          exact List.forall_mem_cons.mpr ⟨blank, blanks⟩
      | cons part parts =>
          exact ⟨part.behind c blank :: parts, tokens, rest, congrArg (c :: ·) split, blanks⟩
  | case4 c cs unquoted solid ih =>
      obtain ⟨parts, others⟩ := ih
      have run : ∀ d ∈ c :: cs.takeWhile (!Text.isBlank ·), Text.isBlank d = false := by
        refine List.forall_mem_cons.mpr ⟨by simpa using solid, fun d member => ?_⟩
        simpa using Text.holds_of_mem_takeWhile member
      refine ⟨.ofRun c _ run :: parts, others.cons ?_ ?_⟩
      · rw [tokenChars_of_unquoted unquoted, if_neg solid]
        rfl
      · simp [Spaced.chars, Spaced.ofRun]

theorem tokens_spaced (expression : String) :
    ∃ (parts : List Spaced) (rest : List Char),
      tokens expression = parts.map (fun part => String.ofList part.token) ∧
      expression.toList = parts.flatMap Spaced.chars ++ rest ∧
      ∀ c ∈ rest, Text.isBlank c = true := by
  obtain ⟨parts, read, rest, split, blank⟩ := exists_readsAs expression.toList
  refine ⟨parts, rest, ?_, split, blank⟩
  rw [tokens, read, List.map_map]
  rfl

/-- Inside of a run a quote is a character like others, and behind a closing one a token begins. -/
example : tokens " don't 'stop it'x \"" = ["don't", "'stop it'", "x", "\""] := by decide +kernel

end FieldMap.Guard
