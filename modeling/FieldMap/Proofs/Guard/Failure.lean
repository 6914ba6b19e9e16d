import FieldMap.Proofs.Guard.Consultation
import FieldMap.Proofs.Number.Numeral
import FieldMap.Proofs.Value.Plain

/-!
How evaluating a guard fails. What goes wrong is that the guard is malformed, or that one of its
references cannot be resolved. Comparing operands adds nothing to that as long as they are plain data.
Main statement: these are all the faults of a guard.
-/

namespace FieldMap.Guard
open Outcome FailsOnly

/-- Data whose collections end within the levels that are followed, with a form that can be written. -/
structure Plain (v : Value) : Prop where
  ends : Value.Ends (Value.comparedLevels - 1) v
  writable : Writable v

def IsExcess (fault : Fault) : Prop := fault = .endless ∨ fault = .digitLimit none

variable {resolve : Reference → Except Fault Value} {origin symbol token : String} {a b v : Value}
  {parts : List Part} {asked : List Reference}

/-! ## Comparisons -/

theorem compare_of_plain {comparison : Comparison} (left : Plain a) (right : Plain b) :
    FailsOnly (·.family = .malformedSpec) (compare origin symbol comparison a b) := by
  have settled : settledEqual a b = .ok (looselyEqual a b) := by
    rw [settledEqual, left.ends.isEndless_eq_false right.ends (by decide), if_neg Bool.false_ne_true]
  cases comparison with
  | equal =>
      rw [compare, settled]
      exact ok _
  | unequal =>
      rw [compare, settled]
      exact ok _
  | order test =>
      obtain ⟨s, leftForm⟩ := left.writable
      obtain ⟨t, rightForm⟩ := right.writable
      have mismatched : FailsOnly Value.IsMismatch (Value.ordered test a b) :=
        left.ends.ordered_mismatched right.ends (by decide)
      simp only [compare, leftForm, rightForm]
      split
      · exact ok _
      · next endless => exact absurd (mismatched _ endless) (by simp [Value.IsMismatch, Fault.family])
      · exact error rfl

theorem compare_malformed_or_excess {comparison : Comparison} :
    FailsOnly (fun fault => fault.family = .malformedSpec ∨ IsExcess fault)
      (compare origin symbol comparison a b) := by
  have settled : FailsOnly IsExcess (settledEqual a b) := by
    unfold settledEqual
    split
    · exact error (.inl rfl)
    · exact ok _
  have form (v : Value) :
      FailsOnly (fun fault => fault.family = .malformedSpec ∨ IsExcess fault) v.form :=
    fun fault fails => .inr (.inr (Value.form_failsOnly v fault fails))
  cases comparison with
  | equal => exact fun fault fails => .inr (settled fault fails)
  | unequal => exact fun fault fails => .inr (settled fault (map_eq_error.mp fails))
  | order test =>
      unfold compare
      dsimp only
      split
      · exact ok _
      · exact error (.inr (.inl rfl))
      · exact bind (form a) fun _ => bind (form b) fun _ => error (.inl rfl)

theorem compare_failsOnly {comparison : Comparison} :
    FailsOnly (fun fault => fault.family = .malformedSpec ∨ IsExcess fault ∧ ¬(Plain a ∧ Plain b))
      (compare origin symbol comparison a b) := by
  intro fault fails
  by_cases plain : Plain a ∧ Plain b
  · exact .inl (compare_of_plain plain.1 plain.2 fault fails)
  · exact (compare_malformed_or_excess fault fails).imp_right fun excess => ⟨excess, plain⟩

theorem compare_not_mismatched {comparison : Comparison} :
    FailsOnly (·.family ≠ .typeMismatch) (compare origin symbol comparison a b) := by
  intro fault fails
  rcases compare_malformed_or_excess fault fails with family | rfl | rfl
  · simp [family]
  · nofun
  · nofun

/-! ## Judging -/

def JudgeFault (parts : List Part) (fault : Fault) : Prop :=
  fault.family = .malformedSpec ∨ IsExcess fault ∧ ∃ v, .operand v ∈ parts ∧ ¬Plain v

theorem judgeComparison_failsOnly {group : List Part} (inside : ∀ part ∈ group, part ∈ parts) :
    FailsOnly (JudgeFault parts) (judgeComparison origin group) := by
  unfold judgeComparison
  split
  · exact ok _
  · next a symbol comparison b =>
      intro fault fails
      refine (compare_failsOnly fault fails).imp_right fun ⟨excess, notPlain⟩ => ⟨excess, ?_⟩
      rcases Classical.not_and_iff_not_or_not.mp notPlain with left | right
      · exact ⟨a, inside _ (by simp), left⟩
      · exact ⟨b, inside _ (by simp), right⟩
  · exact error (.inl rfl)

section Groups

variable {P : Fault → Prop} {judge : List Part → Except Fault Bool} {groups : List (List Part)}

theorem judgeAll_failsOnly (each : ∀ group ∈ groups, FailsOnly P (judge group)) :
    FailsOnly P (judgeAll judge groups) := by
  induction groups with
  | nil => exact ok _
  | cons group groups ih =>
      obtain ⟨first, others⟩ := List.forall_mem_cons.mp each
      rw [judgeAll]
      refine bind first fun holds => ?_
      split
      · exact ih others
      · exact ok _

theorem judgeAny_failsOnly (each : ∀ group ∈ groups, FailsOnly P (judge group)) :
    FailsOnly P (judgeAny judge groups) := by
  induction groups with
  | nil => exact ok _
  | cons group groups ih =>
      obtain ⟨first, others⟩ := List.forall_mem_cons.mp each
      rw [judgeAny]
      refine bind first fun holds => ?_
      split
      · exact ok _
      · exact ih others

end Groups

theorem mem_of_mem_groups {isSeparator : Part → Bool} {group : List Part} {part : Part}
    (listed : group ∈ groups isSeparator parts) (member : part ∈ group) :
    part ∈ parts ∧ isSeparator part = false := by
  rw [groups_eq_splitOnP] at listed
  exact exists_mem_splitOnP.mp ⟨group, listed, member⟩

theorem judge_failsOnly : FailsOnly (JudgeFault parts) (judge origin parts) := by
  refine judgeAny_failsOnly fun disjunct inside => judgeAll_failsOnly fun group within => ?_
  refine judgeComparison_failsOnly fun part member => ?_
  exact (mem_of_mem_groups inside (mem_of_mem_groups within member).1).1

/-! ## Reading -/

inductive Stems (resolve : Reference → Except Fault Value) (asked : List Reference) :
    Part → Prop
  | operator {token : String} {part : Part} (listed : operatorOf? token = some part) :
      Stems resolve asked part
  | literal {token : String} {v : Value} (literal : literal? token = some v) :
      Stems resolve asked (.operand v)
  | found {reference : Reference} {v : Value} (member : reference ∈ asked)
      (found : resolve reference = .ok v) : Stems resolve asked (.operand v)

theorem Stems.cons {reference : Reference} {part : Part} (stems : Stems resolve asked part) :
    Stems resolve (reference :: asked) part := by
  cases stems with
  | operator listed => exact .operator listed
  | literal literal => exact .literal literal
  | found member found => exact .found (List.mem_cons_of_mem _ member) found

theorem Word.ofToken_eq_literal (word : Word.ofToken token = .literal v) : literal? token = some v := by
  unfold Word.ofToken at word
  split at word
  · cases word
  · dsimp only at word
    split at word
    · cases word
    · split at word
      · next literal =>
          cases word
          exact literal
      · cases word

theorem stems_of_consult {tokens : List String}
    (read : (consult resolve origin tokens).outcome = .ok parts) :
    ∀ part ∈ parts, Stems resolve (referencesIn tokens) part := by
  induction tokens generalizing parts with
  | nil =>
      cases read
      nofun
  | cons token tokens ih =>
      rw [consult] at read
      rw [referencesIn_cons]
      cases word : Word.ofToken token with
      | unknown =>
          rw [word] at read
          cases read
      | operator p =>
          rw [word] at read
          obtain ⟨others, rest, rfl⟩ := map_eq_ok.mp read
          exact List.forall_mem_cons.mpr ⟨.operator (Word.ofToken_eq_operator.mp word), ih rest⟩
      | literal v =>
          rw [word] at read
          obtain ⟨others, rest, rfl⟩ := map_eq_ok.mp read
          exact List.forall_mem_cons.mpr ⟨.literal (Word.ofToken_eq_literal word), ih rest⟩
      | reference reference =>
          simp only [word] at read
          cases found : resolve reference with
          | error fault =>
              rw [found] at read
              cases read
          | ok v =>
              rw [found] at read
              obtain ⟨others, rest, rfl⟩ := map_eq_ok.mp read
              exact List.forall_mem_cons.mpr ⟨.found List.mem_cons_self found,
                fun part member => (ih rest part member).cons⟩

/-- The faults of a guard that follow the rules: it is malformed, or one of its references cannot be
resolved. -/
def Expected (resolve : Reference → Except Fault Value) (asked : List Reference)
    (fault : Fault) : Prop :=
  fault.family = .malformedSpec ∨ ∃ reference ∈ asked, resolve reference = .error fault

theorem consult_failsOnly {tokens : List String} :
    FailsOnly (Expected resolve (referencesIn tokens)) (consult resolve origin tokens).outcome := by
  induction tokens with
  | nil => exact ok _
  | cons token tokens ih =>
      rw [consult, referencesIn_cons]
      cases word : Word.ofToken token with
      | unknown => exact error (.inl rfl)
      | operator p | literal v => exact fun fault fails => ih fault (map_eq_error.mp fails)
      | reference reference =>
          dsimp only
          cases found : resolve reference with
          | error fault => exact error (.inr ⟨reference, List.mem_cons_self, found⟩)
          | ok v =>
              intro fault fails
              refine (ih fault (map_eq_error.mp fails)).imp_right ?_
              rintro ⟨earlier, member, unresolved⟩
              exact ⟨earlier, List.mem_cons_of_mem _ member, unresolved⟩

/-! ## Operands and operators -/

theorem plain_of_fits (outside : v.isInRing = false) (empty : v.parts = []) (fits : v.fits = true) :
    Plain v :=
  ⟨.single outside empty, exists_of_isOk (Value.isOk_form fits)⟩

theorem plain_of_number? {cs : List Char} (number : number? cs = some v) : Plain v := by
  unfold number? at number
  split at number
  · split at number
    · next n whole =>
        cases number
        exact plain_of_fits rfl rfl (Number.isWritable_of_readInteger whole)
    · cases number
      exact plain_of_fits rfl rfl rfl
  · cases number

theorem plain_of_literal? (literal : literal? token = some v) : Plain v := by
  unfold literal? at literal
  split at literal
  · cases literal
    exact plain_of_fits rfl rfl rfl
  · split at literal
    · cases literal
      exact plain_of_fits rfl rfl rfl
    · cases literal
      exact plain_of_fits rfl rfl rfl
    · cases literal
      exact plain_of_fits rfl rfl rfl
    · cases literal
      exact plain_of_fits rfl rfl rfl
    · exact plain_of_number? literal

theorem Stems.plain_or_found (stems : Stems resolve asked (.operand v)) :
    Plain v ∨ ∃ reference ∈ asked, resolve reference = .ok v := by
  cases stems with
  | operator listed =>
      have read := reads_operator listed
      generalize Symbol.ofText? _ = known at read
      cases read
  | literal literal => exact .inl (plain_of_literal? literal)
  | found member found => exact .inr ⟨_, member, found⟩

theorem Stems.operand_or_symbol {part : Part} (stems : Stems resolve asked part)
    (joins : isConjunction part = false) (separates : isDisjunction part = false) :
    (∃ v, part = .operand v) ∨
      ∃ symbol : Symbol, part = .comparison symbol.text symbol.comparison := by
  cases stems with
  | literal | found => exact .inl ⟨_, rfl⟩
  | operator listed =>
      have read := reads_operator listed
      generalize Symbol.ofText? _ = known at read
      cases read with
      | comparison symbol => exact .inr ⟨symbol, rfl⟩
      | conjunction => cases joins
      | disjunction => cases separates

/-! ## Numbers -/

theorem exists_literal_numeral (n : Number.Numeral) :
    ∃ x, Number.Binary64.ofText? n.chars = some x ∧ Word.ofToken (String.ofList n.chars) =
      .literal (match Number.readInteger n.chars with
        | .ok whole => .int whole
        | .error _ => .float x) := by
  obtain ⟨decimal, read⟩ := n.read?_chars
  obtain ⟨digit, member, isDecimal⟩ := n.exists_digit
  have apart : ∀ c ∈ n.chars, c ∉ quotes ++ Root.marks := by
    intro c inside
    rcases n.mem_chars inside with mark | other
    · exact Text.not_mem_of_mem mark (by decide)
    · exact Text.not_mem_of_class other (by decide)
  refine ⟨decimal.toBinary64, by rw [Number.Binary64.ofText?, read], ?_⟩
  apply Word.ofToken_of_number member isDecimal apart
  rw [number?, read]
  cases Number.readInteger n.chars <;> rfl

/-! ## The statement -/

theorem evaluate_failsOnly {expression : Option String} :
    FailsOnly (fun fault => Expected resolve (references expression) fault ∨ IsExcess fault ∧
        ∃ reference ∈ references expression, ∃ v, resolve reference = .ok v ∧ ¬Plain v)
      (evaluate resolve expression) := by
  cases expression with
  | none => exact ok _
  | some expression =>
      unfold evaluate
      dsimp only
      split
      · exact ok _
      · intro fault fails
        rcases bind_eq_error.mp fails with unread | ⟨parts, read, fails⟩
        · exact .inl (consult_failsOnly fault unread)
        · rcases judge_failsOnly fault fails with family | ⟨excess, v, member, notPlain⟩
          · exact .inl (.inl family)
          · have stems := stems_of_consult read _ member
            obtain ⟨reference, listed, found⟩ := stems.plain_or_found.resolve_left notPlain
            exact .inr ⟨excess, reference, listed, v, found, notPlain⟩

theorem evaluate_expected (resolve : Reference → Except Fault Value) (expression : Option String) :
    ((∀ reference ∈ references expression, ∀ v, resolve reference = .ok v → Plain v) →
      (∃ holds, evaluate resolve expression = .ok holds) ∨
      ∃ fault, evaluate resolve expression = .error fault ∧ (fault.family = .malformedSpec ∨
        ∃ reference ∈ references expression, resolve reference = .error fault)) ∧
    (∀ fault, evaluate resolve expression = .error fault →
      fault.family = .malformedSpec ∨
      (∃ reference ∈ references expression, resolve reference = .error fault) ∨
      (fault = .endless ∨ fault = .digitLimit none) ∧
        ∃ reference ∈ references expression, ∃ v, resolve reference = .ok v ∧ ¬Plain v) ∧
    (∀ text ∈ expression, ∀ parts, (consultation resolve text).outcome = .ok parts →
      ∀ disjunct ∈ groups isDisjunction parts, ∀ group ∈ groups isConjunction disjunct,
        ∀ part ∈ group, (∃ v, part = .operand v) ∨
          ∃ symbol : Symbol, part = .comparison symbol.text symbol.comparison) ∧
    (∀ n : Number.Numeral, ∃ x, Number.Binary64.ofText? n.chars = some x ∧
      Word.ofToken (String.ofList n.chars) =
        .literal (match Number.readInteger n.chars with
          | .ok whole => .int whole
          | .error _ => .float x)) ∧
    ∀ origin symbol comparison a b fault, compare origin symbol comparison a b = .error fault →
      fault.family ≠ .typeMismatch := by
  refine ⟨?_, ?_, ?_, exists_literal_numeral, fun _ _ _ _ _ => compare_not_mismatched⟩
  · intro plain
    cases outcome : evaluate resolve expression with
    | ok holds => exact .inl ⟨holds, rfl⟩
    | error fault =>
        right
        refine ⟨fault, rfl, (evaluate_failsOnly fault outcome).resolve_right ?_⟩
        rintro ⟨-, reference, listed, v, found, notPlain⟩
        exact notPlain (plain reference listed v found)
  · intro fault fails
    exact or_assoc.mp (evaluate_failsOnly fault fails)
  · rintro text rfl parts read disjunct inside group within part member
    obtain ⟨listed, joins⟩ := mem_of_mem_groups within member
    obtain ⟨among, separates⟩ := mem_of_mem_groups inside listed
    exact (stems_of_consult read part among).operand_or_symbol joins separates

theorem evaluate_expected_list :
    let resolve (_ : Reference) : Except Fault Value := .ok (.list [.int 1, .text "a"])
    (∀ reference ∈ references (some "&.tags < null"), ∀ v, resolve reference = .ok v → Plain v) ∧
      ∃ fault, evaluate resolve (some "&.tags < null") = .error fault ∧
        fault.family = .malformedSpec := by
  intro resolve
  have plain : ∀ reference ∈ references (some "&.tags < null"), ∀ v,
      resolve reference = .ok v → Plain v := by
    rintro reference - v ⟨⟩
    have fits : Value.fits (.list [.int 1, .text "a"]) = true := by decide +kernel
    refine ⟨.collection rfl fun part member => ?_, exists_of_isOk (Value.isOk_form fits)⟩
    simp only [Value.parts, List.mem_cons, List.not_mem_nil, or_false] at member
    rcases member with rfl | rfl
    · exact .single rfl rfl
    · exact .single rfl rfl
  have fails : (evaluate resolve (some "&.tags < null")).isOk = false := by decide +kernel
  refine ⟨plain, ?_⟩
  rcases (evaluate_expected resolve (some "&.tags < null")).1 plain with
    ⟨holds, returns⟩ | ⟨fault, malformed, family | ⟨reference, -, unresolved⟩⟩
  · rw [returns] at fails
    cases fails
  · exact ⟨fault, malformed, family⟩
  · cases unresolved

/-! ## Lists that hold themselves -/

def ownItem (mark : Nat) : Value := .cyclic mark [.list [.cell 0]] 0

theorem opened_ownItem (mark : Nat) : (ownItem mark).opened = .list [ownItem mark] := rfl

/-- However many levels are followed, two such lists look the same so far. -/
theorem settled?_ownItem {m n : Nat} (apart : m ≠ n) (levels : Nat) :
    Value.settled? levels (ownItem m) (ownItem n) = none := by
  induction levels with
  | zero => rfl
  | succ levels ih =>
      have other : Value.isOne (ownItem m) (ownItem n) = false := by
        simp [ownItem, Value.isOne, apart]
      rw [Value.settled?, other, if_neg Bool.false_ne_true, opened_ownItem, opened_ownItem]
      simp [Value.settledItems?, ih]

def ownItems (reference : Reference) : Value := ownItem (if reference.property = "x" then 0 else 1)

def propertyX : ReferenceText :=
  ⟨"@u.x".toList, fun _ member => Text.eq_false_of_mem member (by decide), by rfl⟩

def propertyY : ReferenceText :=
  ⟨"@u.y".toList, fun _ member => Text.eq_false_of_mem member (by decide), by rfl⟩

def sameLists : Tree := ⟨⟨.compared (.reference propertyX) .equal (.reference propertyY), []⟩, []⟩

theorem text_sameLists : sameLists.text (fun _ => oneSpace) = "@u.x == @u.y" := by
  rfl

theorem answer_sameLists : sameLists.answer ownItems = .error .endless := by
  have endless : Value.isEndless Value.comparedLevels (ownItem 0) (ownItem 1) = true := by
    rw [Value.isEndless, settled?_ownItem (by decide)]
    rfl
  have left : ownItems propertyX.reference = ownItem 0 := by
    rw [ownItems, if_pos (by decide +kernel)]
  have right : ownItems propertyY.reference = ownItem 1 := by
    rw [ownItems, if_neg (by decide +kernel)]
  have test : Test.answer ownItems
      (.compared (.reference propertyX) .equal (.reference propertyY)) = .error .endless := by
    rw [Test.answer, Symbol.answer, Operand.value, Operand.value, left, right, ownItem, ownItem,
      equality, ← ownItem, ← ownItem, endless]
    · rfl
    all_goals simp
  simp [Tree.answer, Conjunction.answer, sameLists, Joined.items, test]

/-- The lists can be resolved and have a form, and yet comparing them is no matter of a malformed
guard or of a reference that cannot be resolved. -/
theorem evaluate_ownItems :
    (∀ reference, ∃ v, resolver ownItems reference = .ok v ∧ v.form = .ok "[[...]]") ∧
      evaluate (resolver ownItems) (some "@u.x == @u.y") = .error .endless ∧
      Fault.endless.family ≠ .malformedSpec := by
  have outcome := evaluate_text sameLists (fun _ => oneSpace) ownItems
  rw [text_sameLists, answer_sameLists] at outcome
  exact ⟨fun reference => ⟨_, rfl, rfl⟩, outcome, nofun⟩

end FieldMap.Guard
