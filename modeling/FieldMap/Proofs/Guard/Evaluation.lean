import FieldMap.Proofs.Guard.Meaning
import FieldMap.Proofs.Guard.Word
import FieldMap.Proofs.Value.Written

/-!
Evaluating a written guard gives the answer of the tree that was written. It ends in the fault of a
malformed guard exactly where the answer depends on the order of two values that have none, provided
that both of them can be written into the message.
-/

namespace FieldMap.Guard
open Outcome

/-! ## Faults of refusals -/

namespace Refusal

def fault (origin : String) : Refusal → Fault
  | unordered a test b problem =>
    match a.form, b.form with
    | .ok left, .ok right => .incomparable left test.symbol right problem.message origin
    | .ok _, .error fault => fault
    | .error fault, _ => fault
  | endless => .endless

variable {origin : String} {a b : Value} {test : OrderTest} {problem : Fault}

theorem family_fault (left : Writable a) (right : Writable b) :
    ((unordered a test b problem).fault origin).family = .malformedSpec := by
  obtain ⟨s, left⟩ := left
  obtain ⟨t, right⟩ := right
  simp only [fault, left, right]
  rfl

theorem fault_of_unwritable (unwritable : ¬(Writable a ∧ Writable b)) :
    (unordered a test b problem).fault origin = .digitLimit none := by
  rw [fault]
  cases left : a.form with
  | error fault => exact Value.form_failsOnly a fault left
  | ok s =>
      cases right : b.form with
      | error fault => exact Value.form_failsOnly b fault right
      | ok t => exact absurd ⟨⟨s, left⟩, t, right⟩ unwritable

theorem family_fault_iff {refusal : Refusal} :
    (refusal.fault origin).family = .malformedSpec ↔
      ∃ a test b problem, refusal = .unordered a test b problem ∧ Writable a ∧ Writable b := by
  constructor
  · intro family
    cases refusal with
    | endless => cases family
    | unordered a test b problem =>
        by_cases writable : Writable a ∧ Writable b
        · exact ⟨a, test, b, problem, rfl, writable⟩
        · rw [fault_of_unwritable writable] at family
          cases family
  · rintro ⟨a, test, b, problem, rfl, left, right⟩
    exact family_fault left right

end Refusal

/-! ## Groups -/

theorem groups_eq_splitOnP (isSeparator : Part → Bool) (parts : List Part) :
    groups isSeparator parts = parts.splitOnP isSeparator := by
  induction parts with
  | nil => rfl
  | cons part parts ih =>
      rw [groups, ih, List.splitOnP_cons_eq_if_modifyHead]
      split
      · rfl
      · cases split : parts.splitOnP isSeparator with
        | nil => exact absurd split (List.splitOnP_ne_nil isSeparator parts)
        | cons group rest => rfl

theorem groups_lexemesWith {α : Type} (env : Reference → Value) {isSeparator : Part → Bool}
    {connective : Spelling → Lexeme} {lexemes : α → List Lexeme}
    (separates : ∀ spelling, isSeparator ((connective spelling).part env) = true)
    (inside : ∀ a, ∀ lexeme ∈ lexemes a, isSeparator (lexeme.part env) = false) (joined : Joined α) :
    groups isSeparator ((joined.lexemesWith connective lexemes).map (Lexeme.part env)) =
      joined.items.map fun a => (lexemes a).map (Lexeme.part env) := by
  have clean (a : α) : ∀ part ∈ (lexemes a).map (Lexeme.part env), isSeparator part = false := by
    intro part member
    obtain ⟨lexeme, within, rfl⟩ := List.mem_map.mp member
    exact inside a lexeme within
  obtain ⟨first, others⟩ := joined
  rw [groups_eq_splitOnP]
  induction others generalizing first with
  | nil => simp [Joined.lexemesWith, Joined.items, List.splitOnP_eq_singleton (clean first)]
  | cons other others ih =>
      have next := ih other.2
      simp only [Joined.lexemesWith, Joined.items, List.flatMap_cons, List.cons_append,
        List.map_append, List.map_cons] at next ⊢
      rw [List.splitOnP_append_cons_of_forall_mem (clean first) _ (separates other.1), next]

/-! ## Judging -/

section Judging

variable {ε α : Type} {render : ε → Fault} {answer : α → Except ε Bool} {parts : α → List Part}
  {judge : List Part → Except Fault Bool}

theorem judgeAll_map {items : List α}
    (each : ∀ a ∈ items, judge (parts a) = (answer a).mapError render) :
    judgeAll judge (items.map parts) = (items.allM answer).mapError render := by
  induction items with
  | nil => rfl
  | cons a items ih =>
      obtain ⟨first, others⟩ := List.forall_mem_cons.mp each
      rw [List.map_cons, judgeAll, first, List.allM_cons]
      cases answer a with
      | error e => rfl
      | ok b =>
          cases b
          · rfl
          · exact ih others

theorem judgeAny_map {items : List α}
    (each : ∀ a ∈ items, judge (parts a) = (answer a).mapError render) :
    judgeAny judge (items.map parts) = (items.anyM answer).mapError render := by
  induction items with
  | nil => rfl
  | cons a items ih =>
      obtain ⟨first, others⟩ := List.forall_mem_cons.mp each
      rw [List.map_cons, judgeAny, first, List.anyM_cons]
      cases answer a with
      | error e => rfl
      | ok b =>
          cases b
          · exact ih others
          · rfl

end Judging

/-! ## Comparisons -/

theorem isEndless_of_missing {a b : Value}
    (missing : (a = .undefined ∨ a = .null) ∨ b = .undefined ∨ b = .null) :
    Value.isEndless Value.comparedLevels a b = false := by
  rw [Value.isEndless, Value.comparedLevels, Value.settled?]
  split
  · rfl
  · rcases missing with (rfl | rfl) | rfl | rfl
    · rfl
    · rfl
    · cases a.opened <;> rfl
    · cases a.opened <;> rfl

theorem isUndefined_eq_false {a : Value} (defined : a ≠ .undefined) : a.isUndefined = false := by
  cases a with
  | undefined => contradiction
  | _ => rfl

theorem equal_null {a : Value} (filled : a ≠ .null) : a.equal .null = false := by
  cases a with
  | null => contradiction
  | float x => cases x <;> rfl
  | _ => rfl

theorem settledEqual_of_missing {a b : Value}
    (missing : (a = .undefined ∨ a = .null) ∨ b = .undefined ∨ b = .null) :
    settledEqual a b = .ok (looselyEqual a b) := by
  rw [settledEqual, isEndless_of_missing missing, if_neg Bool.false_ne_true]

theorem settledEqual_eq_equality (origin : String) (a b : Value) :
    settledEqual a b = (equality a b).mapError (Refusal.fault origin) := by
  -- Whether comparing ends is asked first, and it does where one of the operands has no value.
  unfold equality
  split
  · rw [settledEqual_of_missing (by simp)]
    simp [looselyEqual, Value.isUndefined]
  · rw [settledEqual_of_missing (by simp)]
    cases b <;> rfl
  · rw [settledEqual_of_missing (by simp)]
    simp [looselyEqual, Value.isUndefined, Value.isNull]
  · next defined filled =>
      rw [settledEqual_of_missing (by simp)]
      simp [looselyEqual, Value.isUndefined, equal_null filled]
  · next definedLeft filledLeft definedRight filledRight =>
      rw [settledEqual, looselyEqual, isUndefined_eq_false definedLeft,
        isUndefined_eq_false definedRight]
      split <;> rfl

theorem compare_order (origin : String) (test : OrderTest) (a b : Value) :
    compare origin test.symbol (.order test) a b =
      (ordering test a b).mapError (Refusal.fault origin) := by
  unfold compare
  dsimp only
  split
  · next answer order =>
      rw [ordering, order]
      rfl
  · next order =>
      rw [ordering, order]
      rfl
  · next problem ends order =>
      rw [ordering, order]
      simp only [mapError_error, if_neg ends, Refusal.fault]
      cases a.form with
      | error fault => rfl
      | ok left => cases b.form <;> rfl

theorem compare_symbol (origin : String) (symbol : Symbol) (a b : Value) :
    compare origin symbol.text symbol.comparison a b =
      (symbol.answer a b).mapError (Refusal.fault origin) := by
  have equal := settledEqual_eq_equality origin a b
  have unequal : (settledEqual a b).map not =
      ((equality a b).map not).mapError (Refusal.fault origin) := by
    rw [equal]
    cases equality a b <;> rfl
  cases symbol with
  | equal => exact equal
  | strictlyEqual => exact equal
  | unequal => exact unequal
  | strictlyUnequal => exact unequal
  | order test => exact compare_order origin test a b

theorem judgeComparison_lexemes (env : Reference → Value) (origin : String) (t : Test) :
    judgeComparison origin (t.lexemes.map (Lexeme.part env)) =
      (t.answer env).mapError (Refusal.fault origin) := by
  cases t with
  | lone a => rfl
  | compared a symbol b => exact compare_symbol origin symbol _ _

/-! ## Written guards -/

variable {env : Reference → Value}

theorem Test.clean_conjunction (t : Test) :
    ∀ lexeme ∈ t.lexemes, isConjunction (lexeme.part env) = false := by
  cases t <;> simp [lexemes, Lexeme.part, isConjunction]

theorem Test.clean_disjunction (t : Test) :
    ∀ lexeme ∈ t.lexemes, isDisjunction (lexeme.part env) = false := by
  cases t <;> simp [lexemes, Lexeme.part, isDisjunction]

theorem Conjunction.clean_disjunction (c : Conjunction) :
    ∀ lexeme ∈ c.lexemes, isDisjunction (lexeme.part env) = false := by
  intro lexeme member
  rcases List.mem_append.mp member with first | later
  · exact c.first.clean_disjunction lexeme first
  · obtain ⟨other, -, inside⟩ := List.mem_flatMap.mp later
    rcases List.mem_cons.mp inside with rfl | within
    · rfl
    · exact other.2.clean_disjunction lexeme within

theorem judge_lexemes (env : Reference → Value) (origin : String) (tree : Tree) :
    judge origin (tree.lexemes.map (Lexeme.part env)) =
      (tree.answer env).mapError (Refusal.fault origin) := by
  -- The groups between disjunctions are the conjunctions, and those between conjunctions the tests.
  have conjunctions (c : Conjunction) :
      judgeAll (judgeComparison origin) (groups isConjunction (c.lexemes.map (Lexeme.part env))) =
        (c.answer env).mapError (Refusal.fault origin) := by
    rw [Conjunction.lexemes, groups_lexemesWith env (fun _ => rfl) Test.clean_conjunction]
    exact judgeAll_map fun t _ => judgeComparison_lexemes env origin t
  rw [judge, Tree.lexemes, groups_lexemesWith env (fun _ => rfl) Conjunction.clean_disjunction]
  exact judgeAny_map fun c _ => conjunctions c

theorem Tree.lexemes_ne_nil (tree : Tree) : tree.lexemes ≠ [] := by
  obtain ⟨⟨first, tests⟩, conjunctions⟩ := tree
  cases first <;> exact List.cons_ne_nil _ _

theorem text_not_blank (tree : Tree) (gap : Nat → Gap) : Text.blank (tree.text gap) = false := by
  rw [Bool.eq_false_iff]
  intro blank
  have wordless := tokens_of_blank blank
  rw [tokens_text] at wordless
  exact tree.lexemes_ne_nil (List.map_eq_nil_iff.mp wordless)

theorem evaluate_text (tree : Tree) (gap : Nat → Gap) (env : Reference → Value) :
    evaluate (resolver env) (some (tree.text gap)) =
      (tree.answer env).mapError (Refusal.fault (tree.text gap)) := by
  rw [evaluate, text_not_blank, if_neg Bool.false_ne_true, consultation, tokens_text,
    outcome_consult]
  exact judge_lexemes env _ tree

/-! ## Outcomes -/

def oneSpace : Gap := ⟨[' '], List.cons_ne_nil _ _, List.all_eq_true.mp (by decide)⟩

end FieldMap.Guard
