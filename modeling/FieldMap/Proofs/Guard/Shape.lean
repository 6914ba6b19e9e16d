import FieldMap.Proofs.Guard.Evaluation

/-!
What any guard gives, well-formed or not. The tokens of a guard are read first, and one that is unknown
ends the reading whatever the data are; groups of tokens that are no test are met only where the
answer depends on them. Main statement: when a guard is found malformed.
-/

namespace FieldMap.Guard
open Outcome

/-! ## Shapes -/

def conjunctionTokens : List String := ["&&", "and"]

def disjunctionTokens : List String := ["||", "or"]

def disjuncts (expression : String) : List (List String) :=
  (tokens expression).splitOnP disjunctionTokens.contains

def conjuncts (disjunct : List String) : List (List String) :=
  disjunct.splitOnP conjunctionTokens.contains

def Symbol.ofText? : String → Option Symbol
  | "==" => some equal
  | "===" => some strictlyEqual
  | "!=" => some unequal
  | "!==" => some strictlyUnequal
  | "<" => some (order .less)
  | "<=" => some (order .lessOrEqual)
  | ">" => some (order .greater)
  | ">=" => some (order .greaterOrEqual)
  | _ => none

def isKnown (token : String) : Bool :=
  match Word.ofToken token with
  | .unknown => false
  | _ => true

def isOperand (token : String) : Bool :=
  match Word.ofToken token with
  | .reference _ | .literal _ => true
  | _ => false

def isTest : List String → Bool
  | [a] => isOperand a
  | [a, symbol, b] => isOperand a && (Symbol.ofText? symbol).isSome && isOperand b
  | _ => false

def wellFormed (expression : String) : Bool :=
  (disjuncts expression).all fun disjunct => (conjuncts disjunct).all isTest

/-! ## Answers -/

inductive Flaw where
  | malformed
  | refused (refusal : Refusal)

def Flaw.fault (origin : String) : Flaw → Fault
  | malformed => .malformedComparison origin
  | refused refusal => refusal.fault origin

def operand? (env : Reference → Value) (token : String) : Option Value :=
  match Word.ofToken token with
  | .reference reference => some (env reference)
  | .literal v => some v
  | _ => none

def groupAnswer (env : Reference → Value) : List String → Except Flaw Bool
  | [a] =>
    match operand? env a with
    | some v => .ok v.truthy
    | none => .error .malformed
  | [a, symbol, b] =>
    match operand? env a, Symbol.ofText? symbol, operand? env b with
    | some v, some symbol, some w => (symbol.answer v w).mapError .refused
    | _, _, _ => .error .malformed
  | _ => .error .malformed

def answer (env : Reference → Value) (expression : String) : Except Flaw Bool :=
  (disjuncts expression).anyM fun disjunct => (conjuncts disjunct).allM (groupAnswer env)

def Reaches (env : Reference → Value) (expression : String) (group : List String) : Prop :=
  Asked conjuncts (groupAnswer env) (disjuncts expression) group

variable {env : Reference → Value} {origin expression token : String} {group : List String}

/-! ## Tokens -/

/-- The part of a guard that a token is read as. An unknown token is never read; it counts as an
operand here. -/
def part (env : Reference → Value) (token : String) : Part :=
  match Word.ofToken token with
  | .operator part => part
  | .reference reference => .operand (env reference)
  | .literal v => .operand v
  | .unknown => .operand .undefined

/-- What a known token can be: the value of an operand, a symbol, or a connective. -/
inductive Reads : Option Value → Option Symbol → Part → Prop where
  | operand (v : Value) : Reads (some v) none (.operand v)
  | comparison (symbol : Symbol) : Reads none (some symbol) (.comparison symbol.text symbol.comparison)
  | conjunction : Reads none none .conjunction
  | disjunction : Reads none none .disjunction

theorem Word.ofToken_eq_operator {p : Part} :
    Word.ofToken token = .operator p ↔ operatorOf? token = some p := by
  unfold Word.ofToken
  cases operatorOf? token with
  | some other => simp
  | none =>
      dsimp only
      split
      · simp
      · split <;> simp

theorem operatorOf?_of_ofText? {symbol : Symbol} (listed : Symbol.ofText? token = some symbol) :
    operatorOf? token = some (.comparison symbol.text symbol.comparison) := by
  unfold Symbol.ofText? at listed
  split at listed
  all_goals
    cases listed
    try rfl

theorem ofText?_eq_none (other : ∀ p, Word.ofToken token ≠ .operator p) :
    Symbol.ofText? token = none := by
  cases listed : Symbol.ofText? token with
  | none => rfl
  | some symbol =>
      exact absurd (Word.ofToken_eq_operator.mpr (operatorOf?_of_ofText? listed)) (other _)

theorem reads_operator {p : Part} (operator : operatorOf? token = some p) :
    Reads none (Symbol.ofText? token) p := by
  unfold operatorOf? at operator
  split at operator
  all_goals cases operator
  all_goals first
    | exact .comparison _
    | exact .conjunction
    | exact .disjunction

theorem reads (env : Reference → Value) (known : isKnown token = true) :
    Reads (operand? env token) (Symbol.ofText? token) (part env token) := by
  unfold isKnown at known
  unfold operand? part
  cases word : Word.ofToken token with
  | unknown => simp [word] at known
  | operator p => exact reads_operator (Word.ofToken_eq_operator.mp word)
  | reference reference =>
      rw [ofText?_eq_none (by simp [word])]
      exact .operand (env reference)
  | literal v =>
      rw [ofText?_eq_none (by simp [word])]
      exact .operand v

theorem mem_conjunctionTokens :
    operatorOf? token = some .conjunction ↔ token ∈ conjunctionTokens := by
  constructor
  · unfold operatorOf?
    split <;> intro operator <;> first | decide | cases operator
  · simp only [conjunctionTokens, List.mem_cons, List.not_mem_nil, or_false]
    rintro (rfl | rfl) <;> rfl

theorem mem_disjunctionTokens :
    operatorOf? token = some .disjunction ↔ token ∈ disjunctionTokens := by
  constructor
  · unfold operatorOf?
    split <;> intro operator <;> first | decide | cases operator
  · simp only [disjunctionTokens, List.mem_cons, List.not_mem_nil, or_false]
    rintro (rfl | rfl) <;> rfl

theorem isConjunction_part (env : Reference → Value) (token : String) :
    isConjunction (part env token) = conjunctionTokens.contains token := by
  rw [Bool.eq_iff_iff, List.contains_iff_mem, ← mem_conjunctionTokens, ← Word.ofToken_eq_operator]
  unfold part
  cases Word.ofToken token with
  | operator p => cases p <;> simp [isConjunction]
  | _ => simp [isConjunction]

theorem isDisjunction_part (env : Reference → Value) (token : String) :
    isDisjunction (part env token) = disjunctionTokens.contains token := by
  rw [Bool.eq_iff_iff, List.contains_iff_mem, ← mem_disjunctionTokens, ← Word.ofToken_eq_operator]
  unfold part
  cases Word.ofToken token with
  | operator p => cases p <;> simp [isDisjunction]
  | _ => simp [isDisjunction]

/-! ## Reading -/

theorem outcome_consult_of_known {known : List String} (each : ∀ token ∈ known, isKnown token = true)
    (rest : List String) :
    (consult (resolver env) origin (known ++ rest)).outcome =
      (consult (resolver env) origin rest).outcome.map (known.map (part env) ++ ·) := by
  induction known with
  | nil =>
      rw [List.nil_append]
      cases (consult (resolver env) origin rest).outcome <;> rfl
  | cons token known ih =>
      obtain ⟨first, others⟩ := List.forall_mem_cons.mp each
      have here : (consult (resolver env) origin (token :: (known ++ rest))).outcome =
          (consult (resolver env) origin (known ++ rest)).outcome.map (part env token :: ·) := by
        rw [isKnown] at first
        rw [consult, part]
        cases word : Word.ofToken token with
        | unknown => simp [word] at first
        | _ => rfl
      rw [List.cons_append, here, ih others]
      cases (consult (resolver env) origin rest).outcome <;> rfl

theorem outcome_consult_of_unknown (unknown : isKnown token = false) (rest : List String) :
    (consult (resolver env) origin (token :: rest)).outcome =
      .error (.unexpectedToken token origin) := by
  rw [isKnown] at unknown
  rw [consult]
  cases word : Word.ofToken token with
  | unknown => rfl
  | _ => simp [word] at unknown

/-! ## Judging -/

theorem judgeComparison_part (known : ∀ token ∈ group, isKnown token = true) :
    judgeComparison origin (group.map (part env)) =
      (groupAnswer env group).mapError (Flaw.fault origin) := by
  match group with
  | [] => rfl
  | [a] =>
      have read := reads env (known a (by simp))
      simp only [groupAnswer, List.map_cons, List.map_nil]
      generalize operand? env a = value, Symbol.ofText? a = symbol, part env a = p at read ⊢
      cases read <;> rfl
  | [a, symbol, b] =>
      -- From here on only the kinds of the three tokens matter.
      have left := reads env (known a (by simp))
      have middle := reads env (known symbol (by simp))
      have right := reads env (known b (by simp))
      simp only [groupAnswer, List.map_cons, List.map_nil]
      generalize operand? env a = x, Symbol.ofText? a = xs, part env a = p at left ⊢
      generalize operand? env symbol = y, Symbol.ofText? symbol = ys, part env symbol = q at middle ⊢
      generalize operand? env b = z, Symbol.ofText? b = zs, part env b = r at right ⊢
      cases left with
      | operand v =>
          cases middle with
          | comparison symbol =>
              cases right with
              | operand w =>
                  rw [judgeComparison, compare_symbol]
                  dsimp only
                  cases symbol.answer v w <;> rfl
              | _ => rfl
          | _ => rfl
      | _ => rfl
  | [_, _] | _ :: _ :: _ :: _ :: _ => simp [judgeComparison, groupAnswer, Flaw.fault]

theorem splitOnP_map {α β : Type} (f : α → β) (p : β → Bool) (xs : List α) :
    (xs.map f).splitOnP p = (xs.splitOnP (p ∘ f)).map (List.map f) := by
  induction xs with
  | nil => rfl
  | cons x xs ih =>
      rw [List.map_cons, List.splitOnP_cons_eq_if_modifyHead, List.splitOnP_cons_eq_if_modifyHead, ih]
      cases split : xs.splitOnP (p ∘ f) with
      | nil => exact absurd split (List.splitOnP_ne_nil _ xs)
      | cons group groups =>
          simp only [Function.comp_apply]
          split <;> rfl

theorem flatten_splitOnP {α : Type} (p : α → Bool) (xs : List α) :
    (xs.splitOnP p).flatten = xs.filter fun x => !p x := by
  induction xs with
  | nil => rfl
  | cons x xs ih =>
      rw [List.splitOnP_cons_eq_if_modifyHead, List.filter_cons, ← ih]
      cases separates : p x with
      | true => rfl
      | false =>
          cases split : xs.splitOnP p with
          | nil => exact absurd split (List.splitOnP_ne_nil p xs)
          | cons group groups => rfl

theorem exists_mem_splitOnP {α : Type} {p : α → Bool} {xs : List α} {x : α} :
    (∃ group ∈ xs.splitOnP p, x ∈ group) ↔ x ∈ xs ∧ p x = false := by
  rw [← List.mem_flatten, flatten_splitOnP, List.mem_filter, Bool.not_eq_true']

theorem judge_part (known : ∀ token ∈ tokens expression, isKnown token = true) :
    judge expression ((tokens expression).map (part env)) =
      (answer env expression).mapError (Flaw.fault expression) := by
  have disjunctions : isDisjunction ∘ part env = disjunctionTokens.contains :=
    funext (isDisjunction_part env)
  have conjunctions : isConjunction ∘ part env = conjunctionTokens.contains :=
    funext (isConjunction_part env)
  rw [judge, groups_eq_splitOnP, splitOnP_map, disjunctions]
  refine judgeAny_map fun disjunct inside => ?_
  rw [groups_eq_splitOnP, splitOnP_map, conjunctions]
  refine judgeAll_map fun group within => judgeComparison_part fun token member => ?_
  have token_mem : token ∈ disjunct := (exists_mem_splitOnP.mp ⟨group, within, member⟩).1
  exact known token (exists_mem_splitOnP.mp ⟨disjunct, inside, token_mem⟩).1

theorem evaluate_of_known (nonblank : Text.blank expression = false)
    (known : ∀ token ∈ tokens expression, isKnown token = true) :
    evaluate (resolver env) (some expression) =
      (answer env expression).mapError (Flaw.fault expression) := by
  have consulted : (consult (resolver env) expression (tokens expression)).outcome =
      .ok ((tokens expression).map (part env)) := by
    rw [← List.append_nil (tokens expression), outcome_consult_of_known known]
    simp [consult, Except.map]
  rw [evaluate, nonblank, if_neg Bool.false_ne_true, consultation, consulted]
  exact judge_part known

/-! ## Groups that are no test -/

theorem isSome_operand? (env : Reference → Value) (token : String) :
    (operand? env token).isSome = isOperand token := by
  unfold operand? isOperand
  cases Word.ofToken token <;> rfl

theorem groupAnswer_malformed_iff :
    groupAnswer env group = .error .malformed ↔ isTest group = false := by
  match group with
  | [a] =>
      rw [groupAnswer, isTest, ← isSome_operand? env]
      cases operand? env a <;> simp
  | [a, symbol, b] =>
      rw [groupAnswer, isTest, ← isSome_operand? env, ← isSome_operand? env]
      cases operand? env a with
      | none => simp
      | some v =>
          cases Symbol.ofText? symbol with
          | none => simp
          | some symbol =>
              cases operand? env b with
              | none => simp
              | some w => cases answer : symbol.answer v w <;> simp [answer]
  | [] | [_, _] | _ :: _ :: _ :: _ :: _ => simp [groupAnswer, isTest]

theorem isKnown_of_isOperand (operand : isOperand token = true) : isKnown token = true := by
  unfold isOperand at operand
  unfold isKnown
  cases word : Word.ofToken token <;> simp_all

theorem isKnown_of_operatorOf? {p : Part} (operator : operatorOf? token = some p) :
    isKnown token = true := by
  rw [isKnown, Word.ofToken_eq_operator.mpr operator]

theorem isKnown_of_isTest (test : isTest group = true) : ∀ token ∈ group, isKnown token = true := by
  match group with
  | [a] => simpa using isKnown_of_isOperand test
  | [a, symbol, b] =>
      simp only [isTest, Bool.and_eq_true, Option.isSome_iff_exists] at test
      obtain ⟨⟨left, symbol, listed⟩, right⟩ := test
      have middle := isKnown_of_operatorOf? (operatorOf?_of_ofText? listed)
      simp [isKnown_of_isOperand left, middle, isKnown_of_isOperand right]
  | [] | [_, _] | _ :: _ :: _ :: _ :: _ => simp [isTest] at test

theorem isTest_of_wellFormed (formed : wellFormed expression = true) {disjunct : List String}
    (inside : disjunct ∈ disjuncts expression) (within : group ∈ conjuncts disjunct) :
    isTest group = true :=
  List.all_eq_true.mp (List.all_eq_true.mp formed disjunct inside) group within

theorem isKnown_of_wellFormed (formed : wellFormed expression = true) :
    ∀ token ∈ tokens expression, isKnown token = true := by
  intro token member
  by_cases separates : disjunctionTokens.contains token = true
  · exact isKnown_of_operatorOf? (mem_disjunctionTokens.mpr (List.contains_iff_mem.mp separates))
  · rw [Bool.not_eq_true] at separates
    obtain ⟨disjunct, inside, token_mem⟩ := exists_mem_splitOnP.mpr ⟨member, separates⟩
    by_cases joins : conjunctionTokens.contains token = true
    · exact isKnown_of_operatorOf? (mem_conjunctionTokens.mpr (List.contains_iff_mem.mp joins))
    · rw [Bool.not_eq_true] at joins
      obtain ⟨group, within, listed⟩ := exists_mem_splitOnP.mpr ⟨token_mem, joins⟩
      exact isKnown_of_isTest (isTest_of_wellFormed formed inside within) token listed

/-! ## Faults -/

theorem Refusal.fault_ne_malformedComparison (refusal : Refusal) :
    refusal.fault origin ≠ .malformedComparison origin := by
  intro same
  cases refusal with
  | endless => cases same
  | unordered a test b problem =>
      by_cases writable : Writable a ∧ Writable b
      · obtain ⟨⟨s, left⟩, t, right⟩ := writable
        simp [fault, left, right] at same
      · rw [fault_of_unwritable writable] at same
        cases same

theorem Flaw.fault_eq_malformedComparison_iff {flaw : Flaw} :
    flaw.fault origin = .malformedComparison origin ↔ flaw = .malformed := by
  cases flaw with
  | malformed => simp [fault]
  | refused refusal => simpa [fault] using refusal.fault_ne_malformedComparison

theorem Flaw.family_fault_iff {flaw : Flaw} :
    (flaw.fault origin).family = .malformedSpec ↔ flaw = .malformed ∨
      ∃ a test b problem, flaw = .refused (.unordered a test b problem) ∧ Writable a ∧ Writable b := by
  cases flaw with
  | malformed => simp [fault, Fault.family]
  | refused refusal => simpa [fault] using Refusal.family_fault_iff

theorem evaluate_eq_error_iff (nonblank : Text.blank expression = false)
    (known : ∀ token ∈ tokens expression, isKnown token = true) {fault : Fault} :
    evaluate (resolver env) (some expression) = .error fault ↔
      ∃ group flaw, Reaches env expression group ∧ groupAnswer env group = .error flaw ∧
        flaw.fault expression = fault := by
  rw [evaluate_of_known nonblank known, mapError_eq_error]
  simp only [answer, anyM_allM_eq_error]
  constructor
  · rintro ⟨flaw, ⟨group, reached, answer⟩, rfl⟩
    exact ⟨group, flaw, reached, answer, rfl⟩
  · rintro ⟨group, flaw, reached, answer, rfl⟩
    exact ⟨flaw, ⟨group, reached, answer⟩, rfl⟩

theorem evaluate_of_unknown (nonblank : Text.blank expression = false) {before after : List String}
    (split : tokens expression = before ++ token :: after)
    (known : ∀ earlier ∈ before, isKnown earlier = true) (unknown : isKnown token = false) :
    evaluate (resolver env) (some expression) = .error (.unexpectedToken token expression) := by
  rw [evaluate, nonblank, if_neg Bool.false_ne_true, consultation, split,
    outcome_consult_of_known known, outcome_consult_of_unknown unknown]
  rfl

/-! ## The statement -/

def Rejected (env : Reference → Value) (expression : String) : Prop :=
  ∃ fault, evaluate (resolver env) (some expression) = .error fault ∧ fault.family = .malformedSpec

theorem rejected_iff (nonblank : Text.blank expression = false) :
    Rejected env expression ↔ (∃ token ∈ tokens expression, isKnown token = false) ∨
      ∃ group, Reaches env expression group ∧ (isTest group = false ∨
        ∃ a test b problem, groupAnswer env group = .error (.refused (.unordered a test b problem)) ∧
          Writable a ∧ Writable b) := by
  -- All tokens are read before any group is judged, so the first unknown one comes before all else.
  cases missing : (tokens expression).find? (!isKnown ·) with
  | some token =>
      obtain ⟨unknown, before, after, split, known⟩ := List.find?_eq_some_iff_append.mp missing
      rw [Bool.not_eq_true'] at unknown
      have rejected : Rejected env expression :=
        ⟨_, evaluate_of_unknown nonblank split (by simpa using known) unknown, rfl⟩
      exact ⟨fun _ => .inl ⟨token, by simp [split], unknown⟩, fun _ => rejected⟩
  | none =>
      have known : ∀ token ∈ tokens expression, isKnown token = true := by simpa using missing
      have none : ¬∃ token ∈ tokens expression, isKnown token = false := by
        rintro ⟨token, member, unknown⟩
        rw [known token member] at unknown
        cases unknown
      simp only [none, false_or, Rejected, evaluate_eq_error_iff nonblank known]
      constructor
      · rintro ⟨fault, ⟨group, flaw, reached, answer, rfl⟩, family⟩
        refine ⟨group, reached, ?_⟩
        rcases Flaw.family_fault_iff.mp family with rfl | ⟨a, test, b, problem, rfl, writable⟩
        · exact .inl (groupAnswer_malformed_iff.mp answer)
        · exact .inr ⟨a, test, b, problem, answer, writable⟩
      · rintro ⟨group, reached, shapeless | ⟨a, test, b, problem, answer, writable⟩⟩
        · exact ⟨_, ⟨group, _, reached, groupAnswer_malformed_iff.mpr shapeless, rfl⟩, rfl⟩
        · refine ⟨_, ⟨group, _, reached, answer, rfl⟩, ?_⟩
          exact Flaw.family_fault_iff.mpr (.inr ⟨a, test, b, problem, rfl, writable⟩)

theorem evaluate_malformedComparison_iff (nonblank : Text.blank expression = false)
    (known : ∀ token ∈ tokens expression, isKnown token = true) :
    evaluate (resolver env) (some expression) = .error (.malformedComparison expression) ↔
      ∃ group, Reaches env expression group ∧ isTest group = false := by
  rw [evaluate_eq_error_iff nonblank known]
  constructor
  · rintro ⟨group, flaw, reached, answer, same⟩
    rw [Flaw.fault_eq_malformedComparison_iff.mp same] at answer
    exact ⟨group, reached, groupAnswer_malformed_iff.mp answer⟩
  · rintro ⟨group, reached, shapeless⟩
    exact ⟨group, _, reached, groupAnswer_malformed_iff.mpr shapeless, rfl⟩

theorem reaches_first (first : group ∈ ((disjuncts expression).flatMap conjuncts).head?) :
    Reaches env expression group := by
  cases here : disjuncts expression with
  | nil => simp [here] at first
  | cons disjunct disjuncts =>
      cases within : conjuncts disjunct with
      | nil => exact absurd within (List.splitOnP_ne_nil _ _)
      | cons head groups =>
          simp only [here, List.flatMap_cons, within, List.cons_append, List.head?_cons,
            Option.mem_some_iff] at first
          subst first
          exact ⟨[], disjunct, disjuncts, here, by simp, [], groups, within, by simp⟩

theorem evaluate_of_wellFormed (nonblank : Text.blank expression = false)
    (formed : wellFormed expression = true) :
    ∃ outcome : Except Refusal Bool,
      evaluate (resolver env) (some expression) = outcome.mapError (Refusal.fault expression) := by
  have known := isKnown_of_wellFormed formed
  rw [evaluate_of_known nonblank known]
  cases answered : answer env expression with
  | ok b => exact ⟨.ok b, rfl⟩
  | error flaw =>
      cases flaw with
      | refused refusal => exact ⟨.error refusal, rfl⟩
      | malformed =>
          obtain ⟨group, ⟨before, disjunct, after, split, -, earlier, later, parts, -⟩, malformed⟩ :=
            anyM_allM_eq_error.mp answered
          have inside : disjunct ∈ disjuncts expression := by simp [split]
          have test : isTest group = true := isTest_of_wellFormed formed inside (by simp [parts])
          rw [groupAnswer_malformed_iff.mp malformed] at test
          cases test

theorem evaluate_shape {expression : String} (nonblank : Text.blank expression = false) :
    (∀ before token after, tokens expression = before ++ token :: after →
      (∀ earlier ∈ before, isKnown earlier = true) → isKnown token = false →
      ∀ env, evaluate (resolver env) (some expression) =
        .error (.unexpectedToken token expression)) ∧
    ((∀ token ∈ tokens expression, isKnown token = true) → ∀ env,
      (evaluate (resolver env) (some expression) = .error (.malformedComparison expression) ↔
        ∃ group, Reaches env expression group ∧ isTest group = false)) ∧
    (∀ env, Rejected env expression ↔ (∃ token ∈ tokens expression, isKnown token = false) ∨
      ∃ group, Reaches env expression group ∧ (isTest group = false ∨
        ∃ a test b problem, groupAnswer env group = .error (.refused (.unordered a test b problem)) ∧
          Writable a ∧ Writable b)) ∧
    (∀ group ∈ ((disjuncts expression).flatMap conjuncts).head?, isTest group = false →
      ∀ env, Rejected env expression) ∧
    (wellFormed expression = true → ∀ env, ∃ outcome : Except Refusal Bool,
      evaluate (resolver env) (some expression) =
        outcome.mapError (Refusal.fault expression)) := by
  refine ⟨?_, ?_, ?_, ?_, ?_⟩
  · intro before token after split known unknown env
    exact evaluate_of_unknown nonblank split known unknown
  · exact fun known env => evaluate_malformedComparison_iff nonblank known
  · exact fun env => rejected_iff nonblank
  · intro group first shapeless env
    exact (rejected_iff nonblank).mpr (.inr ⟨group, reaches_first first, .inl shapeless⟩)
  · exact fun formed env => evaluate_of_wellFormed nonblank formed

theorem evaluate_shape_symbol_first : Rejected (fun _ => .undefined) "== true" := by
  have nonblank : Text.blank "== true" = false := by decide
  exact (evaluate_shape nonblank).2.2.2.1 ["==", "true"] (by decide +kernel) (by decide) _

theorem evaluate_flag_or_symbol : wellFormed "&.flag || ==" = false ∧
    evaluate (resolver fun _ => .bool true) (some "&.flag || ==") = .ok true ∧
    evaluate (resolver fun _ => .bool false) (some "&.flag || ==") =
      .error (.malformedComparison "&.flag || ==") := by
  decide +kernel

end FieldMap.Guard
