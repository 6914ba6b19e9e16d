import FieldMap.Proofs.Guard.Shape

/-!
What a guard reads. All of its references are resolved before anything is judged, from left to right
and as often as they stand there, up to the first unknown token or the first reference that cannot be
resolved. Main statement: what is read does not depend on the values that are found, and judging reads
nothing more.
-/

namespace FieldMap.Guard
open Outcome

def external? (token : String) : Option Reference :=
  let reference := Reference.parse token
  if reference.isExternal then some reference else none

def referencesIn (tokens : List String) : List Reference :=
  (tokens.takeWhile isKnown).filterMap external?

def references : Option String → List Reference
  | none => []
  | some expression => referencesIn (tokens expression)

variable {resolve : Reference → Except Fault Value} {origin token : String}

theorem external?_of_reference {reference : Reference}
    (word : Word.ofToken token = .reference reference) : external? token = some reference := by
  unfold Word.ofToken at word
  split at word
  · cases word
  · dsimp only at word
    split at word
    · next external =>
        cases word
        rw [external?, if_pos external]
    · split at word <;> cases word

theorem external?_eq_none (word : ∀ reference, Word.ofToken token ≠ .reference reference) :
    external? token = none := by
  rw [external?, if_neg]
  intro external
  -- A reference has a dot, and no operator has one.
  obtain ⟨c, before, after, split, -⟩ := Reference.parse_external external
  have dot : '.' ∈ token.toList := by simp [split]
  have plain := operatorOf?_of_foreign dot (by decide)
  rw [String.ofList_toList] at plain
  apply word (.parse token)
  rw [Word.ofToken, plain]
  exact if_pos external

theorem referencesIn_cons (token : String) (tokens : List String) :
    referencesIn (token :: tokens) =
      match Word.ofToken token with
      | .unknown => []
      | .reference reference => reference :: referencesIn tokens
      | _ => referencesIn tokens := by
  rw [referencesIn, List.takeWhile_cons, isKnown]
  cases word : Word.ofToken token with
  | unknown => rfl
  | reference reference =>
      rw [if_pos rfl, List.filterMap_cons_some (external?_of_reference word)]
      rfl
  | operator part =>
      rw [if_pos rfl, List.filterMap_cons_none (external?_eq_none (by simp [word]))]
      rfl
  | literal v =>
      rw [if_pos rfl, List.filterMap_cons_none (external?_eq_none (by simp [word]))]
      rfl

theorem mem_references {expression : Option String} {reference : Reference}
    (member : reference ∈ references expression) :
    reference ∈ (expression.toList.flatMap tokens).map Reference.parse := by
  cases expression with
  | none => cases member
  | some expression =>
      obtain ⟨token, known, found⟩ := List.mem_filterMap.mp member
      have parsed : Reference.parse token = reference := by
        unfold external? at found
        dsimp only at found
        split at found
        · exact Option.some.inj found
        · cases found
      have among := (List.takeWhile_sublist isKnown).mem known
      exact List.mem_map.mpr ⟨token, by simpa using among, parsed⟩

theorem consult_congr {other : Reference → Except Fault Value} {tokens : List String}
    (agree : ∀ reference ∈ referencesIn tokens, resolve reference = other reference) :
    consult resolve origin tokens = consult other origin tokens := by
  induction tokens with
  | nil => rfl
  | cons token tokens ih =>
      rw [referencesIn_cons] at agree
      rw [consult, consult]
      cases word : Word.ofToken token with
      | unknown => rfl
      | operator part | literal v =>
          rw [word] at agree
          simp only [ih agree]
      | reference reference =>
          rw [word] at agree
          obtain ⟨here, later⟩ := List.forall_mem_cons.mp agree
          simp only [here, ih later]

theorem resolved_consult {tokens : List String}
    (returns : ∀ reference ∈ referencesIn tokens, ∃ v, resolve reference = .ok v) :
    (consult resolve origin tokens).resolved = referencesIn tokens := by
  induction tokens with
  | nil => rfl
  | cons token tokens ih =>
      rw [referencesIn_cons] at returns ⊢
      rw [consult]
      cases word : Word.ofToken token with
      | unknown => rfl
      | operator part | literal v =>
          rw [word] at returns
          exact ih returns
      | reference reference =>
          rw [word] at returns
          obtain ⟨⟨v, here⟩, later⟩ := List.forall_mem_cons.mp returns
          simp only [here]
          exact congrArg (reference :: ·) (ih later)

theorem consult_of_fails {tokens : List String} {before after : List Reference}
    {reference : Reference} {fault : Fault}
    (split : referencesIn tokens = before ++ reference :: after)
    (returns : ∀ earlier ∈ before, ∃ v, resolve earlier = .ok v)
    (fails : resolve reference = .error fault) :
    consult resolve origin tokens = ⟨before ++ [reference], .error fault⟩ := by
  induction tokens generalizing before with
  | nil => simp [referencesIn] at split
  | cons token tokens ih =>
      rw [referencesIn_cons] at split
      rw [consult]
      cases word : Word.ofToken token with
      | unknown => simp [word] at split
      | operator part | literal v =>
          rw [word] at split
          dsimp only
          rw [ih split returns]
          rfl
      | reference first =>
          rw [word] at split
          cases before with
          | nil =>
              obtain ⟨rfl, -⟩ := List.cons.inj split
              simp only [fails]
              rfl
          | cons earlier before =>
              obtain ⟨rfl, rest⟩ := List.cons.inj split
              obtain ⟨⟨v, here⟩, others⟩ := List.forall_mem_cons.mp returns
              simp only [here]
              rw [ih rest others]
              rfl

theorem evaluate_of_fails {expression : String} {fault : Fault}
    (fails : (consultation resolve expression).outcome = .error fault) :
    evaluate resolve (some expression) = .error fault := by
  have nonblank : Text.blank expression = false := by
    rw [Bool.eq_false_iff]
    intro blank
    rw [consultation, tokens_of_blank blank] at fails
    cases fails
  rw [evaluate, nonblank, if_neg Bool.false_ne_true, fails]
  rfl

theorem evaluate_congr {other : Reference → Except Fault Value} {expression : Option String}
    (agree : ∀ reference ∈ references expression, resolve reference = other reference) :
    resolved resolve expression = resolved other expression ∧
      evaluate resolve expression = evaluate other expression := by
  cases expression with
  | none => exact ⟨rfl, rfl⟩
  | some expression =>
      have same : consultation resolve expression = consultation other expression :=
        consult_congr agree
      rw [resolved, resolved, evaluate, evaluate, same]
      exact ⟨rfl, rfl⟩

theorem resolved_independent (expression : Option String) :
    (∀ resolve, (∀ reference ∈ references expression, ∃ v, resolve reference = .ok v) →
      resolved resolve expression = references expression) ∧
    (∀ resolve before reference after fault, references expression = before ++ reference :: after →
      (∀ earlier ∈ before, ∃ v, resolve earlier = .ok v) → resolve reference = .error fault →
      resolved resolve expression = before ++ [reference] ∧
        evaluate resolve expression = .error fault) ∧
    ∀ resolve other, (∀ reference ∈ references expression, resolve reference = other reference) →
      resolved resolve expression = resolved other expression ∧
        evaluate resolve expression = evaluate other expression := by
  refine ⟨?_, ?_, fun resolve other => evaluate_congr⟩
  · intro resolve returns
    cases expression with
    | none => rfl
    | some expression => exact resolved_consult returns
  · intro resolve before reference after fault split returns fails
    cases expression with
    | none => simp [references] at split
    | some expression =>
        have ended : consultation resolve expression = ⟨before ++ [reference], .error fault⟩ :=
          consult_of_fails split returns fails
        exact ⟨by rw [resolved, ended], evaluate_of_fails (by rw [ended])⟩

/-- A reference that stands twice is resolved twice, even in a guard of no sensible shape. What comes
after the unknown token is not looked at. -/
theorem resolved_independent_twice :
    let age := Reference.parse "@user.age"
    let flag := Reference.parse "&.flag"
    let guard := some "@user.age > 3 && || &.flag @user.age oops ^.late"
    let nothing (_ : Reference) : Except Fault Value := .ok .null
    let flagless (reference : Reference) : Except Fault Value :=
      if reference = flag then .error .emptyText else .ok .null
    let late (reference : Reference) : Except Fault Value :=
      if reference = .parse "^.late" then .error .emptyText else .ok .null
    references guard = [age, flag, age] ∧ resolved nothing guard = [age, flag, age] ∧
      resolved flagless guard = [age, flag] ∧ evaluate flagless guard = .error .emptyText ∧
      resolved late guard = resolved nothing guard ∧ evaluate late guard = evaluate nothing guard := by
  intro age flag guard nothing flagless late
  have listed : references guard = [age, flag, age] := by decide +kernel
  obtain ⟨returning, failing, agreeing⟩ := resolved_independent guard
  have all := returning nothing fun _ _ => ⟨_, rfl⟩
  have first : flagless age = .ok .null := if_neg (by decide +kernel)
  have second : flagless flag = .error .emptyText := if_pos rfl
  obtain ⟨ended, fails⟩ :=
    failing flagless [age] flag [age] _ listed (by simp [first]) second
  have sameAge : late age = nothing age := if_neg (by decide +kernel)
  have sameFlag : late flag = nothing flag := if_neg (by decide +kernel)
  obtain ⟨read, answered⟩ := agreeing late nothing (by simp [listed, sameAge, sameFlag])
  exact ⟨listed, all.trans listed, ended, fails, read, answered⟩

end FieldMap.Guard
