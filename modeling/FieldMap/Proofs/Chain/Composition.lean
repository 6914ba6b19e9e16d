import FieldMap.Chain
import FieldMap.Proofs.Chain.Pieces
import FieldMap.Proofs.Outcome
import FieldMap.Proofs.Text.Cut

/-!
Chains put together. A dot between two specs leaves both chains as they are, if the first spec is
closed: the steps of one are followed by the steps of the other. Running them goes on with the second
chain where the first has ended, unless a step of the first chain ended it early or failed.
-/

namespace FieldMap
open Outcome

namespace Chain

variable {processors : Registry Processor} {modifiers : Registry Modifier}

theorem compileStep_origin {origin other : String} {piece : List Char} {step : Step}
    (compiled : compileStep origin processors modifiers piece = .ok step) :
    compileStep other processors modifiers piece = .ok step := by
  unfold compileStep at compiled ⊢
  cases cut : Text.cutAt? [':'] piece with
  | none =>
      rw [cut] at compiled
      exact compiled
  | some parts =>
      obtain ⟨name, parameters⟩ := parts
      rw [cut] at compiled
      dsimp only at compiled ⊢
      cases read : Json.readChars parameters with
      | ok v =>
          rw [read] at compiled
          exact compiled
      | error stop =>
          rw [read] at compiled
          cases stop <;> cases compiled

def stepsOf (processors : Registry Processor) (modifiers : Registry Modifier) (cs : List Char) :
    Except Fault (List Step) :=
  (splitChars cs).mapM (compileStep "" processors modifiers)

theorem compile_eq_ok {spec : String} {chain : Chain} :
    compile (some spec) processors modifiers = .ok chain ↔
      stepsOf processors modifiers spec.toList = .ok chain.steps ∧ chain.spec = some spec := by
  have origin (steps : List Step) :
      (splitChars spec.toList).mapM (compileStep spec processors modifiers) = .ok steps ↔
        stepsOf processors modifiers spec.toList = .ok steps :=
    mapM_eq_ok_congr fun _ _ _ => ⟨compileStep_origin, compileStep_origin⟩
  rw [compile, bind_eq_ok]
  simp only [Option.getD_some, origin, pure_eq, Except.ok.injEq]
  constructor
  · rintro ⟨steps, read, rfl⟩
    exact ⟨read, rfl⟩
  · rintro ⟨read, same⟩
    exact ⟨chain.steps, read, by rw [← same]⟩

theorem exists_compile_eq_ok {spec : String} :
    (∃ chain, compile (some spec) processors modifiers = .ok chain) ↔
      ∃ steps, stepsOf processors modifiers spec.toList = .ok steps := by
  constructor
  · rintro ⟨chain, compiled⟩
    exact ⟨chain.steps, (compile_eq_ok.mp compiled).1⟩
  · rintro ⟨steps, read⟩
    exact ⟨⟨some spec, steps⟩, compile_eq_ok.mpr ⟨read, rfl⟩⟩

theorem stepsOf_append_eq_ok {cs ds : List Char} (closed : Closed cs) {steps : List Step} :
    stepsOf processors modifiers (cs ++ '.' :: ds) = .ok steps ↔ ∃ before after,
      stepsOf processors modifiers cs = .ok before ∧ stepsOf processors modifiers ds = .ok after ∧
        before ++ after = steps := by
  simp only [stepsOf, splitChars_append closed, List.mapM_append, bind_eq_ok, pure_eq,
    Except.ok.injEq, exists_and_left]

theorem stepsOf_processors {cs : List Char} {names : List String}
    (pieces : splitChars cs = names.map String.toList) (unmarked : ∀ name ∈ names, ':' ∉ name.toList) :
    stepsOf processors modifiers cs =
      .ok (names.map fun name => .processor name (processors.get? name)) := by
  have step (name : String) (member : name ∈ names) :
      compileStep "" processors modifiers name.toList =
        .ok (.processor name (processors.get? name)) := by
    rw [compileStep, Text.cutAt?_of_not_mem (unmarked name member)]
    simp
  rw [stepsOf, pieces, List.mapM_map]
  exact mapM_eq_ok_map step

/-- Steps that hand a value on, none of which ends the chain. -/
inductive Passes : List Step → Value → Value → Prop
  | none (v : Value) : Passes [] v v
  | some {step : Step} {steps : List Step} {v w out : Value} (first : step.apply v = .ok (w, false))
      (rest : Passes steps w out) : Passes (step :: steps) v out

def Meets (steps : List Step) (v : Value) (outcome : Except Fault (Value × Bool)) : Prop :=
  ∃ before step after w, steps = before ++ step :: after ∧ Passes before v w ∧
    step.apply w = outcome

def Stops (steps : List Step) (v out : Value) : Prop := Meets steps v (.ok (out, true))

theorem runSteps_cons_of_pass {step : Step} {v w : Value} (first : step.apply v = .ok (w, false))
    (steps : List Step) : runSteps (step :: steps) v = runSteps steps w := by
  simp [runSteps, first]

theorem runSteps_of_passes {steps : List Step} {v w : Value} (passes : Passes steps v w)
    (others : List Step) : runSteps (steps ++ others) v = runSteps others w := by
  induction passes with
  | none v => rfl
  | some first rest ih => exact (runSteps_cons_of_pass first _).trans ih

theorem runSteps_of_meets {steps : List Step} {v : Value} {outcome : Except Fault (Value × Bool)}
    (meets : Meets steps v outcome) (ends : ∀ w, outcome ≠ .ok (w, false)) (others : List Step) :
    runSteps (steps ++ others) v = outcome := by
  obtain ⟨before, step, after, w, rfl, passes, rfl⟩ := meets
  rw [List.append_assoc, runSteps_of_passes passes, List.cons_append, runSteps]
  cases last : step.apply w with
  | error fault => rfl
  | ok reached =>
      obtain ⟨out, stopped⟩ := reached
      cases stopped with
      | true => rfl
      | false => exact absurd last (ends out)

theorem passes_or_meets (steps : List Step) (v : Value) :
    (∃ w, Passes steps v w) ∨ (∃ out, Stops steps v out) ∨ ∃ fault, Meets steps v (.error fault) := by
  -- The first step decides, unless it hands a value on.
  induction steps generalizing v with
  | nil => exact .inl ⟨v, .none v⟩
  | cons step steps ih =>
      have here {outcome} (last : step.apply v = outcome) : Meets (step :: steps) v outcome :=
        ⟨[], step, steps, v, rfl, .none v, last⟩
      cases first : step.apply v with
      | error fault => exact .inr (.inr ⟨fault, here first⟩)
      | ok reached =>
          obtain ⟨w, stopped⟩ := reached
          cases stopped with
          | true => exact .inr (.inl ⟨w, here first⟩)
          | false =>
              have later {outcome} (meets : Meets steps w outcome) :
                  Meets (step :: steps) v outcome := by
                obtain ⟨before, last, after, u, rfl, passes, outcome_eq⟩ := meets
                exact ⟨step :: before, last, after, u, rfl, .some first passes, outcome_eq⟩
              rcases ih w with ⟨out, passes⟩ | ⟨out, stops⟩ | ⟨fault, fails⟩
              · exact .inl ⟨out, .some first passes⟩
              · exact .inr (.inl ⟨out, later stops⟩)
              · exact .inr (.inr ⟨fault, later fails⟩)

theorem run_of_runSteps {chain : Chain} {v out : Value} {stopped : Bool}
    (ran : runSteps chain.steps v = .ok (out, stopped)) : chain.run v = .ok out := by
  rw [run, ran]
  rfl

theorem run_of_failed {chain : Chain} {v : Value} {fault : Fault}
    (failed : runSteps chain.steps v = .error fault) : chain.run v = .error fault := by
  rw [run, failed]
  rfl

def inTurn (entries : List (String × Processor)) (v : Value) : Except Fault Value :=
  entries.foldlM (fun v entry => entry.2 v) v

section Processors

variable {entries : List (String × Processor)}

def processorSteps (entries : List (String × Processor)) : List Step :=
  entries.map fun entry => .processor entry.1 (some entry.2)

theorem runSteps_processors (entries : List (String × Processor)) (v : Value) :
    runSteps (processorSteps entries) v = (inTurn entries v).map fun out => (out, false) := by
  induction entries generalizing v with
  | nil => rfl
  | cons entry entries ih =>
      rw [processorSteps, List.map_cons, inTurn, List.foldlM_cons]
      cases first : entry.2 v with
      | error fault => simp [runSteps, Step.apply, first, Except.map]
      | ok w =>
          have passes : (Step.processor entry.1 (some entry.2)).apply v = .ok (w, false) := by
            simp [Step.apply, first]
          rw [runSteps_cons_of_pass passes, ok_bind]
          exact ih w

theorem run_processors (spec : Option String) (entries : List (String × Processor)) (v : Value) :
    (Chain.mk spec (processorSteps entries)).run v = inTurn entries v := by
  rw [run, runSteps_processors]
  cases inTurn entries v <;> rfl

theorem compile_processors {spec : String}
    (pieces : splitChars spec.toList = entries.map fun entry => entry.1.toList)
    (unmarked : ∀ entry ∈ entries, ':' ∉ entry.1.toList)
    (registered : ∀ entry ∈ entries, processors.get? entry.1 = some entry.2) :
    compile (some spec) processors modifiers = .ok ⟨some spec, processorSteps entries⟩ := by
  have names : splitChars spec.toList = (entries.map Prod.fst).map String.toList := by
    rw [pieces, List.map_map]
    rfl
  have steps : stepsOf processors modifiers spec.toList = .ok (processorSteps entries) := by
    rw [stepsOf_processors names (by simpa using unmarked), List.map_map]
    congr 1
    apply List.map_congr_left
    intro entry member
    simp [registered entry member]
  exact compile_eq_ok.mpr ⟨steps, rfl⟩

end Processors

section Append

variable {whole first second : Chain} {v : Value}

theorem run_of_stops (joined : whole.steps = first.steps ++ second.steps) {out : Value}
    (stops : Stops first.steps v out) : first.run v = .ok out ∧ whole.run v = .ok out := by
  have stopped := runSteps_of_meets stops (by nofun)
  constructor
  · exact run_of_runSteps (first.steps.append_nil ▸ stopped [])
  · exact run_of_runSteps (joined ▸ stopped second.steps)

theorem run_of_fails (joined : whole.steps = first.steps ++ second.steps) {fault : Fault}
    (fails : Meets first.steps v (.error fault)) :
    first.run v = .error fault ∧ whole.run v = .error fault := by
  have failed := runSteps_of_meets fails (by nofun)
  constructor
  · exact run_of_failed (first.steps.append_nil ▸ failed [])
  · exact run_of_failed (joined ▸ failed second.steps)

theorem run_of_passes (joined : whole.steps = first.steps ++ second.steps) {w : Value}
    (passes : Passes first.steps v w) : first.run v = .ok w ∧ whole.run v = second.run w := by
  have passed := runSteps_of_passes passes
  constructor
  · exact run_of_runSteps (first.steps.append_nil ▸ passed [])
  · rw [run, run, joined, passed]

theorem run_joined (joined : whole.steps = first.steps ++ second.steps) (v : Value) :
    (∀ fault, first.run v = .error fault → whole.run v = .error fault) ∧
    (∀ out, Stops first.steps v out → first.run v = .ok out ∧ whole.run v = .ok out) ∧
    (∀ w, first.run v = .ok w → (∀ out, ¬ Stops first.steps v out) → whole.run v = second.run w) := by
  refine ⟨?_, fun out => run_of_stops joined, ?_⟩
  · intro fault failed
    rcases passes_or_meets first.steps v with ⟨w, passes⟩ | ⟨out, stops⟩ | ⟨other, fails⟩
    · rw [(run_of_passes joined passes).1] at failed
      cases failed
    · rw [(run_of_stops joined stops).1] at failed
      cases failed
    · rw [(run_of_fails joined fails).2, ← (run_of_fails joined fails).1, failed]
  · intro w ran goes
    rcases passes_or_meets first.steps v with ⟨u, passes⟩ | ⟨out, stops⟩ | ⟨other, fails⟩
    · obtain ⟨reached, onward⟩ := run_of_passes joined passes
      rw [reached] at ran
      cases ran
      exact onward
    · exact absurd stops (goes out)
    · rw [(run_of_fails joined fails).1] at ran
      cases ran

end Append

theorem compile_joined {a : String} (closed : Closed a.toList) (b : String)
    (processors : Registry Processor) (modifiers : Registry Modifier) :
    let compiled (spec : String) := compile (some spec) processors modifiers
    ((∃ whole, compiled (a ++ "." ++ b) = .ok whole) ↔
      (∃ first, compiled a = .ok first) ∧ ∃ second, compiled b = .ok second) ∧
    ∀ whole first second, compiled (a ++ "." ++ b) = .ok whole → compiled a = .ok first →
      compiled b = .ok second → whole.steps = first.steps ++ second.steps ∧ ∀ v,
        (∀ fault, first.run v = .error fault → whole.run v = .error fault) ∧
        (∀ out, Stops first.steps v out → first.run v = .ok out ∧ whole.run v = .ok out) ∧
        (∀ w, first.run v = .ok w → (∀ out, ¬ Stops first.steps v out) →
          whole.run v = second.run w) := by
  intro compiled
  have text : (a ++ "." ++ b).toList = a.toList ++ '.' :: b.toList := by simp
  constructor
  · simp only [compiled, exists_compile_eq_ok, text, stepsOf_append_eq_ok closed]
    constructor
    · rintro ⟨-, before, after, left, right, -⟩
      exact ⟨⟨before, left⟩, after, right⟩
    · rintro ⟨⟨before, left⟩, after, right⟩
      exact ⟨_, before, after, left, right, rfl⟩
  · intro whole first second wholeCompiled firstCompiled secondCompiled
    have joined : whole.steps = first.steps ++ second.steps := by
      have read := (compile_eq_ok.mp wholeCompiled).1
      rw [text] at read
      obtain ⟨before, after, left, right, joined⟩ := (stepsOf_append_eq_ok closed).mp read
      rw [(compile_eq_ok.mp firstCompiled).1] at left
      rw [(compile_eq_ok.mp secondCompiled).1] at right
      cases left
      cases right
      exact joined.symm
    exact ⟨joined, run_joined joined⟩

theorem compile_joined_skip :
    let processors := (Registry.empty "processor").withAll Processor.standard
    let modifiers := (Registry.empty "modifier").withAll Modifier.standard
    ∃ whole first second,
      compile (some ("skip:[0, 1].trim" ++ "." ++ "upper")) processors modifiers = .ok whole ∧
      compile (some "skip:[0, 1].trim") processors modifiers = .ok first ∧
      compile (some "upper") processors modifiers = .ok second ∧
      whole.steps = first.steps ++ second.steps ∧ whole.run (.int 1) = .ok (.int 1) := by
  intro processors modifiers
  have closed : Closed "skip:[0, 1].trim".toList := by decide +kernel
  obtain ⟨compiles, runs⟩ := compile_joined closed "upper" processors modifiers
  have firstPieces : splitChars "skip:[0, 1].trim".toList =
      [['s', 'k', 'i', 'p', ':', '[', '0', ',', ' ', '1', ']'], ['t', 'r', 'i', 'm']] := by
    decide +kernel
  have secondPieces : splitChars "upper".toList = [['u', 'p', 'p', 'e', 'r']] := by decide +kernel
  have first : compile (some "skip:[0, 1].trim") processors modifiers =
      .ok ⟨some "skip:[0, 1].trim", [.modifier "skip" (.list [.int 0, .int 1]) (some Modifier.skip),
        .processor "trim" (some (Processor.onText Text.stripChars))]⟩ := by
    rw [compile, Option.getD_some, firstPieces]
    rfl
  have second : compile (some "upper") processors modifiers =
      .ok ⟨some "upper", [.processor "upper" (some (Processor.onText Text.upper))]⟩ := by
    rw [compile, Option.getD_some, secondPieces]
    rfl
  obtain ⟨whole, compiled⟩ := compiles.mpr ⟨⟨_, first⟩, _, second⟩
  obtain ⟨joined, run⟩ := runs whole _ _ compiled first second
  have stops : Stops [.modifier "skip" (.list [.int 0, .int 1]) (some Modifier.skip),
      .processor "trim" (some (Processor.onText Text.stripChars))] (.int 1) (.int 1) :=
    ⟨[], _, _, _, rfl, .none _, rfl⟩
  exact ⟨whole, _, _, compiled, first, second, joined, ((run (.int 1)).2.1 (.int 1) stops).2⟩

end Chain

end FieldMap
