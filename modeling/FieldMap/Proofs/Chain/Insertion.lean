import FieldMap.Proofs.Chain.Cutting
import FieldMap.Proofs.Chain.Parameters
import FieldMap.Proofs.Chain.Written

/-!
Names that are not registered, put between two chains. A modifier that is not registered is passed over,
and a processor that is not registered loses the value that the chain before it found. Main statement:
what the chain gives then, and which names it misses.
-/

namespace FieldMap.Chain
open Outcome

theorem closed_of_run {cs : List Char} (ran : Scan.start.run cs = .start) : Closed cs := by
  rw [Closed, ran]
  rfl

theorem closed_of_plain {cs : List Char} (plain : ∀ c ∈ cs, c ∉ marks) : Closed cs :=
  closed_of_run (Scan.run_start plain)

theorem closed_of_splitChars {cs token : List Char} (single : splitChars cs = [token])
    (closed : Closed token) : Closed cs := by
  have cutting := isCutting_pieces cs
  obtain ⟨before, last, split⟩ := (List.eq_nil_or_concat' _).resolve_left cutting.nonempty
  rw [split] at cutting
  rw [cutting.closed_iff, ← closed_stripChars]
  by_cases blank : Text.stripChars last = []
  · rw [blank]
    exact closed_of_run rfl
  · have listed : last ∈ pieces .start cs := by simp [split]
    have kept : Text.stripChars last ∈ splitChars cs :=
      List.mem_filter.mpr ⟨List.mem_map_of_mem listed, by simpa using blank⟩
    rw [single, List.mem_singleton] at kept
    rwa [kept]

theorem Name.not_mem_marks (u : Name) : ∀ c ∈ u.text.toList, c ∉ marks :=
  fun c member => List.not_mem_of_not_mem_cons (u.plain c member)

section Steps

variable (u : Name) (processors : Registry Processor) (modifiers : Registry Modifier)

section Modifier

variable {params kept : List Char} {v : Value}
  (single : splitChars (u.text.toList ++ ':' :: params) = [u.text.toList ++ ':' :: kept])
  (read : Json.readChars kept = .ok v)
include single read

theorem closed_modifier : Closed (u.text.toList ++ ':' :: params) := by
  apply closed_of_splitChars single
  apply closed_of_run
  calc Scan.start.run (u.text.toList ++ ':' :: kept) = Scan.start.run (':' :: kept) :=
        run_append_plain (fun c member => not_mem_delimiters (u.not_mem_marks c member)) _
    _ = Scan.start.run kept := run_plain (by decide)
    _ = .start := run_readChars read 0

theorem stepsOf_modifier : stepsOf processors modifiers (u.text.toList ++ ':' :: params) =
    .ok [.modifier u.text v (modifiers.get? u.text)] := by
  rw [stepsOf, single, List.mapM_cons, compileStep_modifier u.uncut _ _ _ read]
  simp

end Modifier

theorem stepsOf_processor :
    stepsOf processors modifiers u.text.toList = .ok [.processor u.text (processors.get? u.text)] := by
  have single := splitChars_of_plain u.toList_ne_nil u.not_mem_marks
    (Text.stripChars_eq_self u.first u.last)
  exact stepsOf_processors single (List.forall_mem_singleton.mpr u.uncut)

end Steps

theorem compile_append {a b : String} (closed : Closed a.toList) {processors : Registry Processor}
    {modifiers : Registry Modifier} {before after : List Step}
    (first : stepsOf processors modifiers a.toList = .ok before)
    (second : stepsOf processors modifiers b.toList = .ok after) :
    compile (some (a ++ "." ++ b)) processors modifiers =
      .ok ⟨some (a ++ "." ++ b), before ++ after⟩ := by
  have joined := (stepsOf_append_eq_ok closed).mpr ⟨before, after, first, second, rfl⟩
  exact compile_eq_ok.mpr ⟨by simpa using joined, rfl⟩

theorem stepsOf_inserted {processors : Registry Processor} {modifiers : Registry Modifier}
    {cs middle ds : List Char} {before after : List Step} {step : Step} (closed : Closed cs)
    (first : stepsOf processors modifiers cs = .ok before) (inserted : Closed middle)
    (between : stepsOf processors modifiers middle = .ok [step])
    (second : stepsOf processors modifiers ds = .ok after) :
    stepsOf processors modifiers (cs ++ '.' :: (middle ++ '.' :: ds)) =
      .ok (before ++ step :: after) :=
  (stepsOf_append_eq_ok closed).mpr ⟨before, step :: after, first,
    (stepsOf_append_eq_ok inserted).mpr ⟨[step], after, between, second, rfl⟩, rfl⟩

theorem missing_inserted (spec : Option String) (first second : Chain) {step : Step}
    (unregistered : step.isRegistered = false) :
    Chain.missing ⟨spec, first.steps ++ step :: second.steps⟩ =
      first.missing ++ step.name :: second.missing := by
  simp [missing, unregistered]

theorem runSteps_append_congr {second other : List Step}
    (same : ∀ v, runSteps second v = runSteps other v) (first : List Step) (v : Value) :
    runSteps (first ++ second) v = runSteps (first ++ other) v := by
  rcases passes_or_meets first v with ⟨w, passes⟩ | ⟨out, stops⟩ | ⟨fault, fails⟩
  · rw [runSteps_of_passes passes, runSteps_of_passes passes, same]
  · rw [runSteps_of_meets stops nofun, runSteps_of_meets stops nofun]
  · rw [runSteps_of_meets fails nofun, runSteps_of_meets fails nofun]

theorem runSteps_unregistered_modifier (first second : List Step) (name : String)
    (parameters v : Value) :
    runSteps (first ++ .modifier name parameters none :: second) v = runSteps (first ++ second) v :=
  runSteps_append_congr (fun _ => runSteps_cons_of_pass rfl second) first v

theorem run_unregistered_processor {whole first second : Chain} {name : String}
    (steps : whole.steps = first.steps ++ .processor name none :: second.steps) (v : Value) :
    (∀ fault, first.run v = .error fault → whole.run v = .error fault) ∧
    (∀ out, Stops first.steps v out → first.run v = .ok out ∧ whole.run v = .ok out) ∧
    ∀ w, first.run v = .ok w → (∀ out, ¬ Stops first.steps v out) →
      whole.run v = second.run .undefined := by
  let lost : Chain := ⟨none, .processor name none :: second.steps⟩
  have joined : whole.steps = first.steps ++ lost.steps := steps
  obtain ⟨fails, stops, goes⟩ := run_joined joined v
  have undefined (w : Value) : lost.run w = second.run .undefined := by
    rw [run, run, runSteps_cons_of_pass rfl]
  exact ⟨fails, stops, fun w ran passes => (goes w ran passes).trans (undefined w)⟩

theorem splitChars_of_split {spec token : String} (single : split spec = [token]) :
    splitChars spec.toList = [token.toList] := by
  obtain ⟨cs, tokens, kept⟩ := List.map_eq_singleton_iff.mp single
  rw [tokens, ← kept, String.toList_ofList]

theorem compile_inserted {a b : String} (closed : Closed a.toList) (u : Name)
    {processors : Registry Processor} {modifiers : Registry Modifier} {first second : Chain}
    (compiledFirst : compile (some a) processors modifiers = .ok first)
    (compiledSecond : compile (some b) processors modifiers = .ok second) :
    let compiled (spec : String) := compile (some spec) processors modifiers
    (∀ params kept parameters, modifiers.get? u.text = none →
      split (u.text ++ ":" ++ params) = [u.text ++ ":" ++ kept] → Json.read kept = .ok parameters →
      ∃ joined inserted, compiled (a ++ "." ++ b) = .ok joined ∧
        compiled (a ++ "." ++ (u.text ++ ":" ++ params) ++ "." ++ b) = .ok inserted ∧
        inserted.missing = first.missing ++ u.text :: second.missing ∧
        ∀ v, inserted.run v = joined.run v) ∧
    (processors.get? u.text = none →
      ∃ inserted, compiled (a ++ "." ++ u.text ++ "." ++ b) = .ok inserted ∧
        inserted.missing = first.missing ++ u.text :: second.missing ∧ ∀ v,
          (∀ fault, first.run v = .error fault → inserted.run v = .error fault) ∧
          (∀ out, Stops first.steps v out → first.run v = .ok out ∧ inserted.run v = .ok out) ∧
          ∀ w, first.run v = .ok w → (∀ out, ¬ Stops first.steps v out) →
            inserted.run v = second.run .undefined) := by
  intro compiled
  have firstSteps := (compile_eq_ok.mp compiledFirst).1
  have secondSteps := (compile_eq_ok.mp compiledSecond).1
  have text (middle : String) : (a ++ "." ++ middle ++ "." ++ b).toList =
      a.toList ++ '.' :: (middle.toList ++ '.' :: b.toList) := by simp
  constructor
  · intro params kept parameters unregistered single read
    have chars (params : String) :
        (u.text ++ ":" ++ params).toList = u.text.toList ++ ':' :: params.toList := by simp
    have token := splitChars_of_split single
    rw [chars, chars] at token
    have middle := stepsOf_modifier u processors modifiers token read
    have inserted := stepsOf_inserted closed firstSteps (closed_modifier u token read) middle secondSteps
    rw [← chars, ← text, unregistered] at inserted
    refine ⟨_, ⟨_, _⟩, compile_append closed firstSteps secondSteps,
      compile_eq_ok.mpr ⟨inserted, rfl⟩, missing_inserted _ first second rfl, ?_⟩
    intro v
    rw [run, run, runSteps_unregistered_modifier]
  · intro unregistered
    have inserted := stepsOf_inserted closed firstSteps (closed_of_plain u.not_mem_marks)
      (stepsOf_processor u _ _) secondSteps
    rw [← text, unregistered] at inserted
    exact ⟨⟨_, _⟩, compile_eq_ok.mpr ⟨inserted, rfl⟩, missing_inserted _ first second rfl,
      fun v => run_unregistered_processor rfl v⟩

def mute : Name where
  text := "mute"
  nonempty := by decide
  plain _ member := Text.not_mem_of_mem member (by decide +kernel)
  first := by
    rintro c ⟨⟩
    decide
  last := by
    rintro c ⟨⟩
    decide

theorem compile_inserted_mute :
    let processors := (Registry.empty "processor").withAll Processor.standard
    let modifiers := (Registry.empty "modifier").withAll Modifier.standard
    (∃ joined inserted,
      compile (some ("skip:[0].trim" ++ "." ++ "upper")) processors modifiers = .ok joined ∧
      compile (some ("skip:[0].trim" ++ "." ++ (mute.text ++ ":" ++ "[\"a.b\"] ") ++ "." ++ "upper"))
        processors modifiers = .ok inserted ∧
      inserted.missing = ["mute"] ∧ inserted.run (.int 1) = joined.run (.int 1)) ∧
    ∃ inserted,
      compile (some ("skip:[0].trim" ++ "." ++ mute.text ++ "." ++ "upper")) processors modifiers =
        .ok inserted ∧
      inserted.missing = ["mute"] ∧ inserted.run (.int 0) = .ok (.int 0) ∧
      inserted.run (.int 1) = .ok .undefined := by
  intro processors modifiers
  let skipping : List Step := [.modifier "skip" (.list [.int 0]) (some Modifier.skip),
    .processor "trim" (some (Processor.onText Text.stripChars))]
  have closed : Closed "skip:[0].trim".toList := by decide +kernel
  have firstPieces : splitChars "skip:[0].trim".toList =
      [['s', 'k', 'i', 'p', ':', '[', '0', ']'], ['t', 'r', 'i', 'm']] := by decide +kernel
  have secondPieces : splitChars "upper".toList = [['u', 'p', 'p', 'e', 'r']] := by decide +kernel
  have first : compile (some "skip:[0].trim") processors modifiers =
      .ok ⟨some "skip:[0].trim", skipping⟩ := by
    rw [compile, Option.getD_some, firstPieces]
    rfl
  have second : compile (some "upper") processors modifiers =
      .ok ⟨some "upper", [.processor "upper" (some (Processor.onText Text.upper))]⟩ := by
    rw [compile, Option.getD_some, secondPieces]
    rfl
  obtain ⟨skipped, lost⟩ := compile_inserted closed mute first second
  have single : split (mute.text ++ ":" ++ "[\"a.b\"] ") = [mute.text ++ ":" ++ "[\"a.b\"]"] := by
    decide +kernel
  have read : Json.read "[\"a.b\"]" = .ok (.list [.text "a.b"]) := by
    have unsplit : Json.Unsplit "a.b".toList := by
      unfold Json.Unsplit
      decide +kernel
    have fits : Json.Fits Json.levelLimit (.list [.text "a.b"]) := by
      refine .list fun item member => ?_
      rw [List.mem_singleton.mp member]
      exact .text unsplit
    have text : "[\"a.b\"]".toList = Json.form (.list [.text "a.b"]) := by decide +kernel
    rw [Json.read, text]
    exact Json.readChars_form fits
  constructor
  · obtain ⟨joined, inserted, joins, compiled, missing, runs⟩ := skipped _ _ _ rfl single read
    exact ⟨joined, inserted, joins, compiled, missing, runs _⟩
  · obtain ⟨inserted, compiled, missing, runs⟩ := lost rfl
    have stops : Stops skipping (.int 0) (.int 0) := ⟨[], _, _, _, rfl, .none _, rfl⟩
    have passes : ∀ out, ¬ Stops skipping (.int 1) out := by
      intro out stopped
      have ended := runSteps_of_meets stopped nofun []
      have ran : runSteps (skipping ++ []) (.int 1) = .ok (.int 1, false) := rfl
      rw [ran] at ended
      cases ended
    exact ⟨inserted, compiled, missing, ((runs _).2.1 _ stops).2, (runs _).2.2 (.int 1) rfl passes⟩

theorem compile_fails {a middle : String} (closed : Closed a.toList) (inserted : Closed middle.toList)
    (b : String) {processors : Registry Processor} {modifiers : Registry Modifier} {before : List Step}
    {piece : List Char} {fault : Fault} (first : stepsOf processors modifiers a.toList = .ok before)
    (single : splitChars middle.toList = [piece])
    (fails : ∀ origin, compileStep origin processors modifiers piece = .error fault) :
    compile (some (a ++ "." ++ middle ++ "." ++ b)) processors modifiers = .error fault := by
  have earlier (origin : String) :
      (splitChars a.toList).mapM (compileStep origin processors modifiers) = .ok before :=
    (mapM_eq_ok_congr fun _ _ _ => ⟨compileStep_origin, compileStep_origin⟩).mpr first
  have text : (a ++ "." ++ middle ++ "." ++ b).toList =
      a.toList ++ '.' :: (middle.toList ++ '.' :: b.toList) := by simp
  rw [compile, Option.getD_some, text, splitChars_append closed, splitChars_append inserted, single,
    List.mapM_append, earlier]
  simp [fails]

section LongParameter

variable (u : Name) {first : Char} {digits : List Char}
  (clean : ∀ c ∈ first :: digits, c.isDigit = true)
include clean

theorem plain_of_digits : ∀ c ∈ u.text.toList ++ ':' :: first :: digits, c ∉ marks := by
  intro c member
  rcases List.mem_append.mp member with name | rest
  · exact u.not_mem_marks c name
  · rcases List.mem_cons.mp rest with rfl | digit
    · decide
    · exact Text.not_mem_of_class (clean c digit) (by decide)

theorem splitChars_of_digits : splitChars (u.text.toList ++ ':' :: first :: digits) =
    [u.text.toList ++ ':' :: first :: digits] := by
  apply splitChars_of_plain (by simp) (plain_of_digits u clean)
  apply Text.stripChars_eq_self
  · rw [List.head?_append_of_ne_nil _ u.toList_ne_nil]
    exact u.first
  · intro c last
    rw [List.getLast?_append_of_ne_nil _ (List.cons_ne_nil _ _), List.getLast?_cons_cons] at last
    exact Json.solid_of_isDigit (clean c (List.mem_of_getLast? last))

theorem compile_long_digits (leading : first ≠ '0')
    (long : Number.digitLimit < (first :: digits).length) {a params : String}
    (closed : Closed a.toList) (chars : params.toList = first :: digits) (b : String)
    {processors : Registry Processor} {modifiers : Registry Modifier} {before : List Step}
    (steps : stepsOf processors modifiers a.toList = .ok before) :
    split (u.text ++ ":" ++ params) = [u.text ++ ":" ++ params] ∧
    compile (some (a ++ "." ++ (u.text ++ ":" ++ params) ++ "." ++ b)) processors modifiers =
      .error (.digitLimit (some (first :: digits).length)) := by
  have text : (u.text ++ ":" ++ params).toList = u.text.toList ++ ':' :: first :: digits := by
    simp [chars]
  have single := splitChars_of_digits u clean
  have exceeded := Json.readChars_of_long_digits clean leading long
  constructor
  · rw [split, text, single, List.map_singleton, ← text, String.ofList_toList]
  · have inserted := closed_of_plain (plain_of_digits u clean)
    rw [← text] at inserted single
    refine compile_fails closed inserted b steps single fun origin => ?_
    rw [text]
    exact compileStep_exceeded u.uncut _ _ _ exceeded

end LongParameter

/-- A whole number of one digit too many keeps a spec from compiling, though nothing is to read it. -/
theorem compile_inserted_beyond :
    let params := String.ofList ('9' :: List.replicate Number.digitLimit '9')
    let compiled (spec : String) := compile (some spec) (.empty "processor") (.empty "modifier")
    Closed "trim".toList ∧ Closed "upper".toList ∧ (∀ c ∈ params.toList, c = '9') ∧
      split (mute.text ++ ":" ++ params) = [mute.text ++ ":" ++ params] ∧
      ((∃ first, compiled "trim" = .ok first) ∧ ∃ second, compiled "upper" = .ok second) ∧
      (∃ joined, compiled ("trim" ++ "." ++ "upper") = .ok joined) ∧
      compiled ("trim" ++ "." ++ (mute.text ++ ":" ++ params) ++ "." ++ "upper") =
        .error (.digitLimit (some (Number.digitLimit + 1))) := by
  intro params compiled
  have closedTrim : Closed "trim".toList := by decide +kernel
  have trimPieces : splitChars "trim".toList = [['t', 'r', 'i', 'm']] := by decide +kernel
  have upperPieces : splitChars "upper".toList = [['u', 'p', 'p', 'e', 'r']] := by decide +kernel
  have trim : stepsOf (.empty "processor") (.empty "modifier") "trim".toList =
      .ok [.processor "trim" none] := by
    rw [stepsOf, trimPieces]
    rfl
  have upper : stepsOf (.empty "processor") (.empty "modifier") "upper".toList =
      .ok [.processor "upper" none] := by
    rw [stepsOf, upperPieces]
    rfl
  have nine : ∀ c ∈ '9' :: List.replicate Number.digitLimit '9', c = '9' := by
    intro c member
    rw [← List.replicate_succ] at member
    exact List.eq_of_mem_replicate member
  have clean : ∀ c ∈ '9' :: List.replicate Number.digitLimit '9', c.isDigit = true := by
    intro c member
    rw [nine c member]
    decide
  obtain ⟨single, fails⟩ := compile_long_digits mute clean (by decide) (by simp) closedTrim
    String.toList_ofList "upper" trim
  rw [List.length_cons, List.length_replicate] at fails
  refine ⟨closedTrim, by decide +kernel, ?_, single, ?_, ?_, fails⟩
  · rw [String.toList_ofList]
    exact nine
  · exact ⟨exists_compile_eq_ok.mpr ⟨_, trim⟩, exists_compile_eq_ok.mpr ⟨_, upper⟩⟩
  · exact ⟨_, compile_append closedTrim trim upper⟩

end FieldMap.Chain
