import FieldMap.Proofs.Isolation

/-!
What becomes of one entry of a field mapping. Its guard does not hold, or it cannot be judged, or
the entry has one output, and its issues tell what went wrong on the way, in a fixed order. Main
statement: every entry that does not end the extraction has exactly one such account, and the
extraction holds what the account says about the entry and nothing else about it.
-/

namespace FieldMap
open Outcome

/-! ## Chains -/

namespace Chain

variable {origin : String} {processors : Registry Processor} {modifiers : Registry Modifier}
  {fault : Fault}

def Damaged (origin : String) (piece : List Char) (fault : Fault) : Prop :=
  ∃ name parameters problem remaining, Text.cutAt? [':'] piece = some (name, parameters) ∧
    Json.readChars parameters = .error (.malformed problem remaining) ∧
    fault = .badParameters (String.ofList name) (String.ofList parameters) problem origin

def Malformed (spec : Option String) (fault : Fault) : Prop :=
  ∃ before piece after, splitChars (spec.getD "").toList = before ++ piece :: after ∧
    (∀ p ∈ before, Readable p) ∧ Damaged (spec.getD "") piece fault

theorem malformed_iff {spec : Option String} :
    Malformed spec fault ↔
      compile spec processors modifiers = .error fault ∧ fault.family = .malformedSpec := by
  unfold compile
  dsimp only
  rw [bind_eq_error, mapM_eq_error]
  constructor
  · rintro ⟨before, piece, after, split, good, damaged⟩
    refine ⟨.inl ⟨before, piece, after, split, ?_, compileStep_error_iff.mpr (.inr damaged)⟩, ?_⟩
    · exact fun p member => compileStep_ok_iff.mpr (good p member)
    · obtain ⟨_, _, _, _, -, -, rfl⟩ := damaged
      rfl
  · rintro ⟨⟨before, piece, after, split, good, fails⟩ | ⟨_, -, returned⟩, family⟩
    · rcases compileStep_error_iff.mp fails with exceeds | damaged
      · rcases isLimit_family exceeds.isLimit with limit | limit <;> simp [limit] at family
      · exact ⟨before, piece, after, split, fun p member => compileStep_ok_iff.mp (good p member),
          damaged⟩
    · cases returned

def unknownName? (processors : Registry Processor) (modifiers : Registry Modifier)
    (piece : List Char) : Option String :=
  match Text.cutAt? [':'] piece with
  | none =>
    let name := String.ofList piece
    if (processors.get? name).isSome then none else some name
  | some (name, _) =>
    let name := String.ofList name
    if (modifiers.get? name).isSome then none else some name

def unknownNames (processors : Registry Processor) (modifiers : Registry Modifier)
    (spec : Option String) : List String :=
  (splitChars (spec.getD "").toList).filterMap (unknownName? processors modifiers)

theorem unknownName?_of_compileStep {piece : List Char} {step : Step}
    (compiled : compileStep origin processors modifiers piece = .ok step) :
    unknownName? processors modifiers piece =
      if step.isRegistered then none else some step.name := by
  unfold compileStep at compiled
  unfold unknownName?
  cases cut : Text.cutAt? [':'] piece with
  | none =>
      rw [cut] at compiled
      cases compiled
      rfl
  | some parts =>
      obtain ⟨name, parameters⟩ := parts
      rw [cut] at compiled
      dsimp only at compiled
      split at compiled <;> cases compiled
      rfl

theorem missing_of_compile {spec : Option String} {chain : Chain}
    (compiled : compile spec processors modifiers = .ok chain) :
    chain.missing = unknownNames processors modifiers spec := by
  obtain ⟨steps, read, returned⟩ := bind_eq_ok.mp compiled
  cases returned
  have paired := mapM_eq_ok_iff_forall₂.mp read
  unfold missing unknownNames
  dsimp only
  clear read compiled
  generalize splitChars (spec.getD "").toList = pieces at paired
  induction paired with
  | nil => rfl
  | cons here _ ih =>
      rw [List.filterMap_cons, unknownName?_of_compileStep here, List.filter_cons, ← ih]
      split <;> simp_all

end Chain

/-! ## Accounts -/

/-- What becomes of the spec of an entry. -/
inductive Course where
  | unresolved (fault : Fault)
  | malformed (fault : Fault)
  | finished (unknown : List String) (out : Value)
  | failed (unknown : List String) (fault : Fault)

namespace Course

def value : Course → Value
  | finished _ out => out
  | unresolved _ | malformed _ | failed .. => .undefined

def problems : Course → List Problem
  | unresolved fault => [.unresolvedSpec fault]
  | malformed fault => [.malformedSpec fault]
  | finished unknown _ => if unknown = [] then [] else [.unregistered unknown]
  | failed unknown fault =>
    (if unknown = [] then [] else [.unregistered unknown]) ++ [.chainFailure fault]

/-- The course that a spec takes in a model, when its chain is applied to a value. -/
inductive Holds (m : Model) (spec : Option String) (v : Value) : Course → Prop
  | unresolved {fault : Fault} (lost : m.concreteSpec spec = .error fault) :
      Holds m spec v (.unresolved fault)
  | malformed {concrete : Option String} {fault : Fault}
      (resolved : m.concreteSpec spec = .ok concrete) (malformed : Chain.Malformed concrete fault) :
      Holds m spec v (.malformed fault)
  | finished {concrete : Option String} {chain : Chain} {out : Value}
      (resolved : m.concreteSpec spec = .ok concrete)
      (compiled : Chain.compile concrete m.processors m.modifiers = .ok chain)
      (ran : chain.run v = .ok out) :
      Holds m spec v (.finished (Chain.unknownNames m.processors m.modifiers concrete) out)
  | failed {concrete : Option String} {chain : Chain} {fault : Fault}
      (resolved : m.concreteSpec spec = .ok concrete)
      (compiled : Chain.compile concrete m.processors m.modifiers = .ok chain)
      (ran : chain.run v = .error fault) :
      Holds m spec v (.failed (Chain.unknownNames m.processors m.modifiers concrete) fault)

def ofRun (unknown : List String) : Except Fault Value → Course
  | .ok out => .finished unknown out
  | .error fault => .failed unknown fault

section Determined

variable {m : Model} {spec concrete : Option String} {v : Value} {course : Course} {fault : Fault}

theorem holds_iff_of_lost (lost : m.concreteSpec spec = .error fault) :
    course.Holds m spec v ↔ course = .unresolved fault := by
  constructor
  · intro holds
    cases holds <;> simp_all
  · rintro rfl
    exact .unresolved lost

theorem holds_iff_of_malformed (resolved : m.concreteSpec spec = .ok concrete)
    (malformed : Chain.Malformed concrete fault) :
    course.Holds m spec v ↔ course = .malformed fault := by
  have stuck (other : Fault) : Chain.Malformed concrete other ↔
      Chain.compile concrete m.processors m.modifiers = .error other ∧
        other.family = .malformedSpec := Chain.malformed_iff
  constructor
  · intro holds
    cases holds <;> simp_all
  · rintro rfl
    exact .malformed resolved malformed

theorem holds_iff_of_compiled (resolved : m.concreteSpec spec = .ok concrete) {chain : Chain}
    (compiled : Chain.compile concrete m.processors m.modifiers = .ok chain) :
    course.Holds m spec v ↔
      course = ofRun (Chain.unknownNames m.processors m.modifiers concrete) (chain.run v) := by
  have stuck (other : Fault) : Chain.Malformed concrete other ↔
      Chain.compile concrete m.processors m.modifiers = .error other ∧
        other.family = .malformedSpec := Chain.malformed_iff
  constructor
  · intro holds
    cases holds <;> simp_all [ofRun]
  · rintro rfl
    cases ran : chain.run v with
    | ok out => exact .finished resolved compiled ran
    | error fault => exact .failed resolved compiled ran

theorem Holds.unique {other : Course} (holds : course.Holds m spec v)
    (holds' : other.Holds m spec v) : course = other := by
  cases holds with
  | unresolved lost => exact ((holds_iff_of_lost lost).mp holds').symm
  | malformed resolved malformed =>
      exact ((holds_iff_of_malformed resolved malformed).mp holds').symm
  | finished resolved compiled ran =>
      rw [(holds_iff_of_compiled resolved compiled).mp holds', ran, ofRun]
  | failed resolved compiled ran =>
      rw [(holds_iff_of_compiled resolved compiled).mp holds', ran, ofRun]

end Determined

end Course

inductive Model.Reads (m : Model) (c : Container) (key : FieldKey) : Option Fault → Value → Prop
  | found {v : Value} (read : m.resolve key.reference (some c) = .ok v) : Reads m c key none v
  | missing {fault : Fault} (read : m.resolve key.reference (some c) = .error fault) :
      Reads m c key (some fault) .undefined

inductive Account where
  | skipped
  | unjudged (fault : Fault)
  | produced (missing : Option Fault) (course : Course)

namespace Account

def contribution (output : String) : Account → Contribution
  | skipped => ⟨none, []⟩
  | unjudged fault => ⟨none, [.guardFailure fault]⟩
  | produced missing course =>
    ⟨some (output, course.value), missing.toList.map .missingReference ++ course.problems⟩

inductive Holds (m : Model) (c : Container) (key : FieldKey) (spec : Option String) : Account → Prop
  | skipped (guard : m.holds key.guard = .ok false) : Holds m c key spec .skipped
  | unjudged {fault : Fault} (guard : m.holds key.guard = .error fault) :
      Holds m c key spec (.unjudged fault)
  | produced {missing : Option Fault} {v : Value} {course : Course}
      (guard : m.holds key.guard = .ok true) (reads : m.Reads c key missing v)
      (takes : course.Holds m spec v) : Holds m c key spec (.produced missing course)

end Account

/-! ## Fields -/

namespace Model

variable {m : Model} {c : Container} {key : FieldKey} {spec concrete : Option String} {v : Value}
  {fault : Fault}

theorem exists_reads (m : Model) (c : Container) (key : FieldKey) :
    ∃ missing v, m.Reads c key missing v := by
  cases read : m.resolve key.reference (some c) with
  | ok v => exact ⟨none, v, .found read⟩
  | error fault => exact ⟨some fault, .undefined, .missing read⟩

theorem Reads.unique {missing missing' : Option Fault} {v' : Value}
    (reads : m.Reads c key missing v) (reads' : m.Reads c key missing' v') : missing = missing' ∧ v = v' := by
  cases reads <;> cases reads' <;> simp_all

theorem Reads.sourceOf_eq {missing : Option Fault} (reads : m.Reads c key missing v) :
    m.sourceOf c key = (v, missing.toList.map .missingReference) := by
  cases reads with
  | found read =>
      rw [sourceOf, read]
      rfl
  | missing read =>
      rw [sourceOf, read]
      rfl

theorem chainOf_of_lost (lost : m.concreteSpec spec = .error fault) :
    m.chainOf spec = .ok (.error (.unresolvedSpec fault)) := by
  have compiled : m.compile spec = .error fault := by
    rw [compile, lost]
    rfl
  rcases Indirection.follow_error_family lost with family | family <;>
    simp only [chainOf, compiled, family]

theorem chainOf_of_malformed (resolved : m.concreteSpec spec = .ok concrete)
    (malformed : Chain.Malformed concrete fault) :
    m.chainOf spec = .ok (.error (.malformedSpec fault)) := by
  obtain ⟨stuck, family⟩ := Chain.malformed_iff.mp malformed
  have compiled : m.compile spec = .error fault := by
    rw [compile, resolved, ok_bind, stuck]
  simp only [chainOf, compiled, family]

theorem chainOf_of_compiled (resolved : m.concreteSpec spec = .ok concrete) {chain : Chain}
    (compiled : Chain.compile concrete m.processors m.modifiers = .ok chain) :
    m.chainOf spec = .ok (.ok chain) := by
  have whole : m.compile spec = .ok chain := by
    rw [compile, resolved, ok_bind, compiled]
  simp only [chainOf, whole]

theorem runChain_eq {chain : Chain} {unknown : List String} (missing : chain.missing = unknown) :
    runChain chain v = ((Course.ofRun unknown (chain.run v)).value,
      (Course.ofRun unknown (chain.run v)).problems) := by
  unfold runChain
  rw [missing]
  cases chain.run v <;> simp [Course.ofRun, Course.value, Course.problems]

theorem outputOf_of_course {missing : Option Fault} {course : Course}
    (reads : m.Reads c key missing v) (takes : course.Holds m spec v) :
    m.outputOf c key spec =
      .ok ((Account.produced missing course).contribution key.outputName) := by
  unfold outputOf
  rw [reads.sourceOf_eq]
  cases takes with
  | unresolved lost =>
      rw [chainOf_of_lost lost]
      rfl
  | malformed resolved malformed =>
      rw [chainOf_of_malformed resolved malformed]
      rfl
  | finished resolved compiled ran =>
      rw [chainOf_of_compiled resolved compiled]
      have ran' := runChain_eq (v := v) (Chain.missing_of_compile compiled)
      rw [ran] at ran'
      simp only [ok_bind, ran']
      rfl
  | failed resolved compiled ran =>
      rw [chainOf_of_compiled resolved compiled]
      have ran' := runChain_eq (v := v) (Chain.missing_of_compile compiled)
      rw [ran] at ran'
      simp only [ok_bind, ran']
      rfl

theorem exists_course {chain : Except Problem Chain} (returned : m.chainOf spec = .ok chain)
    (v : Value) : ∃ course : Course, course.Holds m spec v := by
  cases resolved : m.concreteSpec spec with
  | error fault => exact ⟨_, .unresolved resolved⟩
  | ok concrete =>
      cases compiled : Chain.compile concrete m.processors m.modifiers with
      | ok chain => exact ⟨_, (Course.holds_iff_of_compiled resolved compiled).mpr rfl⟩
      | error fault =>
          by_cases family : fault.family = .malformedSpec
          · exact ⟨_, .malformed resolved (Chain.malformed_iff.mpr ⟨compiled, family⟩)⟩
          · have overruns := Chain.compile_error_iff.mp ⟨compiled, family⟩
            rw [chainOf_error_iff.mpr ⟨concrete, resolved, overruns⟩] at returned
            cases returned

theorem contribution_of_account {account : Account} (holds : account.Holds m c key spec) :
    m.contribution c key spec = .ok (account.contribution key.outputName) := by
  unfold contribution
  cases holds with
  | skipped guard =>
      rw [guard]
      rfl
  | unjudged guard =>
      rw [guard]
      rfl
  | produced guard reads takes =>
      rw [guard]
      exact outputOf_of_course reads takes

theorem exists_account {added : Contribution} (returned : m.contribution c key spec = .ok added) :
    ∃ account : Account, account.Holds m c key spec := by
  unfold contribution at returned
  cases guard : m.holds key.guard with
  | error fault => exact ⟨_, .unjudged guard⟩
  | ok holds =>
      cases holds with
      | false => exact ⟨_, .skipped guard⟩
      | true =>
          rw [guard] at returned
          obtain ⟨chain, compiled, -⟩ := bind_eq_ok.mp returned
          obtain ⟨missing, v, reads⟩ := exists_reads m c key
          obtain ⟨course, takes⟩ := exists_course compiled v
          exact ⟨_, .produced guard reads takes⟩

theorem contribution_eq_ok_iff {added : Contribution} :
    m.contribution c key spec = .ok added ↔
      ∃ account : Account, account.Holds m c key spec ∧
        account.contribution key.outputName = added := by
  constructor
  · intro returned
    obtain ⟨account, holds⟩ := exists_account returned
    rw [contribution_of_account holds] at returned
    exact ⟨account, holds, Except.ok.inj returned⟩
  · rintro ⟨account, holds, rfl⟩
    exact contribution_of_account holds

end Model

theorem Account.Holds.unique {m : Model} {c : Container} {key : FieldKey} {spec : Option String}
    {account other : Account} (holds : account.Holds m c key spec)
    (holds' : other.Holds m c key spec) : account = other := by
  cases holds with
  | skipped guard => cases holds' <;> simp_all
  | unjudged guard => cases holds' <;> simp_all
  | produced guard reads takes =>
      cases holds' with
      | skipped guard' => simp_all
      | unjudged guard' => simp_all
      | produced _ reads' takes' =>
          obtain ⟨rfl, rfl⟩ := reads.unique reads'
          rw [takes.unique takes']

/-! ## Extractions -/

namespace Extraction

@[simp] theorem addAll_append (e : Extraction) (shares later : List Share) :
    e.addAll (shares ++ later) = (e.addAll shares).addAll later :=
  List.foldl_append

/-- An extraction has merged what an entry adds, in its turn, and its issues with the key of that
entry are those of the entry alone. -/
structure Includes (e : Extraction) (m : Model) (c : Container) (name : String)
    (entry : String × Option String) (added : Contribution) : Prop where
  turn : ∃ before after : List Share,
    c.fields.entries =
      before.map (fun s => (s.key, s.spec)) ++ entry :: after.map (fun s => (s.key, s.spec)) ∧
    (∀ s ∈ before ++ after, s.IsAdded m c) ∧
    e = (((start name).addAll before).add entry.1 added).addAll after
  issues : e.issues.filter (fun i => i.key = some entry.1) =
    added.problems.map fun problem => ⟨name, some entry.1, problem⟩

end Extraction

theorem Share.issues_filter_of_ne {shares : List Share} {key : String}
    (others : ∀ s ∈ shares, s.key ≠ key) (name : String) :
    (shares.flatMap (Share.issues name)).filter (fun i => i.key = some key) = [] := by
  rw [List.filter_eq_nil_iff]
  intro i member
  obtain ⟨s, inside, own⟩ := List.mem_flatMap.mp member
  obtain ⟨problem, -, rfl⟩ := List.mem_map.mp own
  simpa using others s inside

theorem Share.issues_filter_self (s : Share) (name : String) :
    (s.issues name).filter (fun i => i.key = some s.key) = s.issues name := by
  rw [List.filter_eq_self]
  intro i member
  obtain ⟨problem, -, rfl⟩ := List.mem_map.mp member
  simp

theorem Model.includes_of_mem {m : Model} {name : String} {c : Container} {e : Extraction}
    (declared : m.container? name = some c) (extracted : m.extract name = .ok e)
    {entry : String × Option String} (member : entry ∈ c.fields.entries) :
    ∃ added, m.contribution c (FieldKey.parse entry.1) entry.2 = .ok added ∧
      e.Includes m c name entry added := by
  rw [extract_of_declared declared (Catalog.isEmpty_of_mem member)] at extracted
  obtain ⟨shares, entries, added, rfl⟩ := extractFields_eq_ok.mp extracted
  rw [← entries] at member
  obtain ⟨s, inside, rfl⟩ := List.mem_map.mp member
  obtain ⟨before, after, rfl⟩ := List.append_of_mem inside
  -- No key appears twice, so the other shares have other keys.
  have distinct : ((before ++ s :: after).map Share.key).Nodup := by
    have names := c.fields.distinct
    rw [← entries, List.map_map] at names
    exact names
  rw [List.map_append, List.map_cons, List.nodup_append, List.nodup_cons] at distinct
  obtain ⟨-, ⟨ahead, -⟩, apart⟩ := distinct
  refine ⟨s.contribution, added s inside, ⟨before, after, ?_, ?_, ?_⟩, ?_⟩
  · rw [← entries]
    simp
  · intro t other
    refine added t ?_
    rcases List.mem_append.mp other with earlier | later
    · exact List.mem_append_left _ earlier
    · exact List.mem_append_right _ (List.mem_cons_of_mem s later)
  · rw [Extraction.addAll_append, Extraction.addAll_cons]
  · have earlier : ∀ t ∈ before, t.key ≠ s.key := fun t inside =>
      apart _ (List.mem_map_of_mem inside) _ List.mem_cons_self
    have later : ∀ t ∈ after, t.key ≠ s.key := fun t inside same =>
      ahead (same ▸ List.mem_map_of_mem inside)
    have issues := Extraction.issues_addAll (.start name) (before ++ s :: after)
    rw [issues, List.flatMap_append, List.flatMap_cons]
    simp only [List.filter_append]
    rw [Share.issues_filter_of_ne earlier, Share.issues_filter_self,
      Share.issues_filter_of_ne later]
    simp [Extraction.start, Share.issues]

/-! ## The statement -/

theorem extract_accounted (m : Model) (c : Container) (entry : String × Option String) :
    let key := FieldKey.parse entry.1
    (∀ added, m.contribution c key entry.2 = .ok added ↔
      ∃ account : Account, account.Holds m c key entry.2 ∧
        account.contribution key.outputName = added) ∧
    (∀ account other : Account, account.Holds m c key entry.2 → other.Holds m c key entry.2 →
      account = other) ∧
    ∀ name e, m.container? name = some c → m.extract name = .ok e → entry ∈ c.fields.entries →
      ∃ account : Account, account.Holds m c key entry.2 ∧
        e.Includes m c name entry (account.contribution key.outputName) := by
  refine ⟨fun _ => Model.contribution_eq_ok_iff, fun _ _ => Account.Holds.unique, ?_⟩
  intro name e declared extracted member
  obtain ⟨added, returned, includes⟩ := Model.includes_of_mem declared extracted member
  obtain ⟨account, holds, rfl⟩ := Model.contribution_eq_ok_iff.mp returned
  exact ⟨account, holds, includes⟩

def lostContainer : Container where
  name := "u"
  fields := .ofList [("@lost.n as n", some "nope.usd.nope"), ("k if(null)", some "upper:[")]
  data := .mapping []

theorem extract_accounted_lost : ∃ (e : Extraction) (account : Account),
    (Model.declaring lostContainer).extract "u" = .ok e ∧
      account.Holds (Model.declaring lostContainer) lostContainer (FieldKey.parse "@lost.n as n")
        (some "nope.usd.nope") ∧
      e.Includes (Model.declaring lostContainer) lostContainer "u"
        ("@lost.n as n", some "nope.usd.nope") (account.contribution "n") := by
  have returns : ((Model.declaring lostContainer).extract "u").isOk = true := by decide +kernel
  have declared : (Model.declaring lostContainer).container? "u" = some lostContainer := rfl
  have named : (FieldKey.parse "@lost.n as n").outputName = "n" := by decide +kernel
  obtain ⟨e, extracted⟩ := exists_of_isOk returns
  obtain ⟨account, holds, includes⟩ := (extract_accounted (Model.declaring lostContainer)
    lostContainer ("@lost.n as n", some "nope.usd.nope")).2.2 "u" e declared extracted
    List.mem_cons_self
  rw [named] at includes
  exact ⟨e, account, extracted, holds, includes⟩

example : ((Model.declaring lostContainer).extract "u").map Extraction.issues = .ok [
    ⟨"u", some "@lost.n as n", .missingReference (.missingContainer "lost" "@lost.n")⟩,
    ⟨"u", some "@lost.n as n", .unregistered ["nope", "nope"]⟩] := by
  decide +kernel

end FieldMap
