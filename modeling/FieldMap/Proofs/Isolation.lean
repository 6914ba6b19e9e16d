import FieldMap.Proofs.Chain.Pieces
import FieldMap.Proofs.Indirection
import FieldMap.Proofs.Json.Limits
import FieldMap.Proofs.Merge
import FieldMap.Proofs.Text.Digit

/-!
Isolation of fields. Whatever goes wrong with one field is an issue of that field, but for one thing:
parameters of a modifier that exceed the limits of the JSON reader end the whole extraction. Main
statement: the extraction of a declared container fails exactly at the first field whose guard holds
and whose spec has such parameters before any malformed ones.
-/

namespace FieldMap
open Outcome

namespace Indirection

variable {limit : Nat} {origin : String} {fieldsOf : String → Option Fields} {fault : Fault}

theorem refusal_family {visited : List Target} {target : Target}
    (h : refusal limit origin visited target = some fault) : fault.family = .recursionLimit := by
  unfold refusal at h
  split at h
  · cases h
    rfl
  · split at h <;> cases h
    rfl

theorem spec?_error_family {target : Target} (h : spec? origin fieldsOf target = .error fault) :
    fault.family = .reference := by
  unfold spec? at h
  split at h
  · cases h
    rfl
  · split at h <;> cases h
    rfl

theorem follow_error_family {left : Nat} {visited : List Target} {spec : Option String}
    (h : follow limit origin fieldsOf left visited spec = .error fault) :
    fault.family = .reference ∨ fault.family = .recursionLimit := by
  fun_induction follow limit origin fieldsOf left visited spec with
  | case1 => cases h
  | case2 =>
      cases h
      exact .inl rfl
  | case3 _ _ _ _ _ _ _ _ refuses =>
      cases h
      exact .inr (refusal_family refuses)
  | case4 =>
      cases h
      exact .inr rfl
  | case5 _ _ _ _ _ _ _ _ ih =>
      rcases bind_eq_error.mp h with missing | ⟨next, -, deeper⟩
      · exact .inl (spec?_error_family missing)
      · exact ih next deeper

end Indirection

namespace Chain

def Exceeds (piece : List Char) (fault : Fault) : Prop :=
  ∃ name parameters, Text.cutAt? [':'] piece = some (name, parameters) ∧
    Json.readChars parameters = .error (.exceeded fault)

def Readable (piece : List Char) : Prop :=
  ∀ name parameters, Text.cutAt? [':'] piece = some (name, parameters) →
    ∃ v, Json.readChars parameters = .ok v

def Overruns (spec : Option String) (fault : Fault) : Prop :=
  ∃ before piece after, splitChars (spec.getD "").toList = before ++ piece :: after ∧
    (∀ p ∈ before, Readable p) ∧ Exceeds piece fault

variable {origin : String} {processors : Registry Processor} {modifiers : Registry Modifier}
  {fault : Fault}

theorem Exceeds.isLimit {piece : List Char} (h : Exceeds piece fault) : Json.IsLimit fault := by
  obtain ⟨_, parameters, -, exceeded⟩ := h
  exact Json.readChars_failsOnly parameters _ exceeded

theorem Overruns.isLimit {spec : Option String} (h : Overruns spec fault) :
    Json.IsLimit fault := by
  obtain ⟨_, _, _, -, -, exceeds⟩ := h
  exact exceeds.isLimit

theorem compileStep_ok_iff {piece : List Char} :
    (∃ step, compileStep origin processors modifiers piece = .ok step) ↔ Readable piece := by
  unfold compileStep Readable
  cases cut : Text.cutAt? [':'] piece with
  | none => simp
  | some parts =>
      obtain ⟨name, parameters⟩ := parts
      cases read : Json.readChars parameters with
      | ok v => simp [read]
      | error stuck => cases stuck <;> simp [read]

theorem compileStep_error_iff {piece : List Char} :
    compileStep origin processors modifiers piece = .error fault ↔
      Exceeds piece fault ∨ ∃ name parameters problem remaining,
        Text.cutAt? [':'] piece = some (name, parameters) ∧
        Json.readChars parameters = .error (.malformed problem remaining) ∧
        fault = .badParameters (String.ofList name) (String.ofList parameters) problem origin := by
  unfold compileStep Exceeds
  cases cut : Text.cutAt? [':'] piece with
  | none => simp
  | some parts =>
      obtain ⟨name, parameters⟩ := parts
      cases read : Json.readChars parameters with
      | ok v => simp [read]
      | error stuck => cases stuck <;> simp [read, eq_comm]

theorem isLimit_family (h : Json.IsLimit fault) :
    fault.family = .badValue ∨ fault.family = .depth := by
  rcases h with ⟨digits, -, rfl⟩ | ⟨what, rfl⟩
  · exact .inl rfl
  · exact .inr rfl

theorem compile_error_iff {spec : Option String} :
    (compile spec processors modifiers = .error fault ∧ fault.family ≠ .malformedSpec) ↔
      Overruns spec fault := by
  unfold compile
  dsimp only
  rw [bind_eq_error, mapM_eq_error]
  constructor
  · rintro ⟨⟨before, piece, after, split, good, fails⟩ | ⟨_, -, returned⟩, family⟩
    · rcases compileStep_error_iff.mp fails with exceeds | ⟨_, _, _, _, -, -, rfl⟩
      · exact ⟨before, piece, after, split, fun p member => compileStep_ok_iff.mp (good p member),
          exceeds⟩
      · exact absurd rfl family
    · cases returned
  · rintro ⟨before, piece, after, split, good, exceeds⟩
    refine ⟨.inl ⟨before, piece, after, split, ?_, compileStep_error_iff.mpr (.inl exceeds)⟩, ?_⟩
    · exact fun p member => compileStep_ok_iff.mpr (good p member)
    · rcases isLimit_family exceeds.isLimit with family | family <;> simp [family]

end Chain

namespace Model

def Overruns (m : Model) (entry : String × Option String) (fault : Fault) : Prop :=
  m.holds (FieldKey.parse entry.1).guard = .ok true ∧
    ∃ concrete, m.concreteSpec entry.2 = .ok concrete ∧ Chain.Overruns concrete fault

variable {m : Model} {fault : Fault}

theorem chainOf_error_iff {spec : Option String} :
    m.chainOf spec = .error fault ↔
      ∃ concrete, m.concreteSpec spec = .ok concrete ∧ Chain.Overruns concrete fault := by
  -- Three families of faults become issues; whatever else compiling raises is raised again.
  have escapes : m.chainOf spec = .error fault ↔ m.compile spec = .error fault ∧
      fault.family ≠ .reference ∧ fault.family ≠ .recursionLimit ∧
      fault.family ≠ .malformedSpec := by
    unfold chainOf
    cases m.compile spec with
    | ok chain => simp
    | error other =>
        by_cases same : other = fault
        · subst same
          cases family : other.family <;> simp [family]
        · cases family : other.family <;> simp [same, family]
  rw [escapes, compile, bind_eq_error]
  constructor
  · rintro ⟨lost | ⟨concrete, resolved, fails⟩, reference, recursion, malformed⟩
    · rcases Indirection.follow_error_family lost with family | family
      · exact absurd family reference
      · exact absurd family recursion
    · exact ⟨concrete, resolved, Chain.compile_error_iff.mp ⟨fails, malformed⟩⟩
  · rintro ⟨concrete, resolved, overruns⟩
    obtain ⟨fails, malformed⟩ := Chain.compile_error_iff.mpr overruns
    refine ⟨.inr ⟨concrete, resolved, fails⟩, ?_, ?_, malformed⟩ <;>
      rcases Chain.isLimit_family overruns.isLimit with family | family <;> simp [family]

theorem outputOf_error_iff {c : Container} {key : FieldKey} {spec : Option String} :
    m.outputOf c key spec = .error fault ↔ m.chainOf spec = .error fault := by
  unfold outputOf
  dsimp only
  rw [bind_eq_error]
  constructor
  · rintro (fails | ⟨chain, -, returned⟩)
    · exact fails
    · cases chain <;> cases returned
  · exact .inl

theorem contribution_error_iff {c : Container} {entry : String × Option String} :
    m.contribution c (FieldKey.parse entry.1) entry.2 = .error fault ↔ m.Overruns entry fault := by
  unfold contribution Overruns
  rw [← chainOf_error_iff]
  cases m.holds (FieldKey.parse entry.1).guard with
  | error problem => simp
  | ok holds => cases holds <;> simp [outputOf_error_iff]

theorem contribution_ok_iff {c : Container} {entry : String × Option String} :
    (∃ added, m.contribution c (FieldKey.parse entry.1) entry.2 = .ok added) ↔
      ∀ fault, ¬ m.Overruns entry fault := by
  simp only [← contribution_error_iff (c := c)]
  cases m.contribution c (FieldKey.parse entry.1) entry.2 <;> simp

theorem extractFields_eq_error {c : Container} {start : Extraction}
    {entries : List (String × Option String)} :
    m.extractFields c start entries = .error fault ↔
      entries.mapM (fun entry => m.contribution c (FieldKey.parse entry.1) entry.2) =
        .error fault := by
  induction entries generalizing start with
  | nil => exact ⟨nofun, nofun⟩
  | cons entry rest ih =>
      rw [extractFields, List.mapM_cons, bind_eq_error, bind_eq_error]
      simp only [ih, bind_eq_error, pure_eq, reduceCtorEq, and_false, exists_false, or_false]

theorem extractFields_error_iff {c : Container} {start : Extraction}
    {entries : List (String × Option String)} :
    m.extractFields c start entries = .error fault ↔
      ∃ earlier entry later, entries = earlier ++ entry :: later ∧
        (∀ e ∈ earlier, ∀ other, ¬ m.Overruns e other) ∧ m.Overruns entry fault := by
  rw [extractFields_eq_error, mapM_eq_error]
  simp only [contribution_ok_iff, contribution_error_iff]

theorem extract_error_iff {name : String} {c : Container}
    (declared : m.container? name = some c) :
    m.extract name = .error fault ↔
      ∃ earlier entry later, c.fields.entries = earlier ++ entry :: later ∧
        (∀ e ∈ earlier, ∀ other, ¬ m.Overruns e other) ∧ m.Overruns entry fault := by
  cases empty : c.fields.isEmpty with
  | true =>
      have none : c.fields.entries = [] := List.isEmpty_iff.mp empty
      simp [extract_of_empty declared empty, none]
  | false => rw [extract_of_declared declared empty, extractFields_error_iff]

theorem extract_ok_iff {name : String} {c : Container} (declared : m.container? name = some c) :
    (∃ e, m.extract name = .ok e) ↔
      ∀ entry ∈ c.fields.entries, ∀ fault, ¬ m.Overruns entry fault := by
  constructor
  · rintro ⟨e, extracted⟩ entry member
    rw [extract_of_declared declared (Catalog.isEmpty_of_mem member)] at extracted
    obtain ⟨shares, entries, added, -⟩ := extractFields_eq_ok.mp extracted
    rw [← entries] at member
    obtain ⟨s, inside, rfl⟩ := List.mem_map.mp member
    exact contribution_ok_iff.mp ⟨s.contribution, added s inside⟩
  · intro within
    cases extracted : m.extract name with
    | ok e => exact ⟨e, rfl⟩
    | error fault =>
        obtain ⟨earlier, entry, later, split, -, overruns⟩ := (extract_error_iff declared).mp extracted
        exact absurd overruns (within entry (by simp [split]) fault)

theorem output_of_holds {c : Container} {key : FieldKey} {spec : Option String}
    {added : Contribution} (holds : m.holds key.guard = .ok true)
    (h : m.contribution c key spec = .ok added) : ∃ v, added.output = some (key.outputName, v) := by
  rw [contribution, holds] at h
  exact outputOf_output h

theorem mem_names_of_holds {name : String} {c : Container} {e : Extraction}
    (declared : m.container? name = some c) (extracted : m.extract name = .ok e)
    {entry : String × Option String} (member : entry ∈ c.fields.entries)
    (holds : m.holds (FieldKey.parse entry.1).guard = .ok true) :
    (FieldKey.parse entry.1).outputName ∈ e.fields.names := by
  rw [extract_of_declared declared (Catalog.isEmpty_of_mem member)] at extracted
  obtain ⟨shares, entries, added, rfl⟩ := extractFields_eq_ok.mp extracted
  rw [← entries] at member
  obtain ⟨s, inside, rfl⟩ := List.mem_map.mp member
  obtain ⟨v, output⟩ := output_of_holds holds (added s inside)
  rw [Extraction.fields_addAll]
  exact (mem_names_outputsOf added).mpr ⟨s, inside, rfl, by rw [output]; rfl⟩

end Model

theorem extract_isolated (m : Model) (name : String) :
    ((∃ e, m.extract name = .ok e) ↔ ∃ c, m.container? name = some c ∧
      ∀ entry ∈ c.fields.entries, ∀ fault, ¬ m.Overruns entry fault) ∧
    (∀ fault, m.extract name = .error fault ↔
      (m.container? name = none ∧ fault = .unknownContainer name) ∨
      ∃ c, m.container? name = some c ∧ ∃ earlier entry later,
        c.fields.entries = earlier ++ entry :: later ∧
        (∀ e ∈ earlier, ∀ other, ¬ m.Overruns e other) ∧ m.Overruns entry fault) ∧
    (∀ entry fault, m.Overruns entry fault → Json.IsLimit fault) ∧
    (∀ c e, m.container? name = some c → m.extract name = .ok e →
      ∀ entry ∈ c.fields.entries, m.holds (FieldKey.parse entry.1).guard = .ok true →
        (FieldKey.parse entry.1).outputName ∈ e.fields.names) := by
  refine ⟨?_, ?_, ?_, ?_⟩
  · cases declared : m.container? name with
    | none => simp [Model.extract_undeclared declared]
    | some c => simp [Model.extract_ok_iff declared]
  · intro fault
    cases declared : m.container? name with
    | none => simp [Model.extract_undeclared declared, eq_comm]
    | some c => simp [Model.extract_error_iff declared]
  · rintro entry fault ⟨-, concrete, -, overruns⟩
    exact overruns.isLimit
  · exact fun c e declared extracted entry => Model.mem_names_of_holds declared extracted

def defaultSpec (parameter : List Char) : List Char := "default:".toList ++ parameter

def parametrised (parameter : List Char) : Container where
  name := "u"
  fields := .ofList [("x", some (String.ofList (defaultSpec parameter))), ("y", some "string")]
  data := .mapping [(.text "y", .text "ok")]

theorem Model.addContainer_of_plain {m : Model} {name : String} {own : Fields} {source : Value}
    (plain : NameClause.parse name = ⟨name, []⟩) (named : name ≠ "") :
    m.addContainer name own source =
      .ok { m with containers := m.containers.put name ⟨name, own, Container.dataOf source⟩ } := by
  simp [addContainer, Templates.resolve, plain, NameClause.isExtended, named]

theorem addContainer_parametrised (parameter : List Char) :
    (Model.new (.apart .null)).addContainer "u" (parametrised parameter).fields (parametrised parameter).data =
      .ok (.declaring (parametrised parameter)) := by
  rw [Model.addContainer_of_plain (by decide +kernel) (by decide)]
  rfl

section LongParameter

variable {first : Char} {digits : List Char}

theorem digit_plain {c : Char} (digit : c.isDigit = true) :
    c ∉ Chain.marks ∧ Text.isBlank c = false := by
  constructor
  · exact Text.not_mem_of_class digit (by decide)
  · exact Text.isBlank_of_isDecimal (Text.isDecimal_of_isDigit digit)

theorem mem_defaultSpec (clean : ∀ c ∈ first :: digits, c.isDigit = true) {c : Char}
    (member : c ∈ defaultSpec (first :: digits)) : c ∉ Chain.marks ∧ Text.isBlank c = false := by
  rcases List.mem_append.mp member with letter | digit
  · exact ⟨Text.not_mem_of_mem letter (by decide), Text.eq_false_of_mem letter (by decide)⟩
  · exact digit_plain (clean c digit)

theorem stripChars_defaultSpec (clean : ∀ c ∈ first :: digits, c.isDigit = true) :
    Text.stripChars (defaultSpec (first :: digits)) = defaultSpec (first :: digits) :=
  Text.stripChars_eq_self (fun _ head => (mem_defaultSpec clean (List.mem_of_head? head)).2)
    fun _ last => (mem_defaultSpec clean (List.mem_of_getLast? last)).2

theorem overruns_of_long_digits (clean : ∀ c ∈ first :: digits, c.isDigit = true)
    (leading : first ≠ '0') (long : Number.digitLimit < (first :: digits).length) :
    Chain.Overruns (some (String.ofList (defaultSpec (first :: digits))))
      (.digitLimit (some (first :: digits).length)) := by
  have single : Chain.splitChars (defaultSpec (first :: digits)) = [defaultSpec (first :: digits)] :=
    Chain.splitChars_of_plain nofun (fun _ member => (mem_defaultSpec clean member).1)
      (stripChars_defaultSpec clean)
  have exceeded := Json.readChars_of_long_digits clean leading long
  refine ⟨[], defaultSpec (first :: digits), [], ?_, nofun, "default".toList, _, rfl, exceeded⟩
  rw [Option.getD_some, String.toList_ofList, single]
  rfl

theorem extract_parametrised (clean : ∀ c ∈ first :: digits, c.isDigit = true)
    (leading : first ≠ '0') (long : Number.digitLimit < (first :: digits).length) :
    (Model.declaring (parametrised (first :: digits))).extract "u" =
      .error (.digitLimit (some (first :: digits).length)) := by
  have unguarded : (FieldKey.parse "x").guard = none := by decide +kernel
  have holds (m : Model) : m.holds (FieldKey.parse "x").guard = .ok true := by
    rw [unguarded]
    rfl
  have unmarked : Indirection.body? (some (String.ofList (defaultSpec (first :: digits)))) = none := by
    rw [Indirection.body?, Option.getD_some, String.toList_ofList, stripChars_defaultSpec clean]
    rfl
  have direct : Indirection.isIndirect (some (String.ofList (defaultSpec (first :: digits)))) = false := by
    rw [Indirection.isIndirect, unmarked]
    rfl
  have overruns := overruns_of_long_digits clean leading long
  have declared := Model.container?_declaring (parametrised (first :: digits))
  refine (Model.extract_error_iff declared).mpr ?_
  exact ⟨[], _, _, rfl, by simp, holds _, _, Indirection.follow_direct direct, overruns⟩

end LongParameter

/-- A model that an ordinary declaration leads to, and whose extraction ends all the same. -/
theorem extract_long_parameter : ∃ m c,
    (Model.new (.apart .null)).addContainer "u" c.fields c.data = .ok m ∧ m.container? "u" = some c ∧
      m.extract "u" = .error (.digitLimit (some (Number.digitLimit + 1))) := by
  refine ⟨_, _, addContainer_parametrised ('9' :: List.replicate Number.digitLimit '9'),
    Model.container?_declaring _, ?_⟩
  have clean : ∀ c ∈ '9' :: List.replicate Number.digitLimit '9', c.isDigit = true := by
    intro c member
    rw [← List.replicate_succ] at member
    rw [List.eq_of_mem_replicate member]
    decide
  rw [extract_parametrised clean (by decide) (by simp)]
  simp

end FieldMap
