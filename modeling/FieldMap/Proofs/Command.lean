import FieldMap.Command
import FieldMap.Proofs.Isolation
import FieldMap.Proofs.Model
import Mathlib.Data.List.ReduceOption

/-!
Extracting a container from several files. Each file has its own part in a run, and what the part is
depends on the file and on the model that the run began with: a file leaves nothing behind but data
that the next file replaces. So a run is made of the runs over its single files, and its counts are
the numbers of its entries.
-/

namespace FieldMap
open Outcome

namespace Command.Run

/-! ## One file -/

def attempt (t : FileTree) (m : Model) (container file : String) : Except Fault Extraction := do
  (← withDocument t m container file).extract container

def reported (file : String) :
    Except Fault Extraction → Except Fault (String × Except Fault Extraction)
  | .ok e => .ok (file, .ok e)
  | .error fault => if isReported fault then .ok (file, .error fault) else .error fault

def part (t : FileTree) (m : Model) (container : String) :
    Option String → Except Fault (String × Except Fault Extraction)
  | none => .error (.notAPath "list")
  | some file => reported file (attempt t m container file)

def add (r : Run) : String × Except Fault Extraction → Run
  | (file, .ok e) => r.addExtraction file e
  | (file, .error fault) => r.addFault file fault

variable {t : FileTree} {m m' : Model} {r r' : Run} {container : String}

theorem part_congr (same : m'.setSource container = m.setSource container) :
    part t m' container = part t m container := by
  funext file
  cases file with
  | none => rfl
  | some file => simp only [part, attempt, withDocument, same]

theorem container_add (attempted : String × Except Fault Extraction) :
    (r.add attempted).container = r.container := by
  obtain ⟨file, e | fault⟩ := attempted <;> rfl

theorem addAttempt_eq (file : String) (outcome : Except Fault Extraction) :
    r.addAttempt file outcome = (reported file outcome).map r.add := by
  cases outcome with
  | ok e => rfl
  | error fault =>
      rw [addAttempt, reported]
      split <;> rfl

theorem extractFile_map_snd (file : String) :
    (extractFile t m r file).map Prod.snd = r.addAttempt file (attempt t m r.container file) := by
  unfold extractFile attempt
  cases withDocument t m r.container file with
  | error fault =>
      dsimp only
      rw [error_bind]
      cases r.addAttempt file (.error fault) <;> rfl
  | ok m' =>
      dsimp only
      rw [ok_bind]
      cases r.addAttempt file (m'.extract r.container) <;> rfl

theorem extractNext_map_snd (file : Option String) :
    (extractNext t (m, r) file).map Prod.snd = (part t m r.container file).map r.add := by
  cases file with
  | none => simp only [extractNext, part, map_error]
  | some file => rw [extractNext, part, ← addAttempt_eq, extractFile_map_snd]

theorem setSource_extractFile {file : String} (extracted : extractFile t m r file = .ok (m', r')) :
    m'.setSource r.container = m.setSource r.container := by
  unfold extractFile at extracted
  cases read : withDocument t m r.container file with
  | error fault =>
      simp only [read, bind_eq_ok, pure_eq, Except.ok.injEq, Prod.mk.injEq] at extracted
      obtain ⟨-, -, rfl, -⟩ := extracted
      rfl
  | ok replaced =>
      simp only [read, bind_eq_ok, pure_eq, Except.ok.injEq, Prod.mk.injEq] at extracted
      obtain ⟨-, -, rfl, -⟩ := extracted
      obtain ⟨data, -, replaces⟩ := bind_eq_ok.mp read
      exact Model.setSource_again replaces

theorem setSource_extractNext {file : Option String}
    (extracted : extractNext t (m, r) file = .ok (m', r')) :
    m'.setSource r.container = m.setSource r.container := by
  cases file with
  | none => simp only [extractNext, reduceCtorEq] at extracted
  | some file => exact setSource_extractFile extracted

theorem container_extractNext {file : Option String}
    (extracted : extractNext t (m, r) file = .ok (m', r')) : r'.container = r.container := by
  have step := extractNext_map_snd (t := t) (m := m) (r := r) file
  rw [extracted, map_ok, eq_comm, map_eq_ok] at step
  obtain ⟨attempted, -, rfl⟩ := step
  exact container_add attempted

/-! ## Runs over files -/

theorem extractNext_foldlM (same : m'.setSource r.container = m.setSource r.container)
    (files : List (Option String)) :
    (files.foldlM (extractNext t) (m', r)).map Prod.snd =
      (files.mapM (part t m r.container)).map (·.foldl add r) := by
  -- The models on the way differ in the data of the container at most, and these are replaced.
  induction files generalizing m' r with
  | nil => rfl
  | cons file files ih =>
      have step := extractNext_map_snd (t := t) (m := m') (r := r) file
      rw [part_congr same] at step
      rw [List.foldlM_cons, List.mapM_cons]
      cases extracted : extractNext t (m', r) file with
      | error fault =>
          rw [extracted, map_error, eq_comm, map_eq_error] at step
          rw [step]
          rfl
      | ok next =>
          obtain ⟨m'', r''⟩ := next
          rw [extracted, map_ok, eq_comm, map_eq_ok] at step
          obtain ⟨attempted, here, rfl⟩ := step
          have left := (setSource_extractNext extracted).trans same
          rw [← container_add attempted] at left
          rw [here, ok_bind, ok_bind, ih left, container_add]
          cases files.mapM (part t m r.container) <;> rfl

theorem setSource_foldlM {files : List (Option String)}
    (extracted : files.foldlM (extractNext t) (m, r) = .ok (m', r')) :
    m'.setSource r.container = m.setSource r.container := by
  induction files generalizing m r with
  | nil =>
      cases extracted
      rfl
  | cons file files ih =>
      rw [List.foldlM_cons] at extracted
      obtain ⟨⟨m₁, r₁⟩, first, rest⟩ := bind_eq_ok.mp extracted
      have later := ih rest
      rw [container_extractNext first] at later
      exact later.trans (setSource_extractNext first)

def ofParts (container : String) (parts : List (String × Except Fault Extraction)) : Run where
  container
  total := parts.length
  extracted := parts.countP fun part => part.2.isOk
  failed := parts.countP fun part => !part.2.isOk
  payloads := parts.filterMap fun
    | (file, .ok e) => some (file, e.fields)
    | _ => none
  errors := parts.filterMap fun
    | (file, .error fault) => some (file, fault.message)
    | _ => none
  warnings := parts.flatMap fun
    | (file, .ok e) => e.warnings.map fun text => (file, text)
    | _ => []

theorem foldl_add (parts : List (String × Except Fault Extraction)) :
    parts.foldl add r =
      { r with
        extracted := r.extracted + (ofParts r.container parts).extracted
        failed := r.failed + (ofParts r.container parts).failed
        payloads := r.payloads ++ (ofParts r.container parts).payloads
        errors := r.errors ++ (ofParts r.container parts).errors
        warnings := r.warnings ++ (ofParts r.container parts).warnings } := by
  induction parts generalizing r with
  | nil => simp [ofParts]
  | cons part parts ih =>
      have counted (n : Nat) (p : String × Except Fault Extraction → Bool) :
          n + 1 + parts.countP p = n + (parts.countP p + 1) := by omega
      obtain ⟨file, fault | e⟩ := part
      · simp [ih, ofParts, add, addFault, counted]
      · simp [ih, ofParts, add, addExtraction, List.countP_cons, counted]

def ofFiles (t : FileTree) (m : Model) (container : String) (files : List (Option String)) :
    Except Fault Run :=
  (extractFiles t m container files).map Prod.snd

theorem ofFiles_eq (files : List (Option String)) :
    ofFiles t m container files = (files.mapM (part t m container)).map (ofParts container) := by
  rw [ofFiles, extractFiles, extractNext_foldlM (m := m) (r := start container files.length) rfl]
  change Except.map _ (files.mapM (part t m container)) = _
  cases run : files.mapM (part t m container) with
  | error fault => rfl
  | ok parts =>
      have length := (mapM_eq_ok_iff_forall₂.mp run).length_eq
      simp only [map_ok, foldl_add, start, Nat.zero_add, List.nil_append, length]
      rfl

theorem ofFiles_congr (same : m'.setSource container = m.setSource container) :
    ofFiles t m' container = ofFiles t m container := by
  funext files
  rw [ofFiles_eq, ofFiles_eq, part_congr same]

def append (r s : Run) : Run where
  container := r.container
  total := r.total + s.total
  extracted := r.extracted + s.extracted
  failed := r.failed + s.failed
  payloads := r.payloads ++ s.payloads
  errors := r.errors ++ s.errors
  warnings := r.warnings ++ s.warnings

theorem ofParts_append (parts others : List (String × Except Fault Extraction)) :
    ofParts container (parts ++ others) =
      (ofParts container parts).append (ofParts container others) := by
  simp [ofParts, append]

def joined (container : String) (runs : List Run) : Run := runs.foldr append (start container 0)

theorem ofFiles_append (files others : List (Option String)) :
    ofFiles t m container (files ++ others) = do
      let r ← ofFiles t m container files
      return r.append (← ofFiles t m container others) := by
  simp only [ofFiles_eq, List.mapM_append]
  cases files.mapM (part t m container) with
  | error fault => rfl
  | ok parts =>
      cases others.mapM (part t m container) with
      | error fault => rfl
      | ok rest => exact congrArg Except.ok (ofParts_append parts rest)

theorem ofFiles_eq_joined (files : List (Option String)) :
    ofFiles t m container files =
      (files.mapM fun file => ofFiles t m container [file]).map (joined container) := by
  induction files with
  | nil => rfl
  | cons file files ih =>
      rw [← List.singleton_append, ofFiles_append, ih, List.singleton_append, List.mapM_cons]
      cases ofFiles t m container [file] with
      | error fault => rfl
      | ok r => cases files.mapM fun file => ofFiles t m container [file] <;> rfl

/-! ## What a run counts -/

theorem not_isReported_of_extract {c : Container} {fault : Fault}
    (declared : m.container? container = some c) (fails : m.extract container = .error fault) :
    isReported fault = false := by
  obtain ⟨_, _, _, -, -, -, _, -, overruns⟩ := (Model.extract_error_iff declared).mp fails
  rcases Chain.isLimit_family overruns.isLimit with family | family <;> simp [isReported, family]

theorem isOk_part {c : Container} (declared : m.container? container = some c) {file : String}
    {attempted : String × Except Fault Extraction}
    (goesOn : part t m container (some file) = .ok attempted) :
    attempted.1 = file ∧ attempted.2.isOk = (t.document file dataOrigin).isOk := by
  rw [part, attempt, withDocument] at goesOn
  cases read : t.document file dataOrigin with
  | error fault =>
      rw [read, error_bind, error_bind, reported] at goesOn
      split at goesOn
      · cases goesOn
        exact ⟨rfl, rfl⟩
      · cases goesOn
  | ok data =>
      have replaces : m.setSource container data =
          .ok { m with containers := m.containers.put container (c.withSource data) } :=
        Model.setSource_eq_ok.mpr ⟨c, declared, rfl⟩
      have stays := Model.container?_setSource_self replaces
      rw [declared, Option.map_some] at stays
      rw [read, ok_bind, replaces, ok_bind] at goesOn
      cases extracted : Model.extract _ container with
      | ok e =>
          rw [extracted, reported] at goesOn
          cases goesOn
          exact ⟨rfl, rfl⟩
      | error fault =>
          rw [extracted, reported, not_isReported_of_extract stays extracted] at goesOn
          cases goesOn

structure Balanced (r : Run) : Prop where
  total : r.extracted + r.failed = r.total
  extracted : r.extracted = r.payloads.length
  failed : r.failed = r.errors.length

theorem Balanced.append {s : Run} (first : r.Balanced) (second : s.Balanced) :
    (r.append s).Balanced where
  total := by
    have counts := congrArg₂ (· + ·) first.total second.total
    simp only [Run.append] at counts ⊢
    omega
  extracted := by simp only [Run.append, List.length_append, first.extracted, second.extracted]
  failed := by simp only [Run.append, List.length_append, first.failed, second.failed]

theorem balanced_ofParts (parts : List (String × Except Fault Extraction)) :
    (ofParts container parts).Balanced := by
  induction parts with
  | nil => exact ⟨rfl, rfl, rfl⟩
  | cons part parts ih =>
      have alone : (ofParts container [part]).Balanced := by
        obtain ⟨file, fault | e⟩ := part <;> exact ⟨rfl, rfl, rfl⟩
      rw [← List.singleton_append, ofParts_append]
      exact alone.append ih

theorem names_ofParts (parts : List (String × Except Fault Extraction)) :
    (ofParts container parts).payloads.map Prod.fst =
      (parts.filter fun part => part.2.isOk).map Prod.fst := by
  induction parts with
  | nil => rfl
  | cons part parts ih =>
      simp only [ofParts] at ih ⊢
      obtain ⟨file, fault | e⟩ := part
      · simp [ih]
      · simp [ih, List.filter_cons]

theorem files_filter {c : Container} (declared : m.container? container = some c)
    {files : List (Option String)} {parts : List (String × Except Fault Extraction)}
    (goesOn : List.Forall₂ (fun file attempted => part t m container file = .ok attempted)
      files parts) :
    (parts.filter fun part => part.2.isOk).map Prod.fst =
      files.reduceOption.filter fun file => (t.document file dataOrigin).isOk := by
  induction goesOn with
  | nil => rfl
  | @cons file attempted files parts here _ ih =>
      cases file with
      | none => simp only [part, reduceCtorEq] at here
      | some file =>
          obtain ⟨name, readable⟩ := isOk_part declared here
          rw [List.reduceOption_cons_of_some, List.filter_cons, List.filter_cons, readable]
          split
          · rw [List.map_cons, ih, name]
          · exact ih

/-! ## Exit codes -/

theorem ending_print {code n : Nat} {lines : List (Except Fault String)}
    (ends : (Outcome.print code lines).ending = .ok n) : n = code := by
  induction lines with
  | nil =>
      cases ends
      rfl
  | cons line lines ih =>
      cases line with
      | ok text => exact ih ends
      | error fault => cases ends

end Command.Run

/-- What a run over files gives is made of the runs over its single files from the same model, and
the command exits by its count of failures. -/
theorem Command.Run.extractFiles_concatenated {t : FileTree} {m : Model} {container : String}
    {c : Container} (declared : m.container? container = some c) :
    (∀ files others, ofFiles t m container (files ++ others) = do
      let r ← ofFiles t m container files
      return r.append (← ofFiles t m container others)) ∧
    (∀ files, ofFiles t m container files =
      (files.mapM fun file => ofFiles t m container [file]).map (joined container)) ∧
    (∀ files m' r, extractFiles t m container files = .ok (m', r) →
      ofFiles t m' container = ofFiles t m container) ∧
    (∀ files r, ofFiles t m container files = .ok r →
      r.total = files.length ∧ r.Balanced ∧
        r.payloads.map Prod.fst =
          files.reduceOption.filter fun file => (t.document file dataOrigin).isOk) ∧
    ∀ arguments path data parent json code,
      Task.ofArguments arguments = .ok (.extract path (some container) data parent json) →
      modelOf t path parent = .ok m → data ≠ [] →
      (Command.run t arguments).ending = .ok code →
      ∃ r, ofFiles t m container data = .ok r ∧ (code = 0 ↔ r.failed = 0) := by
  refine ⟨ofFiles_append, ofFiles_eq_joined, ?_, ?_, ?_⟩
  · intro files m' r extracted
    exact ofFiles_congr (setSource_foldlM (r := start container files.length) extracted)
  · intro files r run
    rw [ofFiles_eq, map_eq_ok] at run
    obtain ⟨parts, each, rfl⟩ := run
    have goesOn := mapM_eq_ok_iff_forall₂.mp each
    refine ⟨goesOn.length_eq.symm, balanced_ofParts parts, ?_⟩
    rw [names_ofParts, files_filter declared goesOn]
  · intro arguments path data parent json code task loaded given ends
    have nonempty : data.isEmpty = false := by simpa using given
    rw [Command.run, task] at ends
    simp only [withModel, loaded, Command.extract, declared, nonempty, Bool.false_eq_true, if_false]
      at ends
    cases run : ofFiles t m container data with
    | error fault =>
        rw [ofFiles] at run
        rw [run] at ends
        cases ends
    | ok r =>
        refine ⟨r, rfl, ?_⟩
        rw [ofFiles] at run
        rw [run] at ends
        rw [ending_print ends]
        simp [hasFailures, Nat.pos_iff_ne_zero]

def Command.readings : FileTree := .ofList [
  ("m.json", "\x7b\"containers\": \x7b\"u\": \x7b\"fields\": \x7b\"n\": \"upper\"\x7d\x7d\x7d\x7d"),
  ("a.json", "\x7b\"n\": \"ann\"\x7d"), ("b.json", "\x7b")]

def Command.readingArguments : List String :=
  ["extract", "m.json", "-c", "u", "-d", "a.json", "-d", "b.json", "-d", "a.json"]

def Command.readingFiles : List (Option String) := [some "a.json", some "b.json", some "a.json"]

theorem Command.Run.extractFiles_concatenated_readings : ∃ m c r m',
    modelOf readings "m.json" none = .ok m ∧ m.container? "u" = some c ∧
      extractFiles readings m "u" readingFiles = .ok (m', r) ∧
      ofFiles readings m' "u" = ofFiles readings m "u" ∧ r.total = 3 ∧ r.failed ≠ 0 ∧
      r.payloads.map Prod.fst = ["a.json", "a.json"] := by
  obtain ⟨m, loaded⟩ := exists_of_isOk
    (show (modelOf readings "m.json" none).isOk = true by decide +kernel)
  have there : ((modelOf readings "m.json" none).map fun m =>
      (m.container? "u").isSome).toOption = some true := by decide +kernel
  rw [loaded] at there
  obtain ⟨c, declared⟩ := Option.isSome_iff_exists.mp (Option.some.inj there)
  have ends : (Command.run readings readingArguments).ending = .ok 1 :=
    toOption_eq_some.mp (by decide +kernel)
  obtain ⟨-, -, again, counts, exits⟩ := extractFiles_concatenated declared (t := readings)
  obtain ⟨r, run, code⟩ := exits readingArguments "m.json" readingFiles none false 1
    (by decide +kernel) loaded (by decide) ends
  obtain ⟨total, -, names⟩ := counts readingFiles r run
  obtain ⟨⟨m', _⟩, extracted, rfl⟩ := map_eq_ok.mp run
  have failed (none : _ = 0) : False := absurd (code.mpr none) (by decide)
  refine ⟨m, c, _, m', loaded, declared, extracted, again _ _ _ extracted, total, failed, ?_⟩
  exact names.trans (by decide +kernel)

end FieldMap
