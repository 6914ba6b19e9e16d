import FieldMap.Command.Arguments
import FieldMap.Command.Report
import FieldMap.Model.Document

/-!
The command: it shows what a model declares, or extracts a container from data files. Faults of
files, documents and declarations are reported; a file that cannot be extracted does not keep the
others from it. Any other fault ends the command.
-/

namespace FieldMap.Command

structure Outcome where
  output : String
  ending : Except Fault Nat

namespace Outcome

def print (code : Nat) : List (Except Fault String) → Outcome
  | [] => ⟨"", .ok code⟩
  | .ok line :: lines =>
    let rest := print code lines
    ⟨line ++ "\n" ++ rest.output, rest.ending⟩
  | .error fault :: _ => ⟨"", .error fault⟩

def lines (code : Nat) (lines : List String) : Outcome := print code (lines.map .ok)

def failure (message : String) : Outcome := lines 1 ["Error: " ++ message]

end Outcome

def isReported (fault : Fault) : Bool :=
  match fault.family with
  | .missingFile | .directoryAsFile | .fileAsDirectory | .unusableFile | .yaml | .json
  | .configuration | .reference | .malformedSpec | .recursionLimit => true
  | _ => false

/-- What extracting one container from several files gave: the numbers of files, of extractions and
of failures, and entries with the names of their files. -/
structure Run where
  container : String
  total : Nat
  extracted : Nat
  failed : Nat
  payloads : List (String × Catalog Value)
  errors : List (String × String)
  warnings : List (String × String)

namespace Run

def start (container : String) (total : Nat) : Run where
  container
  total
  extracted := 0
  failed := 0
  payloads := []
  errors := []
  warnings := []

def addExtraction (r : Run) (file : String) (e : Extraction) : Run :=
  { r with
    extracted := r.extracted + 1
    payloads := r.payloads ++ [(file, e.fields)]
    warnings := r.warnings ++ e.warnings.map fun text => (file, text) }

def addFault (r : Run) (file : String) (fault : Fault) : Run :=
  { r with
    failed := r.failed + 1
    errors := r.errors ++ [(file, fault.message)] }

def hasFailures (r : Run) : Bool := 0 < r.failed

def addAttempt (r : Run) (file : String) : Except Fault Extraction → Except Fault Run
  | .ok e => .ok (r.addExtraction file e)
  | .error fault => if isReported fault then .ok (r.addFault file fault) else .error fault

def dataOrigin : Nat := 4

def withDocument (t : FileTree) (m : Model) (container file : String) : Except Fault Model := do
  m.setSource container (← t.document file dataOrigin)

def extractFile (t : FileTree) (m : Model) (r : Run) (file : String) : Except Fault (Model × Run) :=
  match withDocument t m r.container file with
  | .ok m => return (m, ← r.addAttempt file (m.extract r.container))
  | .error fault => return (m, ← r.addAttempt file (.error fault))

/-- Goes on with the model that the file before left. An option that names no file ends the run. -/
def extractNext (t : FileTree) : Model × Run → Option String → Except Fault (Model × Run)
  | _, none => .error (.notAPath "list")
  | (m, r), some file => extractFile t m r file

def extractFiles (t : FileTree) (m : Model) (container : String) (files : List (Option String)) :
    Except Fault (Model × Run) :=
  files.foldlM (extractNext t) (m, start container files.length)

def report (r : Run) (json : Bool) : List (Except Fault String) :=
  let warnings :=
    if r.warnings.isEmpty then []
    else s!"\nWarnings ({r.warnings.length}):" ::
      r.warnings.map fun (file, text) => "  Processing " ++ file ++ ": " ++ text
  let failures :=
    if r.errors.isEmpty then []
    else s!"\nFailed extractions ({r.errors.length}):" ::
      r.errors.map fun (file, text) => "  - " ++ file ++ ": " ++ text
  (warnings ++ failures).map .ok ++
    r.payloads.flatMap fun (file, fields) => outputLines json file fields

end Run

def parentOrigin : Nat := 3

def modelOf (t : FileTree) (path : String) (parent : Option String) : Except Fault Model := do
  let parent ←
    match parent.getD "" with
    | "" => Except.ok .null
    | file => t.document file parentOrigin
  Model.load t path "." (.apart parent) .none

def inspect (m : Model) (container : Option String) : Outcome :=
  match container.getD "" with
  | "" =>
    .lines 0 (overviewLines m ++ m.containers.entries.flatMap fun (_, c) => containerLines c)
  | name =>
    match m.container? name with
    | some c => .lines 0 (containerLines c)
    | none => .failure (Fault.unknownContainer name).message

def extract (t : FileTree) (m : Model) (path container : String) (data : List (Option String))
    (json : Bool) : Outcome :=
  match m.container? container with
  | none => .failure (Fault.unknownContainer container).message
  | some _ =>
    let run :=
      if data.isEmpty then (m.extract container).map ((Run.start container 1).addExtraction path)
      else (Run.extractFiles t m container data).map Prod.snd
    match run with
    | .ok run => .print (if run.hasFailures then 1 else 0) (run.report json)
    | .error fault => ⟨"", .error fault⟩

def withModel (t : FileTree) (path : String) (parent : Option String) (task : Model → Outcome) :
    Outcome :=
  match modelOf t path parent with
  | .ok m => task m
  | .error fault => if isReported fault then .failure fault.message else ⟨"", .error fault⟩

def run (t : FileTree) (arguments : List String) : Outcome :=
  match Task.ofArguments arguments with
  | .error .help => ⟨"", .ok 0⟩
  | .error .malformed => ⟨"", .ok 2⟩
  | .ok (.inspect path container) => withModel t path none fun m => inspect m container
  | .ok (.extract path container data parent json) =>
    withModel t path parent fun m =>
      match container with
      | some name => extract t m path name data json
      | none => ⟨"", .error (.unhashable "list")⟩

end FieldMap.Command
