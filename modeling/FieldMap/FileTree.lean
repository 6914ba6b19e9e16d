import FieldMap.Fault
import FieldMap.Location

/-!
Files and directories below a working directory. A directory is there exactly when it is the working
directory, lies above it, has something in it, or is listed by itself. Names and locations have a
greatest length; looking for longer ones is refused.
-/

namespace FieldMap

/-- Texts by location. The names in a location are names of files and directories only. -/
structure FileTree where
  files : List (Location × String)
  bare : List Location := []

namespace FileTree

inductive Entry where
  | file (content : String)
  | directory

inductive Obstacle where
  | missing
  | blocked
  | tooLong
  | unnameable
  deriving DecidableEq, Repr

def putFile (l : Location) (content : String) :
    List (Location × String) → List (Location × String)
  | [] => [(l, content)]
  | file :: files =>
    if file.1 = l then (l, content) :: files else file :: putFile l content files

def ofList (files : List (String × String)) : FileTree :=
  { files := files.foldl (fun files (path, content) => putFile (.parse path) content files) [] }

def places (t : FileTree) : List Location := t.files.map Prod.fst ++ t.bare

def nameLimit : Nat := 255

def locationLimit : Nat := 4095

def children (t : FileTree) (l : Location) : List String :=
  (t.places.filterMap fun place =>
    if place.root = l.root && l.names.isPrefixOf place.names then
      (place.names.drop l.names.length).head?
    else none).eraseDups

def directEntry? (t : FileTree) (l : Location) : Option Entry :=
  match t.files.find? (·.1 = l) with
  | some (_, content) => some (.file content)
  | none =>
    if l.names.all (· = "..") || t.bare.contains l || !(t.children l).isEmpty then some .directory
    else none

def above (l : Location) : Location :=
  match l.names.getLast? with
  | none => if l.isAbsolute then l else l.child ".."
  | some ".." => l.child ".."
  | some _ => { l with names := l.names.dropLast }

def walk (t : FileTree) (l : Location) : List String → Except Obstacle Location
  | [] => .ok l
  | name :: names =>
    match t.directEntry? l with
    | some .directory =>
      if nameLimit < name.utf8ByteSize then .error .tooLong
      else t.walk (if name = ".." then above l else l.child name) names
    | some (.file _) => .error .blocked
    | none => .error .missing

def resolve (t : FileTree) (l : Location) : Except Obstacle Location :=
  if l.text.toList.contains '\x00' then .error .unnameable
  else if locationLimit < l.text.utf8ByteSize then .error .tooLong
  else t.walk { l with names := [] } l.names

def entry (t : FileTree) (l : Location) : Except Obstacle Entry := do
  match t.directEntry? (← t.resolve l) with
  | some found => return found
  | none => throw .missing

def entry? (t : FileTree) (l : Location) : Except Fault (Option Entry) :=
  match t.entry l with
  | .ok found => .ok (some found)
  | .error .tooLong => .error (.nameTooLong l.text)
  | .error _ => .ok none

def hasEntry (t : FileTree) (l : Location) : Except Fault Bool := (t.entry? l).map Option.isSome

def isFile (t : FileTree) (l : Location) : Bool :=
  match t.entry l with
  | .ok (.file _) => true
  | _ => false

def isDirectory (t : FileTree) (l : Location) : Except Fault Bool :=
  return match ← t.entry? l with
    | some .directory => true
    | _ => false

def plainLines : List Char → List Char
  | '\r' :: '\n' :: cs => '\n' :: plainLines cs
  | '\r' :: cs => '\n' :: plainLines cs
  | c :: cs => c :: plainLines cs
  | [] => []

def content (t : FileTree) (l : Location) : Except Fault String :=
  match t.entry l with
  | .ok (.file content) => .ok (String.ofList (plainLines content.toList))
  | .ok .directory => .error (.isDirectory l.text)
  | .error .missing => .error (.noFile l.text)
  | .error .blocked => .error (.notDirectory l.text)
  | .error .tooLong => .error (.nameTooLong l.text)
  | .error .unnameable => .error .unnameableFile

end FileTree

end FieldMap
