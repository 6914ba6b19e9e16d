import FieldMap.Text.Cut

/-!
Locations of files: names between slashes, from a root or from where one is. A location is kept
without empty names and without dots that lead nowhere.
-/

namespace FieldMap

/-- A location. The root is empty unless the location is absolute. -/
structure Location where
  root : String
  names : List String
  deriving DecidableEq, Repr, Inhabited

namespace Location

def here : Location := ⟨"", []⟩

/-- The root that a text starts with: two slashes are a root of their own, other numbers of slashes
count as one. -/
def rootOf : List Char → String
  | '/' :: '/' :: '/' :: _ => "/"
  | '/' :: '/' :: _ => "//"
  | '/' :: _ => "/"
  | _ => ""

def parse (s : String) : Location :=
  ⟨rootOf s.toList, (Text.cutString '/' s).filter fun name => name != "" && name != "."⟩

def isAbsolute (l : Location) : Bool := l.root != ""

def text (l : Location) : String :=
  if l.root = "" && l.names.isEmpty then "." else l.root ++ Text.joinStrings "/" l.names

def child (l : Location) (name : String) : Location := { l with names := l.names ++ [name] }

def name (l : Location) : String := l.names.getLastD ""

def suffix (l : Location) : String :=
  let after := (l.name.toList.reverse.takeWhile (· != '.')).reverse
  let before := l.name.length - after.length
  if after.isEmpty || before ≤ 1 then "" else "." ++ String.ofList after

end Location

end FieldMap
