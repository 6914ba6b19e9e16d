import FieldMap.FileTree
import FieldMap.Text.Wildcard

/-!
Searching for declarations. A name that leads to nothing is looked for in every directory below a
base, as it is and then with the usual suffixes. The search goes down one call for each directory
inside another. That calls run out near a thousand of them is left out: no depth of a tree is too
much here.
-/

namespace FieldMap.FileTree

def below (t : FileTree) (l : Location) : List Location :=
  match t.resolve l with
  | .ok resolved => (t.children resolved).map l.child
  | .error _ => []

def depth (t : FileTree) : Nat := (t.places.map fun place => place.names.length).foldl max 0

/-- A directory and the directories below it, down to a number of levels. With one level more than
the tree is deep this is all of them; it is no limit of the search. -/
def directoriesTo (t : FileTree) : Nat → Location → List Location
  | 0, _ => []
  | levels + 1, l =>
    match t.entry l with
    | .ok .directory => l :: (t.below l).flatMap (t.directoriesTo levels)
    | _ => []

def directories (t : FileTree) (l : Location) : List Location := t.directoriesTo (t.depth + 1) l

def select (t : FileTree) (l : Location) : List String → Except Fault (List Location)
  | [] => .ok [l]
  | part :: parts => do
    if part = "**" then
      let found ← (t.directories l).mapM fun l => t.select l parts
      return found.flatten.eraseDups
    else
      let named :=
        if Text.Wildcard.isPattern part then
          (t.below l).filter fun found => Text.likens part found.name
        else [l.child part]
      let found ← named.mapM fun l => do
        if ← if parts.isEmpty then t.hasEntry l else t.isDirectory l then t.select l parts
        else return []
      return found.flatten

def badPart (part : String) : Bool := part != "**" && Text.contains ['*', '*'] part.toList

def filesLike (t : FileTree) (base : Location) (pattern : String) :
    Except Fault (List Location) := do
  let parts := (Location.parse pattern).names
  if parts.any badPart then throw .badPattern
  if !(← t.isDirectory base) || pattern.toList.getLast? = some '/' then return []
  return (← t.select base ("**" :: parts)).filter t.isFile

def suffixes : List String := [".yml", ".yaml", ".json"]

def find (t : FileTree) (path base : String) : Except Fault Location := do
  let l := Location.parse path
  if ← t.hasEntry l then return l
  if l.isAbsolute then throw (.noDeclaration path)
  let start := Location.parse base
  if !(← t.hasEntry start) then throw (.noBase base)
  let found ← ("" :: suffixes).mapM fun suffix => t.filesLike start (path ++ suffix)
  match found.flatten with
  | file :: _ => return file
  | [] => throw (.noDeclarationUnder path base)

end FieldMap.FileTree
