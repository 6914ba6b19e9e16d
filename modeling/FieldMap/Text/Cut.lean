/-!
Cutting text at separators.
-/

namespace FieldMap.Text

def cut (separator : Char) : List Char → List (List Char)
  | [] => [[]]
  | c :: cs =>
    if c = separator then [] :: cut separator cs
    else match cut separator cs with
      | [] => [[c]]
      | piece :: pieces => (c :: piece) :: pieces

def joinWith (separator : Char) : List (List Char) → List Char
  | [] => []
  | [piece] => piece
  | piece :: pieces => piece ++ separator :: joinWith separator pieces

def cutAt? (mark : List Char) : List Char → Option (List Char × List Char)
  | [] => if mark.isEmpty then some ([], []) else none
  | c :: cs =>
    if mark.isPrefixOf (c :: cs) then some ([], (c :: cs).drop mark.length)
    else (cutAt? mark cs).map fun (before, after) => (c :: before, after)

def contains (mark cs : List Char) : Bool := (cutAt? mark cs).isSome

def splitAt (mark : Char) (cs : List Char) : List Char × Option (List Char) :=
  match cs.span (· != mark) with
  | (before, _ :: after) => (before, some after)
  | (before, []) => (before, none)

def splitAtLast (mark : Char) (cs : List Char) : Option (List Char) × List Char :=
  let (after, before) := splitAt mark cs.reverse
  (before.map List.reverse, after.reverse)

def cutString (separator : Char) (s : String) : List String :=
  (cut separator s.toList).map String.ofList

def joinStrings (separator : String) (pieces : List String) : String :=
  String.intercalate separator pieces

end FieldMap.Text
