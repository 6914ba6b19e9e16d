import FieldMap.Text.Blank

/-!
Cutting a processor spec at its dots. A dot cuts where it stands outside quotes and outside
brackets; the parameters of modifiers may hold dots between quotes or brackets.
-/

namespace FieldMap.Chain

/-- How far a scan has come: inside which quote, right after a backslash, inside how many
brackets. -/
structure Scan where
  quote : Option Char
  escaped : Bool
  depth : Nat
  deriving DecidableEq, Repr

namespace Scan

def start : Scan := ⟨none, false, 0⟩

def atTop (s : Scan) : Bool := s.quote.isNone && s.depth == 0

/-- The scan after one more character. A closing bracket without its opening one does not
count. -/
def step (s : Scan) (c : Char) : Scan :=
  match s.quote with
  | some quote =>
    if s.escaped then { s with escaped := false }
    else if c = '\\' then { s with escaped := true }
    else if c = quote then { s with quote := none }
    else s
  | none =>
    if c = '"' ∨ c = '\'' then { s with quote := some c }
    else if c = '[' ∨ c = '\x7b' then { s with depth := s.depth + 1 }
    else if c = ']' ∨ c = '\x7d' then { s with depth := s.depth - 1 }
    else s

def run (s : Scan) (cs : List Char) : Scan := cs.foldl step s

end Scan

def pieces (s : Scan) : List Char → List (List Char)
  | [] => [[]]
  | c :: cs =>
    if s.atTop ∧ c = '.' then [] :: pieces s cs
    else match pieces (s.step c) cs with
      | [] => [[c]]
      | piece :: rest => (c :: piece) :: rest

def splitChars (cs : List Char) : List (List Char) :=
  ((pieces .start cs).map Text.stripChars).filter (!·.isEmpty)

def split (spec : String) : List String := (splitChars spec.toList).map String.ofList

end FieldMap.Chain
