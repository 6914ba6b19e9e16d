import FieldMap.Text.Range

/-!
White space, and text without it at its ends.
-/

namespace FieldMap.Text

/-- The characters of white space: the tabulators and line ends, the four information separators,
and the space and line separators of Unicode 14. -/
def blankRanges : List (Nat × Nat) :=
  [(0x09, 0x0d), (0x1c, 0x20), (0x85, 0x85), (0xa0, 0xa0), (0x1680, 0x1680), (0x2000, 0x200a),
    (0x2028, 0x2029), (0x202f, 0x202f), (0x205f, 0x205f), (0x3000, 0x3000)]

def isBlank (c : Char) : Bool := inRanges blankRanges c

def dropBlanks (cs : List Char) : List Char := cs.dropWhile isBlank

def trimmed {α : Type} (p : α → Bool) (xs : List α) : List α :=
  ((xs.dropWhile p).reverse.dropWhile p).reverse

def stripChars (cs : List Char) : List Char := trimmed isBlank cs

def isNumberBlank (c : Char) : Bool := isBlank c && !(0x1c ≤ c.toNat && c.toNat ≤ 0x1f)

def withoutFinalBreak (cs : List Char) : List Char :=
  if cs.getLast? = some '\n' then cs.dropLast else cs

def strip (s : String) : String := String.ofList (stripChars s.toList)

def blank (s : String) : Bool := s.toList.all isBlank

end FieldMap.Text
