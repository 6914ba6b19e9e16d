import FieldMap.Text.CompatibilityTable
import FieldMap.Text.CompositionTable
import FieldMap.Text.Range

/-!
Normal forms of text. A letter with marks can be written as one character or as several, and the
marks in several orders; in its normal form a text has its marks in order and every letter composed
with the marks that it takes.
-/

namespace FieldMap.Text

def markClass (c : Char) : Nat :=
  ((markClasses.find? fun entry => inRanges entry.2 c).map Prod.fst).getD 0

def entryIn? (runs : List (Nat × List (List Nat))) (n : Nat) : Option (List Nat) :=
  runs.findSome? fun run => if run.1 ≤ n then run.2[n - run.1]? else none

def letterAndMark? (n : Nat) : Option (Nat × Nat) :=
  compositions.findSome? fun (mark, letters) =>
    (letters.find? fun entry => entry.2 = n).map fun entry => (entry.1, mark)

def syllableParts (n : Nat) : List Nat :=
  let i := n - 0xac00
  let tail := if i % 28 = 0 then [] else [0x11a7 + i % 28]
  [0x1100 + i / 588, 0x1161 + i % 588 / 28] ++ tail

def isSyllable (n : Nat) : Bool := 0xac00 ≤ n && n < 0xac00 + 11172

def canonicalParts (n : Nat) : List Nat :=
  if isSyllable n then syllableParts n
  else match entryIn? canonicalForms n with
    | some parts => parts
    | none =>
      match letterAndMark? n with
      | some (letter, mark) => (if letter < n then canonicalParts letter else [letter]) ++ [mark]
      | none => [n]
termination_by n

def compatibleParts (n : Nat) : List Nat :=
  match compatibilityRuns.find? fun run =>
      run.first ≤ n && n ≤ run.last && (n - run.first) % run.stride == 0 with
  | some run =>
    let grown := (n - run.first) / run.stride * run.advance
    match run.form with
    | head :: tail => (head + grown) :: tail
    | [] => []
  | none => (entryIn? compatibilityForms n).getD (canonicalParts n)

private def partsOf (parts : Nat → List Nat) (c : Char) : List Char :=
  if c.toNat < 0x80 then [c] else (parts c.toNat).map Char.ofNat

def canonical (c : Char) : List Char := partsOf canonicalParts c

def compatible (c : Char) : List Char := partsOf compatibleParts c

def insertMark (c : Char) : List Char → List Char
  | [] => [c]
  | d :: ds =>
    if 0 < markClass d && markClass d < markClass c then d :: insertMark c ds else c :: d :: ds

def ordered (cs : List Char) : List Char := cs.foldr insertMark []

private def syllable? (first second : Nat) : Option Nat :=
  if 0x1100 ≤ first && first < 0x1113 && 0x1161 ≤ second && second < 0x1176 then
    some (0xac00 + (first - 0x1100) * 588 + (second - 0x1161) * 28)
  else if isSyllable first && (first - 0xac00) % 28 == 0 && 0x11a7 < second && second < 0x11c3 then
    some (first + (second - 0x11a7))
  else none

def composition? (first second : Char) : Option Char :=
  let whole :=
    match syllable? first.toNat second.toNat with
    | some whole => some whole
    | none => (compositions.lookup second.toNat).bind fun letters => letters.lookup first.toNat
  whole.map Char.ofNat

/-- Composes a letter with the characters after it. Those it does not take are kept, the last one
first; they keep off all that follow of the same or a smaller class. -/
def composeFrom (letter : Char) (kept : List Char) : List Char → List Char
  | [] => letter :: kept.reverse
  | c :: cs =>
    let isApart := kept.head?.any fun d => decide (markClass c ≤ markClass d)
    match if isApart then none else composition? letter c with
    | some whole => composeFrom whole kept cs
    | none =>
      if markClass c = 0 then letter :: kept.reverse ++ composeFrom c [] cs
      else composeFrom letter (c :: kept) cs

def composed : List Char → List Char
  | [] => []
  | c :: cs => if markClass c = 0 then composeFrom c [] cs else c :: composed cs

def normalized (cs : List Char) : List Char := composed (ordered (cs.flatMap canonical))

/-- The ASCII characters among the parts of a text: letters lose their accents, special forms are
spelled out, and a character without an ASCII part vanishes. -/
def toAscii (cs : List Char) : List Char :=
  (cs.flatMap compatible).filter fun c => c.toNat < 0x80

end FieldMap.Text
