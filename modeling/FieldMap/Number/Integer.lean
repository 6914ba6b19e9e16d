import FieldMap.Text.Blank
import FieldMap.Text.Digit

/-!
Whole numbers as decimal text. Numbers of more than `digitLimit` digits are neither read nor
written.
-/

namespace FieldMap.Number

def digitLimit : Nat := 4300

inductive IntegerError where
  | malformed
  | tooLong (digits : Nat)
  deriving DecidableEq, Repr

def ofDigits (digits : List Char) : Nat :=
  digits.foldl (fun n c => 10 * n + (Text.digitValue? c).getD 0) 0

def splitSign : List Char → Bool × List Char
  | '-' :: cs => (true, cs)
  | '+' :: cs => (false, cs)
  | cs => (false, cs)

def groupedDigits? : List Char → Option (List Char)
  | [] => none
  | [c] => if Text.isDecimal c then some [c] else none
  | c :: '_' :: cs => if Text.isDecimal c then (groupedDigits? cs).map (c :: ·) else none
  | c :: cs => if Text.isDecimal c then (groupedDigits? cs).map (c :: ·) else none

def ofSignedDigits (negative : Bool) (digits : List Char) : Except IntegerError Int :=
  if digitLimit < digits.length then .error (.tooLong digits.length)
  else .ok (if negative then -(ofDigits digits : Int) else ofDigits digits)

def readInteger (cs : List Char) : Except IntegerError Int :=
  let (negative, rest) := splitSign (Text.trimmed Text.isNumberBlank cs)
  match groupedDigits? rest with
  | none => .error .malformed
  | some digits => ofSignedDigits negative digits

def isWritable (n : Int) : Bool := n.natAbs < Nat.pow 10 digitLimit

def integerText (n : Int) : List Char :=
  if n < 0 then '-' :: Nat.toDigits 10 n.natAbs else Nat.toDigits 10 n.natAbs

end FieldMap.Number
