import FieldMap.Number.Binary64

/-!
Comparison of whole numbers and 64-bit numbers by their exact values.
-/

namespace FieldMap.Number

/-- A value on the number line: `numerator * 2 ^ exponent`, an end of the line, or off the line. -/
inductive Extended where
  | finite (numerator : Int) (exponent : Int)
  | infinite (negative : Bool)
  | nan
  deriving DecidableEq, Repr

namespace Extended

def ofInt (n : Int) : Extended := .finite n 0

def ofBinary64 : Binary64 → Extended
  | .finite negative mantissa exponent =>
    .finite (if negative then -(mantissa : Int) else mantissa) exponent
  | .infinite negative => .infinite negative
  | .nan .. => .nan

def compare? : Extended → Extended → Option Ordering
  | .nan, _ => none
  | _, .nan => none
  | .infinite a, .infinite b => some (if a = b then .eq else if a then .lt else .gt)
  | .infinite a, .finite _ _ => some (if a then .lt else .gt)
  | .finite _ _, .infinite b => some (if b then .gt else .lt)
  | .finite m e, .finite n f =>
    let low := min e f
    some (compare (m * Nat.pow 2 (e - low).toNat) (n * Nat.pow 2 (f - low).toNat))

def equal (a b : Extended) : Bool := compare? a b == some .eq

end Extended

end FieldMap.Number
