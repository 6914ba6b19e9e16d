/-!
Real numbers of 64 bits, held exactly: a finite number is `mantissa * 2 ^ exponent` with a mantissa
below `2 ^ 53`. Every number has one form, because the exponent is the least possible one unless
the mantissa has all of its 53 bits. Quotients are rounded to the nearest number, and a tie goes
to the even mantissa.
-/

namespace FieldMap.Number

/-- A real number of 64 bits. A not-a-number carries where it came from and a place there,
since it equals no number and yet is the same thing as itself. -/
inductive Binary64 where
  | finite (negative : Bool) (mantissa : Nat) (exponent : Int)
  | infinite (negative : Bool)
  | nan (origin place : Nat)
  deriving DecidableEq, Repr

def roundDiv (numerator denominator : Nat) : Nat :=
  let quotient := numerator / denominator
  let rest := 2 * (numerator % denominator)
  if rest < denominator then quotient
  else if denominator < rest then quotient + 1
  else quotient + quotient % 2

namespace Binary64

def minExponent : Int := -1074

def maxExponent : Int := 971

def zero (negative : Bool) : Binary64 := .finite negative 0 minExponent

private def inUnits (numerator denominator : Nat) (exponent : Int) : Nat × Nat :=
  if 0 ≤ exponent then (numerator, denominator * Nat.pow 2 exponent.toNat)
  else (numerator * Nat.pow 2 (-exponent).toNat, denominator)

private def pack (negative : Bool) (mantissa : Nat) (exponent : Int) : Binary64 :=
  let (mantissa, exponent) :=
    if mantissa = Nat.pow 2 53 then (Nat.pow 2 52, exponent + 1) else (mantissa, exponent)
  if maxExponent < exponent then .infinite negative else .finite negative mantissa exponent

def ofRatio (negative : Bool) (numerator denominator : Nat) : Binary64 :=
  if numerator = 0 then zero negative
  else
    let low := max minExponent ((numerator.log2 : Int) - denominator.log2 - 53)
    let (n, d) := inUnits numerator denominator low
    let exponent := if n / d < Nat.pow 2 53 then low else low + 1
    let (n, d) := inUnits numerator denominator exponent
    pack negative (roundDiv n d) exponent

/-- The number nearest to `mantissa * 10 ^ exponent`. Far beyond the range of finite numbers the
power of ten is not computed. -/
def ofDecimal (negative : Bool) (mantissa : Nat) (exponent : Int) : Binary64 :=
  if mantissa = 0 then zero negative
  else if 400 < exponent then .infinite negative
  else if exponent < -(400 + mantissa.log2 : Int) then zero negative
  else if 0 ≤ exponent then ofRatio negative (mantissa * Nat.pow 10 exponent.toNat) 1
  else ofRatio negative mantissa (Nat.pow 10 (-exponent).toNat)

def isZero : Binary64 → Bool
  | .finite _ mantissa _ => mantissa == 0
  | _ => false

def isNan : Binary64 → Bool
  | .nan .. => true
  | _ => false

def truncate? : Binary64 → Option Int
  | .finite negative mantissa exponent =>
    let size : Nat :=
      if 0 ≤ exponent then mantissa * Nat.pow 2 exponent.toNat
      else mantissa / Nat.pow 2 (-exponent).toNat
    some (if negative then -(size : Int) else size)
  | _ => none

end Binary64

end FieldMap.Number
