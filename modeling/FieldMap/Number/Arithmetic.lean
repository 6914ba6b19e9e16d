import FieldMap.Number.Binary64

/-!
Sums and products of 64-bit numbers: the exact result, rounded once.
-/

namespace FieldMap.Number.Binary64

def ofScaled (negative : Bool) (mantissa : Nat) (exponent : Int) : Binary64 :=
  if 0 ≤ exponent then ofRatio negative (mantissa * Nat.pow 2 exponent.toNat) 1
  else ofRatio negative mantissa (Nat.pow 2 (-exponent).toNat)

def ofInt (n : Int) : Binary64 := ofRatio (n < 0) n.natAbs 1

private def signed (negative : Bool) (n : Nat) : Int := if negative then -(n : Int) else n

def add : Binary64 → Binary64 → Binary64
  | .nan origin place, _ | _, .nan origin place => .nan origin place
  | .infinite a, .infinite b => if a = b then .infinite a else .nan 0 0
  | .infinite a, .finite .. | .finite .., .infinite a => .infinite a
  | .finite a m e, .finite b n f =>
    let low := min e f
    let sum := signed a (m * Nat.pow 2 (e - low).toNat) + signed b (n * Nat.pow 2 (f - low).toNat)
    if sum = 0 then zero (a && b) else ofScaled (sum < 0) sum.natAbs low

def mul : Binary64 → Binary64 → Binary64
  | .nan origin place, _ | _, .nan origin place => .nan origin place
  | .infinite a, .infinite b => .infinite (a != b)
  | .infinite a, .finite b n _ | .finite b n _, .infinite a =>
    if n = 0 then .nan 0 0 else .infinite (a != b)
  | .finite a m e, .finite b n f => ofScaled (a != b) (m * n) (e + f)

end FieldMap.Number.Binary64
