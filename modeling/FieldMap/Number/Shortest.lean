import FieldMap.Number.Binary64
import FieldMap.Number.Integer

/-!
The shortest decimal text that reads back as a 64-bit number. Among the decimals of least length
that round to the number the nearest one is written, positionally for exponents from -4 to 15 and
with a power of ten otherwise.
-/

namespace FieldMap.Number

/-- The reals that round to one number, as bounds in units of `1 / denominator`; the bounds
themselves belong to it when `closed`. -/
structure RoundingInterval where
  low : Nat
  value : Nat
  high : Nat
  denominator : Nat
  closed : Bool

/-- The reals that round to `mantissa * 2 ^ exponent`, for a mantissa that is not zero. Below a
power of two the neighbour is only half as far away. -/
def RoundingInterval.around (mantissa : Nat) (exponent : Int) : RoundingInterval :=
  let scale := Nat.pow 2 exponent.toNat
  let denominator := 4 * Nat.pow 2 (-exponent).toNat
  let below := if mantissa = Nat.pow 2 52 ∧ Binary64.minExponent < exponent then 1 else 2
  { low := (4 * mantissa - below) * scale
    value := 4 * mantissa * scale
    high := (4 * mantissa + 2) * scale
    denominator
    closed := mantissa % 2 = 0 }

namespace RoundingInterval

def holds (i : RoundingInterval) (digits : Nat) (power : Int) : Bool :=
  let d := digits * Nat.pow 10 power.toNat * i.denominator
  let scale := Nat.pow 10 (-power).toNat
  if i.closed then i.low * scale ≤ d && d ≤ i.high * scale
  else i.low * scale < d && d < i.high * scale

def nearest? (i : RoundingInterval) (power : Int) : Option Nat :=
  let n := i.value * Nat.pow 10 (-power).toNat
  let d := i.denominator * Nat.pow 10 power.toNat
  let down := n / d
  match i.holds down power, i.holds (down + 1) power with
  | true, true => some (roundDiv n d)
  | true, false => some down
  | false, true => some (down + 1)
  | false, false => none

def magnitude (i : RoundingInterval) : Int :=
  ((Nat.toDigits 10 (i.value * Nat.pow 10 400 / i.denominator)).length : Int) - 401

def search (i : RoundingInterval) (power : Int) : Nat → Nat × Int
  | 0 => (i.value / i.denominator, 0)
  | fuel + 1 =>
    match i.nearest? power with
    | some digits => (digits, power)
    | none => i.search (power - 1) fuel

end RoundingInterval

def shortestDigits (mantissa : Nat) (exponent : Int) : List Char × Int :=
  let i := RoundingInterval.around mantissa exponent
  let (digits, power) := i.search i.magnitude 17
  let written := Nat.toDigits 10 digits
  let significant := (written.reverse.dropWhile (· == '0')).reverse
  (significant, power + written.length - 1)

def layOut (digits : List Char) (exponent : Int) : List Char :=
  if -4 ≤ exponent && exponent < 16 then
    if exponent < 0 then
      '0' :: '.' :: List.replicate (-exponent - 1).toNat '0' ++ digits
    else
      let whole := exponent.toNat + 1
      let fraction := digits.drop whole
      digits.take whole ++ List.replicate (whole - digits.length) '0' ++
        '.' :: (if fraction.isEmpty then ['0'] else fraction)
  else
    let size := Nat.toDigits 10 exponent.natAbs
    let fraction := digits.drop 1
    digits.take 1 ++ (if fraction.isEmpty then [] else '.' :: fraction) ++
      'e' :: (if exponent < 0 then '-' else '+') ::
        (if size.length < 2 then '0' :: size else size)

def Binary64.text : Binary64 → List Char
  | .nan .. => ['n', 'a', 'n']
  | .infinite negative => if negative then ['-', 'i', 'n', 'f'] else ['i', 'n', 'f']
  | .finite negative mantissa exponent =>
    let size :=
      if mantissa = 0 then ['0', '.', '0']
      else
        let (digits, exponent) := shortestDigits mantissa exponent
        layOut digits exponent
    if negative then '-' :: size else size

end FieldMap.Number
