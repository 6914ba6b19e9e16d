/-!
Octets written with 64 characters, six bits each. When they are read, characters outside of the
alphabet do not count, and nothing counts behind the padding of a group.
-/

namespace FieldMap.Text

def base64Digit (n : Nat) : Char :=
  if n < 26 then Char.ofNat (65 + n)
  else if n < 52 then Char.ofNat (71 + n)
  else if n < 62 then Char.ofNat (n - 4)
  else if n = 62 then '+' else '/'

def base64 : List UInt8 → List Char
  | [] => []
  | [a] =>
    let n := a.toNat * 16
    [base64Digit (n / 64), base64Digit (n % 64), '=', '=']
  | [a, b] =>
    let n := (a.toNat * 256 + b.toNat) * 4
    [base64Digit (n / 4096), base64Digit (n / 64 % 64), base64Digit (n % 64), '=']
  | a :: b :: c :: rest =>
    let n := (a.toNat * 256 + b.toNat) * 256 + c.toNat
    base64Digit (n / 262144) :: base64Digit (n / 4096 % 64) :: base64Digit (n / 64 % 64) ::
      base64Digit (n % 64) :: base64 rest

def sixBits? (c : Char) : Option Nat :=
  if 'A' ≤ c && c ≤ 'Z' then some (c.toNat - 'A'.toNat)
  else if 'a' ≤ c && c ≤ 'z' then some (c.toNat - 'a'.toNat + 26)
  else if c.isDigit then some (c.toNat - '0'.toNat + 52)
  else if c == '+' then some 62
  else if c == '/' then some 63
  else none

/-- The characters of the alphabet up to the end of a padded group. `place` is the place in the
group of four, and `pads` counts the padding that was met at that place. -/
def base64Digits (place pads : Nat) : List Char → List Nat
  | [] => []
  | c :: cs =>
    if c == '=' then
      if 2 ≤ place && 4 ≤ place + pads + 1 then []
      else base64Digits place (if 2 ≤ place then pads + 1 else pads) cs
    else match sixBits? c with
      | some n => n :: base64Digits ((place + 1) % 4) 0 cs
      | none => base64Digits place pads cs

def base64Complete (place pads : Nat) : List Char → Bool
  | [] => place == 0
  | c :: cs =>
    if c == '=' then
      if 2 ≤ place && 4 ≤ place + pads + 1 then true
      else base64Complete place (if 2 ≤ place then pads + 1 else pads) cs
    else if (sixBits? c).isSome then base64Complete ((place + 1) % 4) 0 cs
    else base64Complete place pads cs

def octetsOfDigits : List Nat → List UInt8
  | a :: b :: c :: d :: rest =>
    UInt8.ofNat (4 * a + b / 16) :: UInt8.ofNat (16 * (b % 16) + c / 4) ::
      UInt8.ofNat (64 * (c % 4) + d) :: octetsOfDigits rest
  | [a, b, c] => [UInt8.ofNat (4 * a + b / 16), UInt8.ofNat (16 * (b % 16) + c / 4)]
  | [a, b] => [UInt8.ofNat (4 * a + b / 16)]
  | _ => []

def base64? (cs : List Char) : Option (List UInt8) :=
  if base64Complete 0 0 cs then some (octetsOfDigits (base64Digits 0 0 cs)) else none

end FieldMap.Text
