import FieldMap.Number.Binary64
import FieldMap.Number.Integer

/-!
Decimal fractions with an optional power of ten, read as the nearest 64-bit number.
-/

namespace FieldMap.Number

structure Decimal where
  negative : Bool
  whole : List Char
  fraction : List Char
  power : Int
  deriving Repr

def spanDigits (cs : List Char) : List Char × List Char := cs.span Text.isDecimal

def splitPower (cs : List Char) : Int × List Char :=
  match cs with
  | c :: rest =>
    if c = 'e' ∨ c = 'E' then
      let (negative, rest) := splitSign rest
      match spanDigits rest with
      | ([], _) => (0, cs)
      | (digits, rest) =>
        (if negative then -(ofDigits digits : Int) else ofDigits digits, rest)
    else (0, cs)
  | [] => (0, [])

def Decimal.read? (cs : List Char) : Option (Decimal × List Char) :=
  let (negative, rest) := splitSign cs
  let (whole, rest) := spanDigits rest
  let (fraction, rest) :=
    match rest with
    | '.' :: more => spanDigits more
    | _ => ([], rest)
  if whole.isEmpty && fraction.isEmpty then none
  else
    let (power, rest) := splitPower rest
    some ({ negative, whole, fraction, power }, rest)

def Decimal.toBinary64 (d : Decimal) : Binary64 :=
  .ofDecimal d.negative (ofDigits (d.whole ++ d.fraction)) (d.power - d.fraction.length)

def Binary64.ofText? (cs : List Char) : Option Binary64 :=
  match Decimal.read? cs with
  | some (d, []) => some d.toBinary64
  | _ => none

end FieldMap.Number
