/-!
Surrogates: pairs of code units that stand for one character beyond the basic plane. Half of a pair
that stands alone is no character, but texts may hold it, and it is kept as a private character at
the very end of the code space. The 2048 characters whose places are taken by halves are kept as
their own two halves. So every list of characters stands for one text, and the only texts that none
stands for have the first half of one of these characters right before a second half, each on its
own. Functions that see a text letter by letter go through its codes.
-/

namespace FieldMap.Text

def isHighSurrogate (unit : Nat) : Bool := 0xd800 ≤ unit && unit < 0xdc00

def isLowSurrogate (unit : Nat) : Bool := 0xdc00 ≤ unit && unit < 0xe000

def isSurrogate (code : Nat) : Bool := isHighSurrogate code || isLowSurrogate code

def pairCode (high low : Nat) : Nat := 0x10000 + high % 0x400 * 0x400 + low % 0x400

def highOf (code : Nat) : Nat := 0xd7c0 + code / 0x400

def lowOf (code : Nat) : Nat := 0xdc00 + code % 0x400

def isDisplaced (code : Nat) : Bool := 0x10d800 ≤ code && code < 0x10e000

def ofCode (code : Nat) : Char :=
  if isSurrogate code then Char.ofNat (0x100000 + code) else Char.ofNat code

/-- What stands for a character, or for half of one, in a text. -/
def charsOf (code : Nat) : List Char :=
  if isDisplaced code then [ofCode (highOf code), ofCode (lowOf code)] else [ofCode code]

def ofPair (high low : Nat) : List Char := charsOf (pairCode high low)

def half? (c : Char) : Option Nat :=
  let unit := c.toNat % 0x100000
  if isSurrogate unit then some unit else none

/-- The code of a character; that of half a pair is the half itself. -/
def codeOf (c : Char) : Nat := (half? c).getD c.toNat

/-- The code of the character that two halves are kept for. -/
@[irreducible] def displaced? (high low : Nat) : Option Nat :=
  if isHighSurrogate high && isLowSurrogate low && isDisplaced (pairCode high low) then
    some (pairCode high low)
  else none

def codes : List Char → List Nat
  | [] => []
  | [c] => [codeOf c]
  | c :: next :: cs =>
    match displaced? (codeOf c) (codeOf next) with
    | some code => code :: codes cs
    | none => codeOf c :: codes (next :: cs)

def ofCodes (codes : List Nat) : List Char := codes.flatMap charsOf

end FieldMap.Text
