import FieldMap.Text.Printable
import FieldMap.Text.Surrogate

/-!
Text and octets between quotes. A single quote is used unless the content holds single quotes and
no double ones; the quote itself, the backslash and everything unprintable is escaped.
-/

namespace FieldMap.Text

def hexDigits (width n : Nat) : List Char :=
  let digits := Nat.toDigits 16 n
  List.replicate (width - digits.length) '0' ++ digits

def quoteFor (cs : List Char) : Char :=
  if cs.contains '\'' && !cs.contains '"' then '"' else '\''

def escapeCode (n : Nat) : List Char :=
  if n < 0x100 then '\\' :: 'x' :: hexDigits 2 n
  else if n < 0x10000 then '\\' :: 'u' :: hexDigits 4 n
  else '\\' :: 'U' :: hexDigits 8 n

def quotedCode (quote : Char) (code : Nat) : List Char :=
  let c := Char.ofNat code
  if isSurrogate code then escapeCode code
  else if c = quote ∨ c = '\\' then ['\\', c]
  else match c with
    | '\t' => ['\\', 't']
    | '\n' => ['\\', 'n']
    | '\r' => ['\\', 'r']
    | _ => if isPrintable c then [c] else escapeCode code

def quoted (cs : List Char) : List Char :=
  let quote := quoteFor cs
  quote :: (codes cs).flatMap (quotedCode quote) ++ [quote]

def quotedString (s : String) : String := String.ofList (quoted s.toList)

def quotedOctets (octets : List UInt8) : List Char :=
  let quote := quoteFor (octets.map fun b => Char.ofNat b.toNat)
  let octet (b : UInt8) : List Char :=
    if b.toNat < 0x80 then quotedCode quote b.toNat else escapeCode b.toNat
  'b' :: quote :: octets.flatMap octet ++ [quote]

end FieldMap.Text
