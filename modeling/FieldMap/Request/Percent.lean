import FieldMap.Fault
import FieldMap.Json.Reader
import FieldMap.Text.Alphanumeric
import FieldMap.Text.Digit
import FieldMap.Text.Quoted

/-!
Percent encoding of addresses: octets that may not stand for themselves are written as a percent
sign and two hexadecimal digits.
-/

namespace FieldMap.Request

def utf8Code (code : Nat) : List UInt8 :=
  if Text.isSurrogate code then
    [code / 0x1000 + 0xe0, code / 0x40 % 0x40 + 0x80, code % 0x40 + 0x80].map UInt8.ofNat
  else String.utf8EncodeChar (Char.ofNat code)

def utf8 (cs : List Char) : List UInt8 := (Text.codes cs).flatMap utf8Code

def isUnreserved (c : Char) : Bool := c.isAlphanum || ['-', '.', '_', '~'].contains c

def percentOctet (b : UInt8) : List Char :=
  '%' :: (Text.hexDigits 2 b.toNat).map Char.toUpper

def percentEncode (allowed : Char → Bool) (cs : List Char) : List Char :=
  (utf8 cs).flatMap fun b =>
    if b.toNat < 0x80 && allowed (Char.ofNat b.toNat) then [Char.ofNat b.toNat] else percentOctet b

def encodable (encoding reason : String) (has : Nat → Bool) (cs : List Char) :
    Except Fault Unit :=
  let codes := Text.codes cs
  let before := codes.takeWhile has
  let foreign := (codes.drop before.length).takeWhile fun code => !has code
  if foreign.isEmpty then .ok ()
  else .error (.unencodable encoding reason foreign before.length)

/-- Text in the form of a query: blanks become plus signs. Half of a surrogate pair has no form. -/
def formEncode (cs : List Char) : Except Fault (List Char) := do
  encodable "utf-8" "surrogates not allowed" (!Text.isSurrogate ·) cs
  let encoded := percentEncode (fun c => isUnreserved c || c == ' ') cs
  return encoded.map fun c => if c = ' ' then '+' else c

def formEncodeOctets (content : List UInt8) : List Char :=
  content.flatMap fun b =>
    let c := Char.ofNat b.toNat
    if b.toNat < 0x80 && isUnreserved c then [c] else if c = ' ' then ['+'] else percentOctet b

def capitalEscapes : List Char → List Char × Nat
  | '%' :: a :: b :: cs =>
    if (Json.hexValue? a).isSome && (Json.hexValue? b).isSome then
      let (rest, count) := capitalEscapes cs
      ('%' :: a.toUpper :: b.toUpper :: rest, count + 1)
    else
      let (rest, count) := capitalEscapes (a :: b :: cs)
      ('%' :: rest, count)
  | c :: cs =>
    let (rest, count) := capitalEscapes cs
    (c :: rest, count)
  | [] => ([], 0)

/-- Encodes what is not allowed in a part of an address. If every percent sign of the part belongs
to an escape, the part counts as encoded already and the signs stay. -/
def encodePart (allowed : Char → Bool) (cs : List Char) : List Char :=
  let (cs, escapes) := capitalEscapes cs
  let encoded := escapes == cs.count '%'
  percentEncode (fun c => allowed c || (encoded && c == '%')) cs

def looseHexValue? (c : Char) : Option Nat := (Json.hexValue? c).or (Text.digitValue? c)

def decodeUnreserved? : List Char → Option (List Char)
  | '%' :: a :: b :: cs =>
    match looseHexValue? a, looseHexValue? b with
    | some high, some low =>
      let c := Char.ofNat (high * 16 + low)
      if isUnreserved c then (decodeUnreserved? cs).map (c :: ·)
      else (decodeUnreserved? cs).map fun rest => '%' :: a :: b :: rest
    | _, _ =>
      if Text.isAlphanumeric a && Text.isAlphanumeric b then none
      else (decodeUnreserved? (a :: b :: cs)).map ('%' :: ·)
  | c :: cs => (decodeUnreserved? cs).map (c :: ·)
  | [] => some []

def isReserved (c : Char) : Bool := "!#$&'()*+,/:;=?@[]~".toList.contains c

/-- An address with only those characters encoded that may not appear in it. Where the escapes
themselves are faulty, the percent signs are encoded too. -/
def requote (cs : List Char) : List Char :=
  match decodeUnreserved? cs with
  | some decoded => percentEncode (fun c => isUnreserved c || isReserved c || c == '%') decoded
  | none => percentEncode (fun c => isUnreserved c || isReserved c) cs

def decodedOctets : List Char → List UInt8
  | '%' :: a :: b :: cs =>
    match Json.hexValue? a, Json.hexValue? b with
    | some high, some low => UInt8.ofNat (high * 16 + low) :: decodedOctets cs
    | _, _ => utf8 ['%'] ++ decodedOctets (a :: b :: cs)
  | c :: cs => utf8 [c] ++ decodedOctets cs
  | [] => []

end FieldMap.Request
