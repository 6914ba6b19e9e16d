import FieldMap.Request.Address
import FieldMap.Text.Base64

/-!
Credentials in an address. A name and a password before the host are sent in a header.
-/

namespace FieldMap.Request

def leading? (b : Nat) : Option (Nat × Nat × Nat × Nat) :=
  if b < 0x80 then some (0, 0, 0, b)
  else if b < 0xc2 then none
  else if b < 0xe0 then some (1, 0x80, 0xbf, b - 0xc0)
  else if b < 0xf0 then
    some (2, if b = 0xe0 then 0xa0 else 0x80, if b = 0xed then 0x9f else 0xbf, b - 0xe0)
  else if b < 0xf5 then
    some (3, if b = 0xf0 then 0x90 else 0x80, if b = 0xf4 then 0x8f else 0xbf, b - 0xf0)
  else none

def followers (low high : Nat) : Nat → List UInt8 → List Nat
  | 0, _ | _, [] => []
  | count + 1, b :: rest =>
    if low ≤ b.toNat && b.toNat ≤ high then b.toNat :: followers 0x80 0xbf count rest else []

/-- The character that octets begin with, and how many octets after the first belong to it. Octets
that break off within a character count as one replacement character. -/
def decodedCharacter (b : UInt8) (rest : List UInt8) : Char × Nat :=
  match leading? b.toNat with
  | none => ('\ufffd', 0)
  | some (count, low, high, bits) =>
    let more := followers low high count rest
    if more.length = count then
      (Char.ofNat (more.foldl (fun n b => n * 64 + (b - 0x80)) bits), count)
    else ('\ufffd', more.length)

/-- Text from octets; those that are not part of a character become replacement characters. The
first `pending` octets belong to a character that is there already. -/
def decodeLoosely (pending : Nat) : List UInt8 → List Char
  | [] => []
  | b :: rest =>
    match pending with
    | pending + 1 => decodeLoosely pending rest
    | 0 =>
      let (c, count) := decodedCharacter b rest
      Text.charsOf c.toNat ++ decodeLoosely count rest

def latin (cs : List Char) : Except Fault (List UInt8) := do
  encodable "latin-1" "ordinal not in range(256)" (· < 0x100) cs
  return (Text.codes cs).map UInt8.ofNat

def authorityOf (url : List Char) : List Char :=
  let url := url.dropWhile fun c => c.toNat ≤ 0x20
  let url := url.filter fun c => c != '\t' && c != '\r' && c != '\n'
  let mark (c : Char) : Bool := c == '+' || c == '-' || c == '.'
  match ((Address.splitScheme? mark url).map Prod.snd).getD url with
  | '/' :: '/' :: rest => rest.takeWhile fun c => c != '/' && c != '?' && c != '#'
  | _ => []

/-- Checks the host of an authority. Brackets enclose the whole host, if there are any, and no
character may stand for one of the marks that part an address. -/
def checkAuthority (authority : List Char) : Except Fault Unit := do
  if authority.contains '[' != authority.contains ']' then throw .unbalancedHost
  if authority.contains '[' then
    let place := (Text.splitAtLast '@' authority).2
    match Text.splitAt '[' place with
    | (_, none) => checkBracketed (Text.splitAt ':' place).1
    | ([], some bracketed) =>
      let (host, after) := Text.splitAt ']' bracketed
      if after.any fun after => !after.isEmpty && after.head? != some ':' then throw .unbalancedHost
      checkBracketed host
    | _ => throw .unbalancedHost
  let hidesMark (c : Char) : Bool :=
    0x80 ≤ c.toNat && (Text.compatible c).any ("/?#@:".toList.contains ·)
  if authority.any hidesMark then throw (.compatibleHost (String.ofList authority))

def credentials? (url : List Char) : Except Fault (Option (List Char × List Char)) := do
  let authority := authorityOf url
  checkAuthority authority
  match (Text.splitAtLast '@' authority).1 with
  | none => return none
  | some user =>
    match Text.splitAt ':' user with
    | (name, some password) =>
      let decoded (cs : List Char) : List Char := decodeLoosely 0 (decodedOctets cs)
      if name.isEmpty && password.isEmpty then return none
      else return some (decoded name, decoded password)
    | _ => return none

def basicCredentials (name password : List Char) : Except Fault String := do
  let octets := (← latin name) ++ utf8 [':'] ++ (← latin password)
  return "Basic " ++ String.ofList (Text.base64 octets)

end FieldMap.Request
