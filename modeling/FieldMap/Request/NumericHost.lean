import FieldMap.Fault
import FieldMap.Request.Percent
import FieldMap.Text.Cut

/-!
Hosts given by numbers: four decimal numbers, or eight groups of hexadecimal digits in brackets.
When an address is taken apart only the shape of the numbers counts; an address that is searched
for credentials must name a host that exists.
-/

namespace FieldMap.Request

def isDottedQuad (cs : List Char) : Bool :=
  let numbers := Text.cut '.' cs
  numbers.length == 4 && numbers.all fun n => 1 ≤ n.length && n.length ≤ 3 && n.all Char.isDigit

def isExactQuad (cs : List Char) : Bool :=
  let isOctet (digits : List Char) : Bool :=
    (digits == ['0'] || digits.head? != some '0') &&
      digits.foldl (fun n c => 10 * n + (c.toNat - 48)) 0 < 256
  isDottedQuad cs && (Text.cut '.' cs).all isOctet

private def isHexGroup (cs : List Char) : Bool :=
  1 ≤ cs.length && cs.length ≤ 4 && cs.all fun c => (Json.hexValue? c).isSome

private def groupCount? (isQuad : List Char → Bool) (cs : List Char) : Option Nat :=
  if cs.isEmpty then some 0
  else
    let groups := Text.cut ':' cs
    if groups.all isHexGroup then some groups.length
    else if groups.dropLast.all isHexGroup && isQuad (groups.getLastD []) then
      some (groups.length + 1)
    else none

def isNumericHost (isQuad : List Char → Bool) (cs : List Char) : Bool :=
  match Text.cutAt? "::".toList cs with
  | none => groupCount? isQuad cs == some 8
  | some (before, after) =>
    match groupCount? (fun _ => false) before, groupCount? isQuad after with
    | some m, some n => m + n ≤ 7
    | _, _ => false

private def isZone : List Char → Bool
  | [] => false
  | ['%', a, b] => (Json.hexValue? a).isSome && (Json.hexValue? b).isSome
  | '%' :: a :: b :: cs => (Json.hexValue? a).isSome && (Json.hexValue? b).isSome && isZone cs
  | [c] => isUnreserved c
  | c :: cs => isUnreserved c && isZone cs

def splitZone? (cs : List Char) : Option (List Char × Option (List Char)) :=
  let (host, zone) := Text.splitAt '%' cs
  if !isNumericHost isDottedQuad host then none
  else match zone with
    | none => some (host, none)
    | some zone =>
      match zone with
      | '2' :: '5' :: rest =>
        if isZone rest then some (host, some rest)
        else if isZone zone then some (host, some zone)
        else none
      | zone => if isZone zone then some (host, some zone) else none

def isGroupedHost (cs : List Char) : Bool :=
  let (host, zone) := Text.splitAt '%' cs
  isNumericHost isExactQuad host && zone.all fun zone => !zone.isEmpty && !zone.contains '%'

def isVersionedHost (cs : List Char) : Bool :=
  match cs with
  | 'v' :: rest =>
    match rest.span fun c => (Json.hexValue? c).isSome with
    | (_ :: _, '.' :: name) => !name.isEmpty
    | _ => false
  | _ => false

def checkBracketed (host : List Char) : Except Fault Unit :=
  if host.head? = some 'v' then
    if isVersionedHost host then .ok () else .error .badHostVersion
  else if isExactQuad host then .error .needlessBrackets
  else if isGroupedHost host then .ok ()
  else .error (.unnumberedHost (String.ofList host))

end FieldMap.Request
