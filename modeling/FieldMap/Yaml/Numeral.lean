import FieldMap.Fault
import FieldMap.Json.Reader
import FieldMap.Number.Arithmetic
import FieldMap.Number.Decimal
import FieldMap.Text.Cut
import FieldMap.Text.Quoted

/-!
Numbers as YAML 1.1 writes them: whole numbers to the bases 2, 8, 10 and 16, fractions, and digits
to the base 60 between colons. Low lines among the digits do not count.
-/

namespace FieldMap.Yaml

open FieldMap.Number

def isDigitOrLine (c : Char) : Bool := c.isDigit || c == '_'

def isSixtieth : List Char → Bool
  | [d] => d.isDigit
  | [d, e] => '0' ≤ d && d ≤ '5' && e.isDigit
  | _ => false

def isWhole (cs : List Char) : Bool :=
  match (splitSign cs).2 with
  | '0' :: 'b' :: digits => !digits.isEmpty && digits.all fun c => c == '0' || c == '1' || c == '_'
  | '0' :: 'x' :: digits =>
    !digits.isEmpty && digits.all fun c => (Json.hexValue? c).isSome || c == '_'
  | '0' :: digits => digits.all fun c => ('0' ≤ c && c ≤ '7') || c == '_'
  | digits =>
    match Text.cut ':' digits with
    | (d :: first) :: rest => d.isDigit && first.all isDigitOrLine && rest.all isSixtieth
    | _ => false

private def isPower : List Char → Bool
  | [] => true
  | e :: sign :: digits =>
    (e == 'e' || e == 'E') && (sign == '-' || sign == '+') && !digits.isEmpty &&
      digits.all Char.isDigit
  | _ => false

private def isFractionRest : List Char → Bool
  | '.' :: rest => isPower (rest.dropWhile isDigitOrLine)
  | _ => false

private def isSixtiethFraction (cs : List Char) : Bool :=
  match Text.cut ':' cs with
  | (d :: first) :: rest =>
    match rest.reverse with
    | [] => false
    | last :: middle =>
      let (whole, fraction) := last.span (· != '.')
      d.isDigit && first.all isDigitOrLine && middle.all isSixtieth && isSixtieth whole &&
        !fraction.isEmpty && (fraction.drop 1).all isDigitOrLine
  | _ => false

def isFraction (cs : List Char) : Bool :=
  let unsigned := (splitSign cs).2
  let isPlain :=
    match unsigned with
    | d :: rest => d.isDigit && isFractionRest (rest.dropWhile isDigitOrLine)
    | [] => false
  let startsWithPoint :=
    match cs with
    | '.' :: d :: rest => d.isDigit && isPower (rest.dropWhile isDigitOrLine)
    | _ => false
  isPlain || startsWithPoint || isSixtiethFraction unsigned ||
    [".inf", ".Inf", ".INF"].any (·.toList == unsigned) ||
    [".nan", ".NaN", ".NAN"].any (·.toList == cs)

def shownLength : Nat := 200

private def notWhole {α : Type} (base : Nat) (cs : List Char) : Except Fault α :=
  .error (.badNumber (s!"invalid literal for int() with base {base}: " ++
    String.ofList ((Text.quoted cs).take shownLength)))

private def decimalInteger (cs : List Char) : Except Fault Int :=
  match readInteger cs with
  | .ok n => .ok n
  | .error .malformed => notWhole 10 cs
  | .error (.tooLong digits) => .error (.digitLimit (some digits))

private def basedInteger (base : Nat) (letter : Char) (cs : List Char) : Except Fault Int :=
  let (negative, rest) := splitSign (Text.trimmed Text.isNumberBlank cs)
  let digits :=
    match rest with
    | '0' :: c :: more => if c.toLower == letter then more else rest
    | _ => rest
  let value := digits.foldlM (fun n c =>
    match Json.hexValue? c <|> Text.digitValue? c with
    | some d => if d < base then some (base * n + d) else none
    | none => none) 0
  match digits, value with
  | _ :: _, some (n : Nat) => .ok (if negative then -(n : Int) else n)
  | _, _ => notWhole base cs

private def signAndRest (cs : List Char) : Except Fault (Bool × List Char) :=
  if cs.isEmpty then .error .emptyText else .ok (splitSign cs)

def wholeOf (text : String) : Except Fault Int := do
  let (negative, cs) ← signAndRest (text.toList.filter (· != '_'))
  let size ←
    match cs with
    | [] => .error .emptyText
    | ['0'] => Except.ok 0
    | '0' :: 'b' :: digits => basedInteger 2 'b' digits
    | '0' :: 'x' :: digits => basedInteger 16 'x' digits
    | '0' :: _ => basedInteger 8 'o' cs
    | _ =>
      if cs.contains ':' then do
        let digits ← (Text.cut ':' cs).mapM decimalInteger
        pure (digits.foldl (fun n d => 60 * n + d) 0)
      else decimalInteger cs
  return if negative then -size else size

private def fractionHere (nan : Binary64) (cs : List Char) : Except Fault Binary64 :=
  let stripped := Text.trimmed Text.isNumberBlank cs
  let (negative, unsigned) := splitSign stripped
  if unsigned == "inf".toList || unsigned == "infinity".toList then .ok (.infinite negative)
  else if unsigned == "nan".toList then .ok nan
  else
    match Binary64.ofText? stripped with
    | some x => .ok x
    | none =>
      .error (.badNumber ("could not convert string to float: " ++
        Text.quotedString (String.ofList cs)))

/-- The sum of digits to the base 60, the last of which counts least. A place of so great a value
that no 64-bit number is near it cannot be used. -/
private def sixtiethSum (digits : List Binary64) : Except Fault Binary64 :=
  digits.reverse.zipIdx.foldlM (fun sum (d, place) =>
    match Binary64.ofInt (Nat.pow 60 place : Nat) with
    | .infinite _ => .error .hugeNumber
    | unit => .ok (sum.add (d.mul unit))) (Binary64.zero false)

def sharedNan : Binary64 := .nan 0 1

/-- The fraction that a scalar denotes; `nan` is the not-a-number to use where the scalar does not
name the shared one. -/
def fractionOf (nan : Binary64) (text : String) : Except Fault Binary64 := do
  let (negative, cs) ← signAndRest ((Text.lowerString text).toList.filter (· != '_'))
  let sign := Binary64.ofInt (if negative then -1 else 1)
  if cs == ".inf".toList then return .infinite negative
  else if cs == ".nan".toList then return sharedNan
  else
    let size ←
      if cs.contains ':' then do sixtiethSum (← (Text.cut ':' cs).mapM (fractionHere nan))
      else fractionHere nan cs
    return if size.isNan then nan else sign.mul size

end FieldMap.Yaml
