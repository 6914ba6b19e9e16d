import FieldMap.Value.Equality
import FieldMap.Number.Decimal
import FieldMap.Text.Surrogate

/-!
Reading JSON text. The grammar is that of JSON with `NaN`, `Infinity` and `-Infinity` besides;
objects become mappings in which the last of several values under one key counts. A text that is
not JSON is refused at the place where reading got stuck.
-/

namespace FieldMap.Json

open FieldMap.Number

/-- Where and why reading got stuck; the place is given by the number of characters left. -/
inductive Stuck where
  | malformed (problem : String) (remaining : Nat)
  | exceeded (fault : Fault)
  deriving DecidableEq, Repr

def isSpace (c : Char) : Bool := c == ' ' || c == '\t' || c == '\n' || c == '\r'

def skipSpace (cs : List Char) : List Char := cs.dropWhile isSpace

def stuckAt {α : Type} (problem : String) (cs : List Char) : Except Stuck α :=
  .error (.malformed problem cs.length)

def hexValue? (c : Char) : Option Nat :=
  if '0' ≤ c && c ≤ '9' then some (c.toNat - '0'.toNat)
  else if 'a' ≤ c && c ≤ 'f' then some (c.toNat - 'a'.toNat + 10)
  else if 'A' ≤ c && c ≤ 'F' then some (c.toNat - 'A'.toNat + 10)
  else none

def codeUnit? (a b c d : Char) : Option Nat := do
  return (((← hexValue? a) * 16 + (← hexValue? b)) * 16 + (← hexValue? c)) * 16 + (← hexValue? d)

def shortEscape? : Char → Option Char
  | '"' => some '"'
  | '\\' => some '\\'
  | '/' => some '/'
  | 'b' => some '\x08'
  | 'f' => some '\x0c'
  | 'n' => some '\n'
  | 'r' => some '\r'
  | 't' => some '\t'
  | _ => none

private def badUnit {α : Type} (cs : List Char) : Except Stuck α :=
  stuckAt "Invalid \\uXXXX escape" cs

def stringBody (opening : Nat) : List Char → Except Stuck (List Char × List Char)
  | [] => .error (.malformed "Unterminated string starting at" opening)
  | '"' :: rest => .ok ([], rest)
  | '\\' :: 'u' :: a :: b :: c :: d :: e :: rest =>
    match codeUnit? a b c d with
    | none => badUnit ('u' :: a :: b :: c :: d :: e :: rest)
    | some high =>
      match e, rest with
      | '\\', 'u' :: a :: b :: c :: d :: more =>
        if Text.isHighSurrogate high && !more.isEmpty then
          match codeUnit? a b c d with
          | none => badUnit ('u' :: a :: b :: c :: d :: more)
          | some low =>
            if Text.isLowSurrogate low then do
              let (cs, rest) ← stringBody opening more
              return (Text.ofPair high low ++ cs, rest)
            else do
              let (cs, rest) ← stringBody opening ('\\' :: 'u' :: a :: b :: c :: d :: more)
              return (Text.ofCode high :: cs, rest)
        else do
          let (cs, rest) ← stringBody opening ('\\' :: 'u' :: a :: b :: c :: d :: more)
          return (Text.ofCode high :: cs, rest)
      | e, rest => do
        let (cs, rest) ← stringBody opening (e :: rest)
        return (Text.ofCode high :: cs, rest)
  | '\\' :: 'u' :: rest => badUnit ('u' :: rest)
  | ['\\'] => .error (.malformed "Unterminated string starting at" opening)
  | '\\' :: c :: rest =>
    match shortEscape? c with
    | some escaped => do
      let (cs, rest) ← stringBody opening rest
      return (escaped :: cs, rest)
    | none => stuckAt "Invalid \\escape" ('\\' :: c :: rest)
  | c :: rest =>
    if c.toNat ≤ 0x1f then stuckAt "Invalid control character at" (c :: rest)
    else do
      let (cs, rest) ← stringBody opening rest
      return (c :: cs, rest)
termination_by cs => cs.length

def spanDigits (cs : List Char) : List Char × List Char := cs.span Char.isDigit

def fractionPart (cs : List Char) : Option (List Char) × List Char :=
  match cs with
  | '.' :: rest =>
    match spanDigits rest with
    | ([], _) => (none, cs)
    | (digits, rest) => (some digits, rest)
  | _ => (none, cs)

def powerPart (cs : List Char) : Option Int × List Char :=
  match cs with
  | c :: rest =>
    if c == 'e' || c == 'E' then
      let (negative, rest) := splitSign rest
      match spanDigits rest with
      | ([], _) => (none, cs)
      | (digits, rest) =>
        (some (if negative then -(ofDigits digits : Int) else ofDigits digits), rest)
    else (none, cs)
  | [] => (none, [])

def number (cs : List Char) : Except Stuck (Value × List Char) :=
  let (negative, rest) :=
    match cs with
    | '-' :: rest => (true, rest)
    | rest => (false, rest)
  let (whole, rest) :=
    match rest with
    | '0' :: rest => (['0'], rest)
    | rest => spanDigits rest
  if whole.isEmpty then stuckAt "Expecting value" cs
  else
    let (fraction, rest) := fractionPart rest
    let (power, rest) := powerPart rest
    if fraction.isNone && power.isNone then
      if digitLimit < whole.length then .error (.exceeded (.digitLimit (some whole.length)))
      else .ok (.int (if negative then -(ofDigits whole : Int) else ofDigits whole), rest)
    else
      let decimal : Decimal :=
        { negative, whole, fraction := fraction.getD [], power := power.getD 0 }
      .ok (.float decimal.toBinary64, rest)

def levelLimit : Nat := Value.comparedLevels

private def tooDeep {α : Type} (what : String) : Except Stuck α :=
  .error (.exceeded (.tooDeep ("decoding a JSON " ++ what ++ " from a unicode string")))

mutual

def value (levels : Nat) : Nat → List Char → Except Stuck (Value × List Char)
  | 0, cs => stuckAt "Expecting value" cs
  | fuel + 1, cs =>
    match cs with
    | '"' :: rest => do
      let (s, rest) ← stringBody cs.length rest
      return (.text (String.ofList s), rest)
    | '\x7b' :: rest =>
      match levels, skipSpace rest with
      | 0, _ => tooDeep "object"
      | _ + 1, '\x7d' :: rest => .ok (.mapping [], rest)
      | levels + 1, rest => do
        let (entries, rest) ← members levels fuel rest
        return (Value.mappingOf entries, rest)
    | '[' :: rest =>
      match levels, skipSpace rest with
      | 0, _ => tooDeep "array"
      | _ + 1, ']' :: rest => .ok (.list [], rest)
      | levels + 1, rest => do
        let (items, rest) ← items levels fuel rest
        return (.list items, rest)
    | 'n' :: 'u' :: 'l' :: 'l' :: rest => .ok (.null, rest)
    | 't' :: 'r' :: 'u' :: 'e' :: rest => .ok (.bool true, rest)
    | 'f' :: 'a' :: 'l' :: 's' :: 'e' :: rest => .ok (.bool false, rest)
    | 'N' :: 'a' :: 'N' :: rest => .ok (.float (.nan 0 0), rest)
    | 'I' :: 'n' :: 'f' :: 'i' :: 'n' :: 'i' :: 't' :: 'y' :: rest =>
      .ok (.float (.infinite false), rest)
    | '-' :: 'I' :: 'n' :: 'f' :: 'i' :: 'n' :: 'i' :: 't' :: 'y' :: rest =>
      .ok (.float (.infinite true), rest)
    | cs => number cs

def items (levels : Nat) : Nat → List Char → Except Stuck (List Value × List Char)
  | 0, cs => stuckAt "Expecting value" cs
  | fuel + 1, cs => do
    let (item, rest) ← value levels fuel cs
    match skipSpace rest with
    | ']' :: rest => return ([item], rest)
    | ',' :: rest =>
      let (others, rest) ← items levels fuel (skipSpace rest)
      return (item :: others, rest)
    | rest => stuckAt "Expecting ',' delimiter" rest

def members (levels : Nat) : Nat → List Char → Except Stuck (List (Value × Value) × List Char)
  | 0, cs => stuckAt "Expecting value" cs
  | fuel + 1, cs =>
    match cs with
    | '"' :: rest => do
      let (key, rest) ← stringBody cs.length rest
      match skipSpace rest with
      | ':' :: rest =>
        let (v, rest) ← value levels fuel (skipSpace rest)
        let entry := (Value.text (String.ofList key), v)
        match skipSpace rest with
        | '\x7d' :: rest => return ([entry], rest)
        | ',' :: rest =>
          let (others, rest) ← members levels fuel (skipSpace rest)
          return (entry :: others, rest)
        | rest => stuckAt "Expecting ',' delimiter" rest
      | rest => stuckAt "Expecting ':' delimiter" rest
    | cs => stuckAt "Expecting property name enclosed in double quotes" cs

end

/-- Reads a whole text as one value with white space around it. Every step of reading takes a
character or goes from a bracket into it, so twice the length bounds the steps. -/
def readChars (cs : List Char) : Except Stuck Value := do
  match cs with
  | '\ufeff' :: _ => stuckAt "Unexpected UTF-8 BOM (decode using utf-8-sig)" cs
  | cs =>
    let (v, rest) ← value levelLimit (2 * cs.length + 2) (skipSpace cs)
    match skipSpace rest with
    | [] => return v
    | rest => stuckAt "Extra data" rest

def read (s : String) : Except Stuck Value := readChars s.toList

def placeBefore (s : String) (remaining : Nat) : JsonPlace :=
  let past := Text.codes (s.toList.take (s.length - remaining))
  { offset := past.length
    line := past.count '\n'.toNat + 1
    column := (past.reverse.takeWhile (· != '\n'.toNat)).length + 1 }

def readDocument (s : String) : Except Fault Value :=
  match read s with
  | .ok v => .ok v
  | .error (.malformed problem remaining) => .error (.json problem (placeBefore s remaining))
  | .error (.exceeded fault) => .error fault

end FieldMap.Json
