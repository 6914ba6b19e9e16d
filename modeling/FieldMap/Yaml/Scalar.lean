import FieldMap.Json.Reader
import FieldMap.Yaml.Cursor

/-!
Scalars as they stand in a YAML text: plain, between quotes, and as blocks of lines. Line breaks
inside of a scalar are folded: a single one becomes a blank, and of several the first is dropped.
-/

namespace FieldMap.Yaml

def folded (lineBreak : List Char) (breaks : List (List Char)) : List Char :=
  (if lineBreak ≠ ['\n'] then lineBreak else if breaks.isEmpty then [' '] else []) ++ breaks.flatten

namespace Plain

def moreBreaks (c : Cursor) : Nat → Option (List (List Char)) × Cursor
  | 0 => (some [], c)
  | fuel + 1 =>
    if c.here == ' ' then moreBreaks c.next fuel
    else if isBreak c.here then
      let (lineBreak, c) := c.lineBreak
      if c.atSeparator then (none, c)
      else
        let (breaks, c) := moreBreaks c fuel
        (breaks.map (lineBreak :: ·), c)
    else (some [], c)

/-- The blanks or breaks after a part of a plain scalar; the last component tells whether a line
break was passed. Nothing is given where the scalar has to end. -/
def spaces (c : Cursor) (fuel : Nat) : Option (List Char) × Cursor × Bool :=
  let (blanks, c) := c.span (· == ' ')
  if isBreak c.here then
    let (lineBreak, c) := c.lineBreak
    if c.atSeparator then (none, c, true)
    else
      match moreBreaks c fuel with
      | (none, c) => (none, c, true)
      | (some breaks, c) => (some (folded lineBreak breaks), c, true)
  else (if blanks.isEmpty then none else some blanks, c, false)

def part (inFlow : Bool) : List Char → List Char
  | [] => []
  | c :: cs =>
    let follows := (cs.head?).getD endMark
    if isSpaceOrEnd c then []
    else if c == ':' && (isSpaceOrEnd follows || (inFlow && ",[]\x7b\x7d".toList.contains follows))
    then []
    else if inFlow && ",?[]\x7b\x7d".toList.contains c then []
    else c :: part inFlow cs

def scan (inFlow : Bool) (indent : Int) (spaces : List Char) (broken : Bool) (c : Cursor) :
    Nat → List Char × Bool × Cursor
  | 0 => ([], broken, c)
  | fuel + 1 =>
    let found := if c.here == '#' then [] else part inFlow c.rest
    if found.isEmpty then ([], broken, c)
    else
      let c := c.skip found.length
      let (after, c, brokeHere) := Plain.spaces c fuel
      let text := spaces ++ found
      match after with
      | none => (text, brokeHere, c)
      | some after =>
        if c.here == '#' || (!inFlow && c.column < indent) then (text, brokeHere, c)
        else
          let (rest, broken, c) := scan inFlow indent after brokeHere c fuel
          (text ++ rest, broken, c)

end Plain

namespace Quoted

def replacement? : Char → Option Char
  | '0' => some '\x00'
  | 'a' => some '\x07'
  | 'b' => some '\x08'
  | 't' | '\t' => some '\t'
  | 'n' => some '\n'
  | 'v' => some '\x0b'
  | 'f' => some '\x0c'
  | 'r' => some '\r'
  | 'e' => some '\x1b'
  | ' ' => some ' '
  | '"' => some '"'
  | '\\' => some '\\'
  | '/' => some '/'
  | 'N' => some '\u0085'
  | '_' => some '\u00a0'
  | 'L' => some '\u2028'
  | 'P' => some '\u2029'
  | _ => none

def codeLength? : Char → Option Nat
  | 'x' => some 2
  | 'u' => some 4
  | 'U' => some 8
  | _ => none

def charsOfCode (digits : List Char) : Except Fault (List Char) := do
  let code ← digits.foldlM (fun n d =>
    match Json.hexValue? d with
    | some v => .ok (16 * n + v)
    | none => malformed) 0
  if Nat.pow 2 31 ≤ code then .error .hugeCode
  else if 0x10ffff < code then .error (.badNumber "chr() arg not in range(0x110000)")
  else return Text.charsOf code

def breaks (c : Cursor) : Nat → Except Fault (List (List Char) × Cursor)
  | 0 => .ok ([], c)
  | fuel + 1 =>
    if c.atSeparator then malformed
    else
      let c := c.skipWhile fun ch => ch == ' ' || ch == '\t'
      if isBreak c.here then
        let (lineBreak, c) := c.lineBreak
        match breaks c fuel with
        | .ok (rest, c) => .ok (lineBreak :: rest, c)
        | .error fault => .error fault
      else .ok ([], c)

def scan (double : Bool) (c : Cursor) : Nat → Except Fault (List Char × Cursor)
  | 0 => malformed
  | fuel + 1 =>
    let goOn (text : List Char) (c : Cursor) : Except Fault (List Char × Cursor) :=
      match scan double c fuel with
      | .ok (rest, c) => .ok (text ++ rest, c)
      | .error fault => .error fault
    let ch := c.here
    if c.atEnd then malformed
    else if ch == ' ' || ch == '\t' || isBreak ch then
      let (blanks, c) := c.span fun ch => ch == ' ' || ch == '\t'
      if c.atEnd then malformed
      else if isBreak c.here then
        let (lineBreak, c) := c.lineBreak
        match breaks c fuel with
        | .ok (breaks, c) => goOn (folded lineBreak breaks) c
        | .error fault => .error fault
      else goOn blanks c
    else if !double && ch == '\'' then
      if c.peek 1 == '\'' then goOn ['\''] (c.skip 2) else .ok ([], c.next)
    else if double && ch == '"' then .ok ([], c.next)
    else if double && ch == '\\' then
      let c := c.next
      let ch := c.here
      match replacement? ch, codeLength? ch with
      | some r, _ => goOn [r] c.next
      | none, some length =>
        let c := c.next
        let digits := c.rest.take length
        if digits.length < length then malformed
        else
          match charsOfCode digits with
          | .ok cs => goOn cs (c.skip length)
          | .error fault => .error fault
      | none, none =>
        if isBreak ch then
          match breaks c.lineBreak.2 fuel with
          | .ok (breaks, c) => goOn breaks.flatten c
          | .error fault => .error fault
        else malformed
    else goOn [ch] c.next

end Quoted

namespace Block

inductive Chomping where
  | strip
  | clip
  | keep
  deriving DecidableEq

private def chomping? : Char → Option Chomping
  | '+' => some .keep
  | '-' => some .strip
  | _ => none

private def increment? (c : Char) : Except Fault (Option Nat) :=
  if c == '0' then malformed
  else .ok (if c.isDigit then some (c.toNat - '0'.toNat) else none)

def header (c : Cursor) : Except Fault ((Chomping × Option Nat) × Cursor) := do
  let (chomping, increment, c) ←
    match chomping? c.here with
    | some chomping =>
      let c := c.next
      match increment? c.here with
      | .ok (some n) => Except.ok (chomping, some n, c.next)
      | .ok none => .ok (chomping, none, c)
      | .error fault => .error fault
    | none =>
      match increment? c.here with
      | .ok (some n) =>
        let c := c.next
        match chomping? c.here with
        | some chomping => .ok (chomping, some n, c.next)
        | none => .ok (.clip, some n, c)
      | .ok none => .ok (.clip, none, c)
      | .error fault => .error fault
  if isBlankOrEnd c.here then return ((chomping, increment), ← c.skipLineRest) else malformed

def indentation (c : Cursor) (furthest : Nat) : Nat → List (List Char) × Nat × Cursor
  | 0 => ([], furthest, c)
  | fuel + 1 =>
    if c.here == ' ' then indentation c.next (max furthest c.next.column) fuel
    else if isBreak c.here then
      let (lineBreak, c) := c.lineBreak
      let (breaks, furthest, c) := indentation c furthest fuel
      (lineBreak :: breaks, furthest, c)
    else ([], furthest, c)

def indentTo (indent : Nat) (c : Cursor) : Nat → Cursor
  | 0 => c
  | fuel + 1 => if c.column < indent && c.here == ' ' then indentTo indent c.next fuel else c

def breaks (indent : Nat) (c : Cursor) : Nat → List (List Char) × Cursor
  | 0 => ([], c)
  | fuel + 1 =>
    let c := indentTo indent c indent
    if isBreak c.here then
      let (lineBreak, c) := c.lineBreak
      let (rest, c) := breaks indent c fuel
      (lineBreak :: rest, c)
    else ([], c)

/-- The lines of a block. The result holds the text, the last line break and the empty lines after
it. -/
def lines (fold : Bool) (indent : Nat) (before : List (List Char)) (c : Cursor) :
    Nat → List Char × List Char × List (List Char) × Cursor
  | 0 => ([], [], before, c)
  | fuel + 1 =>
    if c.column ≠ indent || c.atEnd then ([], [], before, c)
    else
      let indented := c.here == ' ' || c.here == '\t'
      let (line, c) := c.span (!isBreakOrEnd ·)
      let (lineBreak, c) := c.lineBreak
      let (after, c) := breaks indent c fuel
      let text := before.flatten ++ line
      if c.column = indent && !c.atEnd then
        let joint :=
          if fold && lineBreak == ['\n'] && !indented && !(c.here == ' ' || c.here == '\t') then
            if after.isEmpty then [' '] else []
          else lineBreak
        let (rest, tail) := lines fold indent after c fuel
        (text ++ joint ++ rest, tail)
      else (text, lineBreak, after, c)

def scan (fold : Bool) (indent : Int) (c : Cursor) (fuel : Nat) :
    Except Fault (List Char × Cursor) := do
  let ((chomping, increment), c) ← header c
  let least := (max 1 (indent + 1)).toNat
  let (indent, before, c) :=
    match increment with
    | none =>
      let (breaks, furthest, c) := indentation c 0 fuel
      (max least furthest, breaks, c)
    | some n =>
      let indent := least + n - 1
      let (breaks, c) := breaks indent c fuel
      (indent, breaks, c)
  let (text, lineBreak, after, c) := lines fold indent before c fuel
  let ending :=
    match chomping with
    | .strip => []
    | .clip => lineBreak
    | .keep => lineBreak ++ after.flatten
  return (text ++ ending, c)

end Block

end FieldMap.Yaml
