import FieldMap.Fault

/-!
A place in a YAML text, with the line and the column it is on.
-/

namespace FieldMap.Yaml

structure Cursor where
  rest : List Char
  index : Nat
  line : Nat
  column : Nat

def malformed {α : Type} : Except Fault α := .error .yaml

def isBreak (c : Char) : Bool :=
  c == '\n' || c == '\r' || c == '\u0085' || c == '\u2028' || c == '\u2029'

def endMark : Char := '\x00'

def isBreakOrEnd (c : Char) : Bool := isBreak c || c == endMark

def isSpaceOrEnd (c : Char) : Bool := c == ' ' || c == '\t' || isBreakOrEnd c

def isBlankOrEnd (c : Char) : Bool := c == ' ' || isBreakOrEnd c

def isNameChar (c : Char) : Bool := c.isAlphanum || c == '-' || c == '_'

namespace Cursor

def start (cs : List Char) : Cursor := ⟨cs, 0, 0, 0⟩

def peek (c : Cursor) (ahead : Nat) : Char := (c.rest[ahead]?).getD endMark

def here (c : Cursor) : Char := (c.rest.head?).getD endMark

def atEnd (c : Cursor) : Bool := c.rest.isEmpty

def next (c : Cursor) : Cursor :=
  match c.rest with
  | [] => c
  | ch :: rest =>
    if isBreak ch && !(ch == '\r' && rest.head? == some '\n') then
      ⟨rest, c.index + 1, c.line + 1, 0⟩
    else ⟨rest, c.index + 1, c.line, if ch = '\ufeff' then c.column else c.column + 1⟩

def skip (c : Cursor) : Nat → Cursor
  | 0 => c
  | n + 1 => c.next.skip n

def span (c : Cursor) (p : Char → Bool) : List Char × Cursor :=
  let taken := c.rest.takeWhile p
  (taken, c.skip taken.length)

def skipWhile (c : Cursor) (p : Char → Bool) : Cursor := (c.span p).2

def lineBreak (c : Cursor) : List Char × Cursor :=
  if c.here == '\r' && c.peek 1 == '\n' then (['\n'], c.skip 2)
  else if isBreak c.here then
    ([if c.here == '\u2028' || c.here == '\u2029' then c.here else '\n'], c.next)
  else ([], c)

def skipComment (c : Cursor) : Cursor := if c.here == '#' then c.skipWhile (!isBreakOrEnd ·) else c

def atSeparator (c : Cursor) : Bool :=
  (c.rest.take 3 == ['-', '-', '-'] || c.rest.take 3 == ['.', '.', '.']) && isSpaceOrEnd (c.peek 3)

def skipLineRest (c : Cursor) : Except Fault Cursor :=
  let c := (c.skipWhile (· == ' ')).skipComment
  if isBreakOrEnd c.here then .ok c.lineBreak.2 else malformed

end Cursor

end FieldMap.Yaml
