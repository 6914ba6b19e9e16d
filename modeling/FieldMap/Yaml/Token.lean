import FieldMap.Yaml.Scalar

/-!
The tokens of a YAML text. Indentation becomes tokens as well: a deeper line opens a block
collection and a shallower one closes it. A scalar or a collection turns out to be a key only when
a colon follows it, so that the place of every token that could be a key is kept for a while. A text
that cannot be divided into tokens up to its end has a fault as its last token, which stands behind
all tokens that could be told before.
-/

namespace FieldMap.Yaml

inductive Token where
  | version (major : Nat)
  | tagHandle (handle start : String)
  | otherDirective
  | documentStart
  | documentEnd
  | openBlockSequence
  | openBlockMapping
  | closeBlock
  | openSequence
  | closeSequence
  | openMapping
  | closeMapping
  | item
  | comma
  | key
  | value
  | anchor (name : String)
  | reuse (name : String)
  | tag (handle : Option String) (suffix : String)
  | scalar (plain : Bool) (text : String)
  | broken (fault : Fault)
  deriving DecidableEq, Repr

namespace Token

/-- A token that may turn out to be the start of a key. -/
structure KeyPlace where
  position : Nat
  required : Bool
  index : Nat
  line : Nat
  column : Nat

structure Reading where
  cursor : Cursor
  tokens : Array Token
  indent : Int
  outer : List Int
  keyAllowed : Bool
  place : Option KeyPlace
  outerPlaces : List (Option KeyPlace)

namespace Reading

def start (cs : List Char) : Reading :=
  { cursor := .start cs
    tokens := #[]
    indent := -1
    outer := []
    keyAllowed := true
    place := none
    outerPlaces := [] }

def inFlow (r : Reading) : Bool := !r.outerPlaces.isEmpty

def push (r : Reading) (t : Token) : Reading := { r with tokens := r.tokens.push t }

def insertAt (r : Reading) (position : Nat) (t : Token) : Reading :=
  { r with tokens := r.tokens.take position ++ #[t] ++ r.tokens.drop position }

def dropPlace (r : Reading) : Except Fault Reading :=
  if (r.place.map (·.required)).getD false then malformed else .ok { r with place := none }

def keepPlace (r : Reading) : Except Fault Reading := do
  if !r.keyAllowed then return r
  let r ← r.dropPlace
  let place :=
    { position := r.tokens.size
      required := !r.inFlow && r.indent == r.cursor.column
      index := r.cursor.index
      line := r.cursor.line
      column := r.cursor.column }
  return { r with place := some place }

/-- A key lies on one line and is not longer than 1024 characters. -/
def isStale (r : Reading) (p : KeyPlace) : Bool :=
  p.line != r.cursor.line || p.index + 1024 < r.cursor.index

def dropStale (r : Reading) : Except Fault Reading :=
  let stale := fun (p : KeyPlace) => r.isStale p
  if (r.place :: r.outerPlaces).any fun p => (p.filter stale).any (·.required) then malformed
  else
    .ok { r with
      place := r.place.filter (!stale ·)
      outerPlaces := r.outerPlaces.map fun p => p.filter (!stale ·) }

private def closed (r : Reading) (column : Int) : List Int → Reading
  | [] => r
  | indent :: outer =>
    if column < r.indent then closed { r.push .closeBlock with indent, outer } column outer else r

def closeTo (r : Reading) (column : Int) : Reading :=
  if r.inFlow then r else closed r column r.outer

def openAt (r : Reading) (column position : Nat) (t : Token) : Reading :=
  if r.indent < column then
    { r.insertAt position t with indent := column, outer := r.indent :: r.outer }
  else r

def openHere (r : Reading) (t : Token) : Except Fault Reading :=
  if r.inFlow then .ok r
  else if !r.keyAllowed then malformed
  else .ok (r.openAt r.cursor.column r.tokens.size t)

def skipSpace (r : Reading) : Nat → Reading
  | 0 => r
  | fuel + 1 =>
    let c := (r.cursor.skipWhile (· == ' ')).skipComment
    if isBreak c.here then
      skipSpace { r with cursor := c.lineBreak.2, keyAllowed := r.keyAllowed || !r.inFlow } fuel
    else { r with cursor := c }

def mark (r : Reading) (length : Nat) (t : Token) : Reading :=
  { r.push t with cursor := r.cursor.skip length }

end Reading

private def versionNumber (c : Cursor) : Except Fault (Nat × Cursor) :=
  match c.span Char.isDigit with
  | ([], _) => malformed
  | (digits, c) => .ok (Number.ofDigits digits, c)

private def uriOctets (c : Cursor) : Nat → Except Fault (List UInt8 × Cursor)
  | 0 => .ok ([], c)
  | fuel + 1 =>
    if c.here == '%' then
      match Json.hexValue? (c.peek 1), Json.hexValue? (c.peek 2) with
      | some high, some low =>
        match uriOctets (c.skip 3) fuel with
        | .ok (octets, c) => .ok (UInt8.ofNat (16 * high + low) :: octets, c)
        | .error fault => .error fault
      | _, _ => malformed
    else .ok ([], c)

private def isUriChar (c : Char) : Bool :=
  c.isAlphanum || "-;/?:@&=+$,_.!~*'()[]%".toList.contains c

private def uriParts (c : Cursor) : Nat → Except Fault (List Char × Cursor)
  | 0 => .ok ([], c)
  | fuel + 1 => do
    let (plain, c) := c.span fun ch => isUriChar ch && ch != '%'
    if c.here == '%' then
      let (octets, c) ← uriOctets c c.rest.length
      match String.fromUTF8? ⟨octets.toArray⟩ with
      | some text =>
        let (rest, c) ← uriParts c fuel
        return (plain ++ text.toList ++ rest, c)
      | none => malformed
    else return (plain, c)

private def uri (c : Cursor) : Except Fault (String × Cursor) := do
  let (text, c) ← uriParts c (c.rest.length + 1)
  if text.isEmpty then malformed else return (String.ofList text, c)

private def handle (c : Cursor) : Except Fault (String × Cursor) :=
  if c.here != '!' then malformed
  else if c.peek 1 == ' ' then .ok ("!", c.next)
  else
    let (name, c) := c.next.span isNameChar
    if c.here == '!' then .ok (String.ofList ('!' :: name ++ ['!']), c.next) else malformed

private def directive (c : Cursor) : Except Fault (Token × Cursor) := do
  let (name, c) := c.span isNameChar
  if name.isEmpty || !isBlankOrEnd c.here then malformed
  else if name == "YAML".toList then
    let (major, c) ← versionNumber (c.skipWhile (· == ' '))
    if c.here != '.' then malformed
    else
      let (_, c) ← versionNumber c.next
      if !isBlankOrEnd c.here then malformed
      else return (.version major, ← c.skipLineRest)
  else if name == "TAG".toList then
    let (handle, c) ← handle (c.skipWhile (· == ' '))
    if c.here != ' ' then malformed
    else
      let (start, c) ← uri (c.skipWhile (· == ' '))
      if !isBlankOrEnd c.here then malformed
      else return (.tagHandle handle start, ← c.skipLineRest)
  else return (.otherDirective, ← (c.skipWhile (!isBreakOrEnd ·)).skipLineRest)

private def anchorName (c : Cursor) : Except Fault (String × Cursor) :=
  let (name, c) := c.span isNameChar
  let ends := isSpaceOrEnd c.here || "?:,]\x7d%@\x60".toList.contains c.here
  if name.isEmpty || !ends then malformed else .ok (String.ofList name, c)

private def tagHere (c : Cursor) : Except Fault (Token × Cursor) := do
  let (found, c) ←
    if c.peek 1 == '<' then do
      let (name, c) ← uri (c.skip 2)
      if c.here != '>' then malformed else Except.ok (Token.tag none name, c.next)
    else if isSpaceOrEnd (c.peek 1) then Except.ok (Token.tag none "!", c.next)
    else do
      let word := c.next.rest.takeWhile (!isBlankOrEnd ·)
      let (handle, c) ← if word.contains '!' then handle c else .ok ("!", c.next)
      let (suffix, c) ← uri c
      pure (Token.tag (some handle) suffix, c)
  if isBlankOrEnd c.here then return (found, c) else malformed

def startsPlain (inFlow : Bool) (c : Cursor) : Bool :=
  let ch := c.here
  let marks := "-?:,[]\x7b\x7d#&*!|>'\"%@\x60".toList
  !(isSpaceOrEnd ch || marks.contains ch) ||
    (!isSpaceOrEnd (c.peek 1) && (ch == '-' || (!inFlow && (ch == '?' || ch == ':'))))

namespace Reading

private def betweenDocuments (r : Reading) : Except Fault Reading := do
  let r ← (r.closeTo (-1)).dropPlace
  return { r with keyAllowed := false }

private def keyPart (r : Reading) (found : Except Fault (Token × Cursor)) :
    Except Fault Reading := do
  let r ← r.keepPlace
  let (t, c) ← found
  return { r.push t with cursor := c, keyAllowed := false }

private def openFlow (r : Reading) (t : Token) : Except Fault Reading := do
  let r ← r.keepPlace
  return { r.mark 1 t with
    keyAllowed := true, place := none, outerPlaces := r.place :: r.outerPlaces }

private def closeFlow (r : Reading) (t : Token) : Except Fault Reading := do
  let r ← r.dropPlace
  match r.outerPlaces with
  | [] => malformed
  | place :: outerPlaces => return { r.mark 1 t with keyAllowed := false, place, outerPlaces }

/-- The mark of a value. What stands before it on the line was a key, if a key could stand there.
-/
private def valueMark (r : Reading) : Except Fault Reading := do
  match r.place with
  | some p =>
    let r := { r.insertAt p.position .key with place := none, keyAllowed := false }
    let r := if r.inFlow then r else r.openAt p.column p.position .openBlockMapping
    return r.mark 1 .value
  | none =>
    let r ← r.openHere .openBlockMapping
    return { r.mark 1 .value with keyAllowed := !r.inFlow }

private def blockScalar (r : Reading) (fuel : Nat) : Except Fault Reading := do
  let r ← r.dropPlace
  let (text, c) ← Block.scan (r.cursor.here == '>') r.indent r.cursor.next fuel
  return { r.push (.scalar false (String.ofList text)) with cursor := c, keyAllowed := true }

private def quotedScalar (r : Reading) (fuel : Nat) : Except Fault Reading :=
  let c := r.cursor
  r.keyPart do
    let (text, c) ← Quoted.scan (c.here == '"') c.next fuel
    return (.scalar false (String.ofList text), c)

private def plainScalar (r : Reading) (fuel : Nat) : Except Fault Reading := do
  let r ← r.keepPlace
  let (text, keyAllowed, c) :=
    Plain.scan r.inFlow (r.indent + 1) [] false r.cursor fuel
  return { r.push (.scalar true (String.ofList text)) with cursor := c, keyAllowed }

/-- The next token; `r` stands where it begins. The fuel exceeds the number of characters left. -/
private def token (r : Reading) (fuel : Nat) : Except Fault Reading := do
  let c := r.cursor
  let spaceFollows := isSpaceOrEnd (c.peek 1)
  if c.column == 0 && c.here == '%' then
    let r ← r.betweenDocuments
    let (t, c) ← directive c.next
    return { r.push t with cursor := c }
  else if c.column == 0 && c.atSeparator then
    return (← r.betweenDocuments).mark 3 (if c.here == '-' then .documentStart else .documentEnd)
  else match c.here with
  | '[' => r.openFlow .openSequence
  | '\x7b' => r.openFlow .openMapping
  | ']' => r.closeFlow .closeSequence
  | '\x7d' => r.closeFlow .closeMapping
  | ',' => return { (← r.dropPlace).mark 1 .comma with keyAllowed := true }
  | '*' => r.keyPart ((anchorName c.next).map fun (name, c) => (.reuse name, c))
  | '&' => r.keyPart ((anchorName c.next).map fun (name, c) => (.anchor name, c))
  | '!' => r.keyPart (tagHere c)
  | '\'' | '"' => r.quotedScalar fuel
  | ch =>
    if ch == '-' && spaceFollows then
      let r ← (← r.openHere .openBlockSequence).dropPlace
      return { r.mark 1 .item with keyAllowed := true }
    else if ch == '?' && (r.inFlow || spaceFollows) then
      let r ← (← r.openHere .openBlockMapping).dropPlace
      return { r.mark 1 .key with keyAllowed := !r.inFlow }
    else if ch == ':' && (r.inFlow || spaceFollows) then r.valueMark
    else if (ch == '|' || ch == '>') && !r.inFlow then r.blockScalar fuel
    else if startsPlain r.inFlow c then r.plainScalar fuel
    else malformed

/-- How many tokens are certain: one that may turn out to be the start of a key is not, and neither
are those after it. -/
def certain (r : Reading) : Nat :=
  ((r.place :: r.outerPlaces).filterMap fun p => p.map (·.position)).foldl min r.tokens.size

private def advance (r : Reading) (fuel : Nat) : Except Fault (Reading × Bool) := do
  let r ← (r.skipSpace fuel).dropStale
  let r := r.closeTo r.cursor.column
  if r.cursor.atEnd then return (← (r.closeTo (-1)).dropPlace, true)
  else return (← r.token fuel, false)

private def brokenAt (r : Reading) (count : Nat) (fault : Fault) : Array Token :=
  (r.tokens.take count).push (.broken fault)

/-- The tokens of the whole text; `ready` of those found so far were certain before the last one was
found. The fuel exceeds the number of characters left, because every token takes at least one. -/
private def remaining (r : Reading) (ready : Nat) : Nat → Array Token
  | 0 => r.brokenAt ready .yaml
  | fuel + 1 =>
    match r.dropStale with
    | .error fault => r.brokenAt ready fault
    | .ok r =>
      match r.advance (fuel + 1) with
      | .error fault => r.brokenAt r.certain fault
      | .ok (next, true) => next.tokens
      | .ok (next, false) => next.remaining r.certain fuel

end Reading

def scan (cs : List Char) : List Token :=
  let cs := if cs.head? == some '\ufeff' then cs.drop 1 else cs
  ((Reading.start cs).remaining 0 (cs.length + 1)).toList

end Token

end FieldMap.Yaml
