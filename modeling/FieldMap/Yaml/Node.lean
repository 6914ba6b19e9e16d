import FieldMap.Yaml.Tag
import FieldMap.Yaml.Token

/-!
The nodes of a YAML document: scalars, sequences and mappings, each with its tag. Every node has a
place in the order in which nodes begin, and collections hold the places of their parts. A node that
is used again is the same node, so that a collection may even be a part of itself.
-/

namespace FieldMap.Yaml

inductive Node where
  | scalar (tag : Tag) (text : String)
  | sequence (tag : Tag) (items : List Nat)
  | mapping (tag : Tag) (entries : List (Nat × Nat))

structure Graph where
  nodes : Array Node
  root : Nat
  loops : Bool

namespace Node

def empty : Node := .scalar .null ""

/-- The tokens that are left of a document, what they may refer to, and the nodes so far. There is
nothing yet at the place of a node that is not finished. -/
structure Rest where
  tokens : List Token
  handles : List (String × String)
  anchors : List (String × Nat)
  nodes : Array (Option Node)
  loops : Bool
  levels : Nat

def levelLimit : Nat := 485

structure Properties where
  anchor : Option String
  tag : Option String

namespace Properties

def scalarTag (p : Properties) (plain : Bool) (text : String) : Tag :=
  match p.tag with
  | none => if plain then .ofPlain text else .str
  | some name => if name = "!" then .ofPlain text else .ofName name

def collectionTag (p : Properties) (usual : Tag) : Tag :=
  match p.tag with
  | none => usual
  | some name => if name = "!" then usual else .ofName name

end Properties

namespace Rest

def ofTokens (handles : List (String × String)) (tokens : List Token) : Rest :=
  { tokens, handles, anchors := [], nodes := #[], loops := false, levels := levelLimit }

def next? (r : Rest) : Except Fault (Option Token) :=
  match r.tokens with
  | [] => .ok none
  | .broken fault :: _ => .error fault
  | t :: _ => .ok (some t)

def past (r : Rest) : Rest := { r with tokens := r.tokens.tail }

private def tagName (r : Rest) : Option String → String → Except Fault String
  | none, suffix => .ok suffix
  | some handle, suffix =>
    match r.handles.find? (·.1 = handle) with
    | some (_, start) => .ok (start ++ suffix)
    | none => malformed

private def anchorHere (r : Rest) : Except Fault (Option String × Rest) := do
  match ← r.next? with
  | some (.anchor name) => return (some name, r.past)
  | _ => return (none, r)

private def tagHere (r : Rest) : Except Fault (Option (Option String × String) × Rest) := do
  match ← r.next? with
  | some (.tag handle suffix) => return (some (handle, suffix), r.past)
  | _ => return (none, r)

def properties (r : Rest) : Except Fault (Properties × Rest) := do
  let (anchor, r) ← r.anchorHere
  let (tag, r) ← r.tagHere
  let (anchor, r) ←
    if anchor.isNone && tag.isSome then r.anchorHere else Except.ok (anchor, r)
  let tag ← tag.mapM fun (handle, suffix) => r.tagName handle suffix
  return ({ anchor, tag }, r)

def announce (r : Rest) (anchor : Option String) : Except Fault (Nat × Rest) :=
  let place := r.nodes.size
  let r := { r with nodes := r.nodes.push none }
  match anchor with
  | none => .ok (place, r)
  | some name =>
    if (r.anchors.lookup name).isSome then malformed
    else .ok (place, { r with anchors := (name, place) :: r.anchors })

def finish (r : Rest) (place : Nat) (node : Node) : Nat × Rest :=
  (place, { r with nodes := r.nodes.setIfInBounds place (some node) })

def enter (r : Rest) (anchor : Option String) : Except Fault (Nat × Rest) := do
  let (place, r) ← r.announce anchor
  match r.levels with
  | 0 => .error (.tooDeep "calling a Python object")
  | levels + 1 => return (place, { r with levels })

def leave (r : Rest) (place : Nat) (node : Node) : Nat × Rest :=
  { r with levels := r.levels + 1 }.finish place node

def put (r : Rest) (anchor : Option String) (node : Node) : Except Fault (Nat × Rest) := do
  let (place, r) ← r.announce anchor
  return r.finish place node

def leaveOut (r : Rest) : Nat × Rest :=
  (r.nodes.size, { r with nodes := r.nodes.push (some empty) })

def used (r : Rest) (name : String) : Except Fault (Nat × Rest) :=
  match r.anchors.lookup name with
  | some place =>
    .ok (place, { r with loops := r.loops || ((r.nodes[place]?).getD none).isNone })
  | none => malformed

def absent (r : Rest) (p : Properties) : Except Fault (Nat × Rest) :=
  if p.anchor.isNone && p.tag.isNone then malformed
  else r.put p.anchor (.scalar (p.scalarTag true "") "")

end Rest

private def stopsItem : Token → Bool
  | .item | .closeBlock => true
  | _ => false

private def stopsFlushItem : Token → Bool
  | .item | .key | .value | .closeBlock => true
  | _ => false

private def stopsEntry : Token → Bool
  | .key | .value | .closeBlock => true
  | _ => false

private def stopsFlowEntry (close : Token) (t : Token) : Bool := t == .comma || t == close

private def stopsFlowKey (close : Token) (t : Token) : Bool := t == .value || stopsFlowEntry close t

private def afterComma (r : Rest) (first : Bool) : Except Fault Rest := do
  if first then return r
  else match ← r.next? with
    | some .comma => return r.past
    | _ => malformed

mutual

/-- A node. Block collections are possible only outside of flow collections; `flush` tells whether
the items of a sequence may stand at the column of the mapping around it. -/
def node (block flush : Bool) (r : Rest) : Nat → Except Fault (Nat × Rest)
  | 0 => malformed
  | fuel + 1 => do
    match ← r.next? with
    | some (.reuse name) => r.past.used name
    | _ => do
      let (p, r) ← r.properties
      match ← r.next? with
      | some (.scalar plain text) => r.past.put p.anchor (.scalar (p.scalarTag plain text) text)
      | some .openSequence => do
        let (place, r) ← r.enter p.anchor
        let (items, r) ← flowItems true r.past fuel
        return r.leave place (.sequence (p.collectionTag .seq) items)
      | some .openMapping => do
        let (place, r) ← r.enter p.anchor
        let (entries, r) ← flowEntries true r.past fuel
        return r.leave place (.mapping (p.collectionTag .map) entries)
      | some .item =>
        if flush then do
          let (place, r) ← r.enter p.anchor
          let (items, r) ← flushItems r fuel
          return r.leave place (.sequence (p.collectionTag .seq) items)
        else r.absent p
      | some .openBlockSequence =>
        if block then do
          let (place, r) ← r.enter p.anchor
          let (items, r) ← blockItems r.past fuel
          return r.leave place (.sequence (p.collectionTag .seq) items)
        else r.absent p
      | some .openBlockMapping =>
        if block then do
          let (place, r) ← r.enter p.anchor
          let (entries, r) ← blockEntries r.past fuel
          return r.leave place (.mapping (p.collectionTag .map) entries)
        else r.absent p
      | _ => r.absent p

def nodeBefore (stop : Token → Bool) (block flush : Bool) (r : Rest) :
    Nat → Except Fault (Nat × Rest)
  | 0 => malformed
  | fuel + 1 => do
    if ((← r.next?).map stop).getD false then return r.leaveOut else node block flush r fuel

def valueBefore (stop : Token → Bool) (block : Bool) (r : Rest) : Nat → Except Fault (Nat × Rest)
  | 0 => malformed
  | fuel + 1 => do
    match ← r.next? with
    | some .value => nodeBefore stop block block r.past fuel
    | _ => return r.leaveOut

def blockItems (r : Rest) : Nat → Except Fault (List Nat × Rest)
  | 0 => malformed
  | fuel + 1 => do
    match ← r.next? with
    | some .item => do
      let (item, r) ← nodeBefore stopsItem true false r.past fuel
      let (items, r) ← blockItems r fuel
      return (item :: items, r)
    | some .closeBlock => return ([], r.past)
    | _ => malformed

def flushItems (r : Rest) : Nat → Except Fault (List Nat × Rest)
  | 0 => malformed
  | fuel + 1 => do
    match ← r.next? with
    | some .item => do
      let (item, r) ← nodeBefore stopsFlushItem true false r.past fuel
      let (items, r) ← flushItems r fuel
      return (item :: items, r)
    | _ => return ([], r)

def blockEntries (r : Rest) : Nat → Except Fault (List (Nat × Nat) × Rest)
  | 0 => malformed
  | fuel + 1 => do
    match ← r.next? with
    | some .key => do
      let (key, r) ← nodeBefore stopsEntry true true r.past fuel
      let (value, r) ← valueBefore stopsEntry true r fuel
      let (entries, r) ← blockEntries r fuel
      return ((key, value) :: entries, r)
    | some .closeBlock => return ([], r.past)
    | _ => malformed

def flowItems (first : Bool) (r : Rest) : Nat → Except Fault (List Nat × Rest)
  | 0 => malformed
  | fuel + 1 => do
    match ← r.next? with
    | some .closeSequence => return ([], r.past)
    | _ => do
      let r ← afterComma r first
      match ← r.next? with
      | some .closeSequence => return ([], r.past)
      | some .key => do
        let (place, r) ← r.enter none
        let (key, r) ← nodeBefore (stopsFlowKey .closeSequence) false false r.past fuel
        let (value, r) ← valueBefore (stopsFlowEntry .closeSequence) false r fuel
        let (item, r) := r.leave place (.mapping .map [(key, value)])
        let (items, r) ← flowItems false r fuel
        return (item :: items, r)
      | _ => do
        let (item, r) ← node false false r fuel
        let (items, r) ← flowItems false r fuel
        return (item :: items, r)

def flowEntries (first : Bool) (r : Rest) : Nat → Except Fault (List (Nat × Nat) × Rest)
  | 0 => malformed
  | fuel + 1 => do
    match ← r.next? with
    | some .closeMapping => return ([], r.past)
    | _ => do
      let r ← afterComma r first
      match ← r.next? with
      | some .closeMapping => return ([], r.past)
      | some .key => do
        let (key, r) ← nodeBefore (stopsFlowKey .closeMapping) false false r.past fuel
        let (value, r) ← valueBefore (stopsFlowEntry .closeMapping) false r fuel
        let (entries, r) ← flowEntries false r fuel
        return ((key, value) :: entries, r)
      | _ => do
        let (key, r) ← node false false r fuel
        let (value, r) := r.leaveOut
        let (entries, r) ← flowEntries false r fuel
        return ((key, value) :: entries, r)

end

def usualHandles : List (String × String) := [("!", "!"), ("!!", Tag.start)]

/-- The directives before a document. There is at most one version, which has to be 1, and at most
one directive for a handle. -/
private def directives (version : Bool) (handles : List (String × String)) :
    List Token → Except Fault (List (String × String) × List Token)
  | .version major :: tokens =>
    if version || major ≠ 1 then malformed else directives true handles tokens
  | .tagHandle handle start :: tokens =>
    if handles.any (·.1 = handle) then malformed
    else directives version ((handle, start) :: handles) tokens
  | .otherDirective :: tokens => directives version handles tokens
  | .broken fault :: _ => .error fault
  | tokens => .ok (handles, tokens)

private def isDocumentEnd : Token → Bool
  | .documentEnd => true
  | _ => false

private def startsExplicitly : Token → Bool
  | .version _ | .tagHandle .. | .otherDirective | .documentStart => true
  | _ => false

private def started (tokens : List Token) : Except Fault Rest := do
  let (handles, tokens) ← directives false [] tokens
  match tokens with
  | .documentStart :: tokens =>
    return .ofTokens (handles ++ usualHandles) tokens
  | _ => malformed

private def ended (r : Rest) : Except Fault Unit := do
  match r.tokens.dropWhile isDocumentEnd with
  | [] => return ()
  | tokens => do
    let _ ← started tokens
    malformed

def ofTokens? (tokens : List Token) : Except Fault (Option Graph) := do
  let fuel := 4 * tokens.length + 4
  let r : Rest := .ofTokens usualHandles tokens
  match ← r.next? with
  | none => return none
  | some first => do
    let (root, r) ←
      if startsExplicitly first then do
        let r ← started tokens
        let stops := fun t => startsExplicitly t || isDocumentEnd t
        if ((← r.next?).map stops).getD true then Except.ok r.leaveOut else node true false r fuel
      else node true false r fuel
    ended r
    return some { nodes := r.nodes.map (·.getD empty), root, loops := r.loops }

end Node

end FieldMap.Yaml
