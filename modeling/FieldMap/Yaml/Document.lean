import FieldMap.Text.Base64
import FieldMap.Value.Equality
import FieldMap.Yaml.Node

/-!
The value of a YAML document. Only the tags of YAML 1.1 have a meaning; mappings that are merged
into another one yield to the entries that the other has of its own. Values are made from the root
on: every collection waits for its parts until all collections found before it have theirs, so that
of several faults the first one met on this way is reported. A node that is used again has one
value.
-/

namespace FieldMap.Yaml

namespace Tag

def isCollection : Tag → Bool
  | .seq | .map | .set | .orderedMap | .pairs => true
  | _ => false

end Tag

namespace Node

def tag : Node → Tag
  | scalar tag _ | sequence tag _ | mapping tag _ => tag

def withTag (tag : Tag) : Node → Node
  | scalar _ text => scalar tag text
  | sequence _ items => sequence tag items
  | mapping _ entries => mapping tag entries

end Node

abbrev Nodes := Array Node

namespace Nodes

def tagAt (nodes : Nodes) (place : Nat) : Tag := (nodes.getD place .empty).tag

/-- The text of a scalar. A mapping stands for the scalar that it has under the key `=`. -/
def textAt (nodes : Nodes) : Nat → Nat → Except Fault String
  | 0, _ => .error (.tooDeep "")
  | fuel + 1, place =>
    match nodes.getD place .empty with
    | .scalar _ text => .ok text
    | .mapping _ entries =>
      match entries.find? fun entry => nodes.tagAt entry.1 = .value with
      | some (_, value) => nodes.textAt fuel value
      | none => malformed
    | .sequence .. => malformed

def entriesAt? (nodes : Nodes) (place : Nat) : Option (List (Nat × Nat)) :=
  match nodes.getD place .empty with
  | .mapping _ entries => some entries
  | _ => none

def withEntries (nodes : Nodes) (place : Nat) (entries : List (Nat × Nat)) : Nodes :=
  nodes.modify place fun node => .mapping node.tag entries

def withPlainKeys (nodes : Nodes) (entries : List (Nat × Nat)) : Nodes :=
  entries.foldl (fun nodes (key, _) =>
    if nodes.tagAt key = .value then nodes.modify key (Node.withTag .str) else nodes) nodes

def mergeCount (nodes : Nodes) : Nat :=
  nodes.foldl (fun count node =>
    match node with
    | .mapping _ entries =>
      count + (entries.filter fun entry => nodes.tagAt entry.1 = .merge).length
    | _ => count) 0

mutual

/-- Puts the entries that a mapping asks for before its own ones. A mapping that asks for itself
sees itself without the entry that asks. The fuel bounds the entries that ask. -/
def flatten (nodes : Nodes) (place : Nat) (merged : List (Nat × Nat)) : Nat → Except Fault Nodes
  | 0 => malformed
  | fuel + 1 => do
    let entries := (nodes.entriesAt? place).getD []
    match entries.find? fun entry => nodes.tagAt entry.1 = .merge with
    | none => return (nodes.withPlainKeys entries).withEntries place (merged ++ entries)
    | some entry => do
      let nodes := nodes.withEntries place (entries.erase entry)
      let (nodes, brought) ← broughtBy nodes entry.2 fuel
      flatten nodes place (merged ++ brought) fuel

def broughtBy (nodes : Nodes) (place : Nat) : Nat → Except Fault (Nodes × List (Nat × Nat))
  | 0 => malformed
  | fuel + 1 =>
    match nodes.getD place .empty with
    | .mapping .. => do
      let nodes ← flatten nodes place [] fuel
      return (nodes, (nodes.entriesAt? place).getD [])
    | .sequence _ items => do
      let (nodes, parts) ← items.foldlM (fun (nodes, parts) item => do
        match nodes.entriesAt? item with
        | none => malformed
        | some _ => do
          let nodes ← flatten nodes item [] fuel
          return (nodes, (nodes.entriesAt? item).getD [] :: parts)) (nodes, [])
      return (nodes, parts.flatten)
    | .scalar .. => malformed

end

def flattened (nodes : Nodes) (place : Nat) : Except Fault Nodes :=
  flatten nodes place [] (3 * nodes.mergeCount + 3)

end Nodes

private def truthOf (text : String) : Except Fault Value :=
  let lower := Text.lowerString text
  match Tag.truths.find? (·.1 == lower) with
  | some (_, b) => .ok (.bool b)
  | none => .error (.missingKey lower)

private def timeOf (text : String) : Except Fault Value :=
  match WrittenMoment.read? text.toList with
  | some m => m.toValue
  | none => .error (.noAttribute "NoneType" "groupdict")

private def octetsOf (text : String) : Except Fault Value :=
  if text.toList.all (·.toNat < 128) then
    match Text.base64? text.toList with
    | some octets => .ok (.octets octets)
    | none => malformed
  else malformed

def scalarValue (nan : Number.Binary64) : Tag → String → Except Fault Value
  | .null, _ => .ok .null
  | .bool, text => truthOf text
  | .int, text => (wholeOf text).map .int
  | .float, text => (fractionOf nan text).map .float
  | .binary, text => octetsOf text
  | .timestamp, text => timeOf text
  | .str, text => .ok (.text text)
  | _, _ => malformed

/-- How far the values of a document were made. A collection stands in other values as the cell of
its place. -/
structure Building where
  origin : Nat
  nodes : Nodes
  built : Array (Option Value)
  cells : Array Value
  met : Array Nat

namespace Building

def start (origin : Nat) (g : Graph) : Building :=
  { origin
    nodes := g.nodes
    built := .replicate g.nodes.size none
    cells := .replicate g.nodes.size .null
    met := #[] }

def valueAt (b : Building) (place : Nat) : Except Fault (Value × Building) :=
  match b.built.getD place none with
  | some v => .ok (v, b)
  | none => do
    let tag := b.nodes.tagAt place
    if tag.isCollection then
      let v := Value.cell place
      return (v, { b with built := b.built.setIfInBounds place (some v), met := b.met.push place })
    else
      let text ← b.nodes.textAt (b.nodes.size + 1) place
      let v ← scalarValue (.nan b.origin place) tag text
      return (v, { b with built := b.built.setIfInBounds place (some v) })

def valuesAt (b : Building) : List Nat → Except Fault (List Value × Building)
  | [] => .ok ([], b)
  | place :: places => do
    let (v, b) ← b.valueAt place
    let (vs, b) ← b.valuesAt places
    return (v :: vs, b)

private def isKey : Value → Bool
  | .cell _ => false
  | _ => true

def entriesAt (b : Building) (sofar : List (Value × Value)) :
    List (Nat × Nat) → Except Fault (List (Value × Value) × Building)
  | [] => .ok (sofar, b)
  | (key, value) :: entries => do
    let (key, b) ← b.valueAt key
    if !isKey key then malformed
    else do
      let (value, b) ← b.valueAt value
      b.entriesAt (Value.insert key value sofar) entries

def pairsAt (b : Building) : List Nat → Except Fault (List Value × Building)
  | [] => .ok ([], b)
  | place :: places => do
    match b.nodes.entriesAt? place with
    | some [(key, value)] => do
      let (key, b) ← b.valueAt key
      let (value, b) ← b.valueAt value
      let (pairs, b) ← b.pairsAt places
      return (.tuple [key, value] :: pairs, b)
    | _ => malformed

private def mappingAt (b : Building) (place : Nat) :
    Except Fault (List (Value × Value) × Building) := do
  match b.nodes.entriesAt? place with
  | none => malformed
  | some _ => do
    let b := { b with nodes := ← b.nodes.flattened place }
    b.entriesAt [] ((b.nodes.entriesAt? place).getD [])

def contentAt (b : Building) (place : Nat) : Except Fault (Value × Building) := do
  match b.nodes.getD place .empty with
  | .sequence .seq items => do
    let (items, b) ← b.valuesAt items
    return (.list items, b)
  | .sequence .orderedMap items | .sequence .pairs items => do
    let (pairs, b) ← b.pairsAt items
    return (.list pairs, b)
  | .mapping .map _ => do
    let (entries, b) ← b.mappingAt place
    return (.mapping entries, b)
  | .mapping .set _ => do
    let (entries, b) ← b.mappingAt place
    return (.set (entries.map Prod.fst), b)
  | _ => malformed

/-- Gives their parts to the collections from the `index`-th on that was met. The fuel bounds the
collections, each of which is met once. -/
def fill (b : Building) (index : Nat) : Nat → Except Fault Building
  | 0 => .ok b
  | fuel + 1 =>
    match b.met[index]? with
    | none => .ok b
    | some place => do
      let (content, b) ← b.contentAt place
      { b with cells := b.cells.setIfInBounds place content }.fill (index + 1) fuel

def expanded (b : Building) : Nat → Value → Value
  | 0, v => v
  | fuel + 1, v => v.withCells fun place => b.expanded fuel (b.cells.getD place .null)

end Building

namespace Graph

def value (origin : Nat) (g : Graph) : Except Fault Value := do
  let (root, b) ← (Building.start origin g).valueAt g.root
  let b ← b.fill 0 (g.nodes.size + 1)
  if g.loops then
    return root.withCells (Value.ofCell origin b.cells.toList (g.nodes.size + 1))
  else return b.expanded (g.nodes.size + 1) root

end Graph

def isPrintable (c : Char) : Bool :=
  let n := c.toNat
  n == 0x09 || n == 0x0a || n == 0x0d || (0x20 ≤ n && n ≤ 0x7e) || n == 0x85 ||
    (0xa0 ≤ n && n ≤ 0xfffd) || 0x10000 ≤ n

/-- The value of the document in a text; an empty text has the value null. Documents of different
origins share no collections. -/
def read (origin : Nat) (text : String) : Except Fault Value := do
  let cs := text.toList
  if !cs.all isPrintable then malformed
  else match ← Node.ofTokens? (Token.scan cs) with
    | some g => g.value origin
    | none => return .null

end FieldMap.Yaml
