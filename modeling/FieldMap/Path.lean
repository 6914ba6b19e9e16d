import FieldMap.Value.Attribute
import FieldMap.Value.Equality
import FieldMap.Text.Cut

/-!
Dotted paths through nested data: mappings are read by key, sequences by index and objects by
attribute. A walk that leads nowhere reports the segment at which it stopped; the only faults are
those that an attribute raises and those of segments that no data can be read by.
-/

namespace FieldMap

inductive Lookup where
  | found (value : Value)
  | missing (segment : Value)
  | absent
  deriving Inhabited

namespace Lookup

def value : Lookup → Value
  | found v => v
  | _ => .undefined

def isFound : Lookup → Bool
  | found _ => true
  | _ => false

def missingSegment? : Lookup → Option Value
  | missing segment => some segment
  | _ => none

end Lookup

namespace Path

def segmentsOf (path : String) : List String := (Text.cutString '.' path).filter (· != "")

def segments (path : Value) : Except Fault (List Value) :=
  if !path.truthy then .ok []
  else match path.opened with
    | .text s => .ok ((segmentsOf s).map .text)
    | v =>
      match v.members? with
      | some items => .ok (items.filter Value.truthy)
      | none => .error (.notIterable v.kind)

def indexOf? : Value → Except Fault (Option Int)
  | .text s => .ok (Number.readInteger s.toList).toOption
  | .octets content =>
    if content.all (·.toNat < 0x80) then
      .ok (Number.readInteger (content.map fun b => Char.ofNat b.toNat)).toOption
    else .ok none
  | .int n => .ok (some n)
  | .bool b => .ok (some (if b then 1 else 0))
  | .float x =>
    match x with
    | .infinite _ => .error .infiniteIndex
    | x => .ok x.truncate?
  | v => .error (.notAnIndex v.kind)

def itemAt? (items : List Value) (index : Int) : Option Value :=
  if 0 ≤ index then items[index.toNat]?
  else if 0 ≤ index + items.length then items[(index + items.length).toNat]?
  else none

mutual

def unhashable? : Value → Option String
  | .list _ => some "list"
  | .set _ => some "set"
  | .mapping _ => some "dict"
  | .readOnly _ => some "mappingproxy"
  | .cyclic ring cells index => some (Value.kind (.cyclic ring cells index))
  | .tuple items => unhashableItem? items
  | _ => none
termination_by structural v => v

def unhashableItem? : List Value → Option String
  | [] => none
  | item :: items => unhashable? item <|> unhashableItem? items
termination_by structural items => items

end

/-- Reads an attribute; one that complains of not being there is missing. -/
def readAttribute (v : Value) (name : String) : Except Fault Lookup :=
  match v with
  | .object _ attributes =>
    match attributes.lookup name with
    | some (.ok value) => .ok (.found value)
    | some (.error fault) =>
      if fault.family = .badAttribute then .ok (.missing (.text name)) else .error fault
    | none => .ok (.missing (.text name))
  | v =>
    match v.attribute? name with
    | some value => .ok (.found value)
    | none => .ok (.missing (.text name))

def read (v segment : Value) : Except Fault Lookup :=
  match v.opened with
  | .undefined | .null => .ok (.missing segment)
  | .mapping entries | .readOnly entries =>
    match unhashable? segment with
    | some kind => .error (.unhashable kind)
    | none => .ok (((Value.lookup? segment entries).map .found).getD (.missing segment))
  | .list items | .tuple items => do
    match ← indexOf? segment with
    | some index => return ((itemAt? items index).map .found).getD (.missing segment)
    | none => return .missing segment
  | v =>
    match segment with
    | .text name => readAttribute v name
    | segment => .error (.notAnAttributeName segment.kind)

def walk (v : Value) : List Value → Except Fault Lookup
  | [] => .ok (if v.isUndefined then .absent else .found v)
  | segment :: segments => do
    match ← read v segment with
    | .found next => walk next segments
    | stopped => return stopped

def resolve (v path : Value) : Except Fault Lookup := do walk v (← segments path)

end Path

end FieldMap
