import FieldMap.Fault
import FieldMap.Number.Extended
import FieldMap.Text.Surrogate
import FieldMap.Time

/-!
The data that models read and produce: what a document holds, objects read by attribute, and the
marker of a value that is absent.
-/

namespace FieldMap

open FieldMap.Number

/-- What an object shows of itself besides its attributes. Two objects are the same thing exactly
when their identities agree. -/
structure Profile where
  kind : String
  text : String
  truth : Bool
  members : Option (List String)
  sized : Bool
  identity : List String
  deriving DecidableEq, Repr, Inhabited

inductive Value where
  | undefined
  | null
  | bool (b : Bool)
  | int (n : Int)
  | float (x : Binary64)
  | text (s : String)
  | octets (content : List UInt8)
  | date (d : Date)
  | moment (m : Moment)
  | list (items : List Value)
  | tuple (items : List Value)
  | set (items : List Value)
  | mapping (entries : List (Value × Value))
  | readOnly (entries : List (Value × Value))
  /-- A collection that holds itself, given by the cells of a ring of collections and by the index
  of its own cell. The mark tells the rings of different documents apart. -/
  | cyclic (ring : Nat) (cells : List Value) (index : Nat)
  | cell (index : Nat)
  | object (profile : Profile) (attributes : List (String × Except Fault Value))
  deriving Inhabited

namespace Value

mutual

def withCells (f : Nat → Value) : Value → Value
  | .cell index => f index
  | .list items => .list (itemsWithCells f items)
  | .tuple items => .tuple (itemsWithCells f items)
  | .mapping entries => .mapping (entriesWithCells f entries)
  | v => v
termination_by structural v => v

def itemsWithCells (f : Nat → Value) : List Value → List Value
  | [] => []
  | item :: items => withCells f item :: itemsWithCells f items
termination_by structural items => items

def entriesWithCells (f : Nat → Value) : List (Value × Value) → List (Value × Value)
  | [] => []
  | (key, value) :: entries => (key, withCells f value) :: entriesWithCells f entries
termination_by structural entries => entries

end

mutual

def cellsIn : Value → List Nat
  | .cell index => [index]
  | .list items | .tuple items => cellsInItems items
  | .mapping entries => cellsInEntries entries
  | _ => []
termination_by structural v => v

def cellsInItems : List Value → List Nat
  | [] => []
  | item :: items => cellsIn item ++ cellsInItems items
termination_by structural items => items

def cellsInEntries : List (Value × Value) → List Nat
  | [] => []
  | (_, value) :: entries => cellsIn value ++ cellsInEntries entries
termination_by structural entries => entries

end

/-- The cells that can be reached from the pending ones, each counted once. The fuel bounds how many
cells lie between. -/
def reachable (cells : List Value) (seen pending : List Nat) : Nat → List Nat
  | 0 => seen
  | fuel + 1 =>
    let next := pending.flatMap fun index => cellsIn (cells.getD index .null)
    let fresh := (next.filter fun index => !seen.contains index).eraseDups
    if fresh.isEmpty then seen else reachable cells (seen ++ fresh) fresh fuel

def isTied (cells : List Value) (index : Nat) : Bool :=
  (reachable cells [] [index] (cells.length + 1)).contains index

def ofCell (ring : Nat) (cells : List Value) : Nat → Nat → Value
  | 0, index => .cyclic ring cells index
  | fuel + 1, index =>
    if isTied cells index then .cyclic ring cells index
    else withCells (ofCell ring cells fuel) (cells.getD index .null)

def opened : Value → Value
  | .cyclic ring cells index =>
    withCells (ofCell ring cells cells.length) (cells.getD index .null)
  | v => v

/-- Follows values into the collections that hold themselves. `visit` does a value that looks like
any other, given what to do where a collection that holds itself stands in it; `again` does one that
stands inside of itself. The fuel bounds the number of collections on the way. -/
def throughRing {α : Type} (again : Value → α) (visit : (Value → α) → Value → α) :
    Nat → List Nat → Value → α
  | 0, _, v => again v
  | fuel + 1, path, v =>
    match v with
    | .cyclic _ _ index =>
      if path.contains index then again v
      else visit (throughRing again visit fuel (index :: path)) v.opened
    | v => visit (throughRing again visit fuel path) v

def ringSize : Value → Nat
  | .cyclic _ cells _ => cells.length
  | _ => 0

def kind (v : Value) : String :=
  match v.opened with
  | .undefined => "_Undefined"
  | .null => "NoneType"
  | .bool _ => "bool"
  | .int _ => "int"
  | .float _ => "float"
  | .text _ => "str"
  | .octets _ => "bytes"
  | .date _ => "datetime.date"
  | .moment _ => "datetime.datetime"
  | .list _ => "list"
  | .tuple _ => "tuple"
  | .set _ => "set"
  | .mapping _ => "dict"
  | .readOnly _ => "mappingproxy"
  | .object profile _ => profile.kind
  | .cyclic .. | .cell _ => "list"

def shortKind (v : Value) : String :=
  String.ofList (v.kind.toList.reverse.takeWhile (· != '.')).reverse

def truthy : Value → Bool
  | .undefined | .null => false
  | .bool b => b
  | .int n => n != 0
  | .float x => !x.isZero
  | .text s => s != ""
  | .octets content => !content.isEmpty
  | .date _ | .moment _ => true
  | .list items | .tuple items | .set items => !items.isEmpty
  | .mapping entries | .readOnly entries => !entries.isEmpty
  | .cyclic .. | .cell _ => true
  | .object profile _ => profile.truth

def isUndefined : Value → Bool
  | .undefined => true
  | _ => false

def isNull : Value → Bool
  | .null => true
  | _ => false

def isBool : Value → Bool
  | .bool _ => true
  | _ => false

def number? : Value → Option Extended
  | .bool b => some (.ofInt (if b then 1 else 0))
  | .int n => some (.ofInt n)
  | .float x => some (.ofBinary64 x)
  | _ => none

def isClosedBox : Value → Bool
  | .object profile _ => profile.sized && profile.members.isNone
  | _ => false

def members? (v : Value) : Option (List Value) :=
  match v.opened with
  | .text s => some ((Text.codes s.toList).map fun code => .text (String.ofList (Text.charsOf code)))
  | .octets content => some (content.map fun b => .int b.toNat)
  | .list items | .tuple items | .set items => some items
  | .mapping entries | .readOnly entries => some (entries.map Prod.fst)
  | .object profile _ => profile.members.map (·.map Value.text)
  | _ => none

end Value

end FieldMap
