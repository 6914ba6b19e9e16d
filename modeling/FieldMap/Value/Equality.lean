import FieldMap.Value

/-!
Equality of values. Numbers and truth values are equal when they stand for the same number;
collections are equal when they are of one kind and hold the same things. Collections that hold
themselves are equal only to themselves, and comparing two of them may come to no end.
-/

namespace FieldMap.Value

open FieldMap.Number

mutual

/-- Whether two values are the same thing or equal. A not-a-number is the same thing as itself. -/
def same : Value → Value → Bool
  | .undefined, .undefined => true
  | .null, .null => true
  | .text s, .text t => s == t
  | .octets a, .octets b => a == b
  | .date d, .date e => d == e
  | .moment m, .moment n => m.offset.isSome == n.offset.isSome && m.count == n.count
  | .list xs, .list ys => sameItems xs ys
  | .tuple xs, .tuple ys => sameItems xs ys
  | .set xs, .set ys => xs.length == ys.length && sameMembers xs ys
  | .mapping xs, .mapping ys | .mapping xs, .readOnly ys | .readOnly xs, .mapping ys
  | .readOnly xs, .readOnly ys => xs.length == ys.length && sameEntries xs ys
  | .cyclic a _ i, .cyclic b _ j => a == b && i == j
  | .object p _, .object q _ => p.identity == q.identity
  | .float (.nan a m), .float (.nan b n) => a == b && m == n
  | a, b =>
    match a.number?, b.number? with
    | some x, some y => x.equal y
    | _, _ => false
termination_by structural a => a

def sameItems : List Value → List Value → Bool
  | [], [] => true
  | x :: xs, y :: ys => same x y && sameItems xs ys
  | _, _ => false
termination_by structural xs => xs

def sameMembers : List Value → List Value → Bool
  | [], _ => true
  | x :: xs, ys => ys.any (same x) && sameMembers xs ys
termination_by structural xs => xs

def sameEntries : List (Value × Value) → List (Value × Value) → Bool
  | [], _ => true
  | (key, value) :: xs, ys =>
    ys.any (fun entry => same key entry.1 && same value entry.2) && sameEntries xs ys
termination_by structural xs => xs

end

def equal : Value → Value → Bool
  | .float (.nan ..), .float (.nan ..) => false
  | a, b => same a b

/-- How many levels of collections can be read, or looked at when values are compared. -/
def comparedLevels : Nat := 985

def isOne : Value → Value → Bool
  | .cyclic a _ i, .cyclic b _ j => a == b && i == j
  | _, _ => false

def settledItems? (settled : Value → Value → Option Bool) : List Value → List Value → Option Bool
  | [], [] => some true
  | x :: xs, y :: ys => do if ← settled x y then settledItems? settled xs ys else return false
  | _, _ => some false

def settledEntries? (settled : Value → Value → Option Bool) (ys : List (Value × Value)) :
    List (Value × Value) → Option Bool
  | [] => some true
  | (key, value) :: xs =>
    match ys.find? fun entry => same entry.1 key with
    | some (_, other) => do
      if ← settled other value then settledEntries? settled ys xs else return false
    | none => some false

/-- The outcome of comparing two values part by part; `none` if there are too many levels. Equal
parts are compared as well, unless they are one and the same collection. -/
def settled? : Nat → Value → Value → Option Bool
  | 0, _, _ => none
  | levels + 1, a, b =>
    if isOne a b then some true
    else match a.opened, b.opened with
      | .list xs, .list ys | .tuple xs, .tuple ys =>
        if xs.length = ys.length then settledItems? (settled? levels) xs ys else some false
      | .mapping xs, .mapping ys =>
        if xs.length = ys.length then settledEntries? (settled? levels) ys xs else some false
      | _, _ => some (same a b)

def isEndless (levels : Nat) (a b : Value) : Bool := (settled? levels a b).isNone

def lookup? (key : Value) (entries : List (Value × Value)) : Option Value :=
  (entries.find? fun entry => same entry.1 key).map Prod.snd

def insert (key value : Value) : List (Value × Value) → List (Value × Value)
  | [] => [(key, value)]
  | entry :: entries =>
    if same entry.1 key then (entry.1, value) :: entries else entry :: insert key value entries

def mappingOf (entries : List (Value × Value)) : Value :=
  .mapping (entries.foldl (fun built entry => insert entry.1 entry.2 built) [])

def member? (name : String) (entries : List (Value × Value)) : Option Value :=
  lookup? (.text name) entries

end FieldMap.Value
