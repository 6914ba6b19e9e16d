import FieldMap.Value.Equality

/-!
The order of values. Numbers, texts, octets, dates and sets are ordered among their own kind;
sequences are ordered by their first difference, and by length where there is none. Mappings have no
order.
-/

namespace FieldMap

inductive OrderTest where
  | less
  | lessOrEqual
  | greater
  | greaterOrEqual
  deriving DecidableEq, Repr

namespace OrderTest

def symbol : OrderTest → String
  | less => "<"
  | lessOrEqual => "<="
  | greater => ">"
  | greaterOrEqual => ">="

def flipped : OrderTest → OrderTest
  | less => greater
  | lessOrEqual => greaterOrEqual
  | greater => less
  | greaterOrEqual => lessOrEqual

def accepts (test : OrderTest) (order : Ordering) : Bool :=
  match test with
  | less => order.isLT
  | lessOrEqual => order.isLE
  | greater => order.isGT
  | greaterOrEqual => order.isGE

end OrderTest

namespace Value

open FieldMap.Number

def orderItems {α : Type} (order : α → α → Ordering) : List α → List α → Ordering
  | [], [] => .eq
  | [], _ :: _ => .lt
  | _ :: _, [] => .gt
  | x :: xs, y :: ys => (order x y).then (orderItems order xs ys)

def orderSets (test : OrderTest) (xs ys : List Value) : Bool :=
  match test with
  | .less => sameMembers xs ys && xs.length < ys.length
  | .lessOrEqual => sameMembers xs ys
  | .greater => sameMembers ys xs && ys.length < xs.length
  | .greaterOrEqual => sameMembers ys xs

def orderScalars (test : OrderTest) (a b : Value) : Except Fault Bool :=
  match a, b with
  | .text s, .text t =>
    .ok (test.accepts (orderItems compare (Text.codes s.toList) (Text.codes t.toList)))
  | .octets s, .octets t => .ok (test.accepts (orderItems (compare ·.toNat ·.toNat) s t))
  | .date d, .date e => .ok (test.accepts (compare d.ordinal e.ordinal))
  | .moment m, .moment n =>
    if m.offset.isSome = n.offset.isSome then .ok (test.accepts (compare m.count n.count))
    else .error .mixedMoments
  | .date _, .moment _ | .moment _, .date _ => .error .mixedDates
  | .set xs, .set ys => .ok (orderSets test xs ys)
  | .readOnly _, .readOnly _ => .error (.notOrdered test.flipped.symbol "dict" "dict")
  | .readOnly _, b => .error (.notOrdered test.symbol "dict" b.kind)
  | a, .readOnly _ => .error (.notOrdered test.flipped.symbol "dict" a.kind)
  | a, b =>
    match a.number?, b.number? with
    | some x, some y => .ok (((x.compare? y).map test.accepts).getD false)
    | _, _ => .error (.notOrdered test.symbol a.kind b.kind)

mutual

/-- The answer to a question about the order of two values, if they can be ordered; `deeper` gives
the answer where collections that hold themselves are concerned. -/
def orderedWith (deeper : Value → Value → Except Fault Bool) (test : OrderTest) :
    Value → Value → Except Fault Bool
  | .list xs, .list ys => orderedItems deeper test xs ys
  | .tuple xs, .tuple ys => orderedItems deeper test xs ys
  | .cyclic ring cells index, b => deeper (.cyclic ring cells index) b
  | a, .cyclic ring cells index => deeper a (.cyclic ring cells index)
  | a, b => orderScalars test a b
termination_by structural a => a

def orderedItems (deeper : Value → Value → Except Fault Bool) (test : OrderTest) :
    List Value → List Value → Except Fault Bool
  | [], ys => .ok (test.accepts (compare 0 ys.length))
  | _ :: _, [] => .ok (test.accepts .gt)
  | x :: xs, y :: ys =>
    if isEndless (comparedLevels - 1) x y then .error .endless
    else if same x y then orderedItems deeper test xs ys
    else orderedWith deeper test x y
termination_by structural xs => xs

end

def orderedWithin (test : OrderTest) : Nat → Value → Value → Except Fault Bool
  | 0, _, _ => .error .endless
  | levels + 1, a, b =>
    orderedWith (fun a b => orderedWithin test levels a.opened b.opened) test a b

def ordered (test : OrderTest) (a b : Value) : Except Fault Bool :=
  orderedWithin test comparedLevels a b

end Value

end FieldMap
