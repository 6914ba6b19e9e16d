import FieldMap.Proofs.Guard.Syntax
import FieldMap.Proofs.Outcome
import FieldMap.Proofs.Value.Order

/-!
What a guard means. A tree has an answer of its own, found from left to right and no further than the
answer is known. There is no answer where it depends on the order of two values that have none.
-/

namespace FieldMap.Guard
open Outcome

inductive Refusal where
  | unordered (a : Value) (test : OrderTest) (b : Value) (problem : Fault)
  | endless

def equality : Value → Value → Except Refusal Bool
  | .undefined, b => .ok (b.isUndefined || b.isNull)
  | .null, b => .ok (b.isUndefined || b.isNull)
  | _, .undefined => .ok false
  | _, .null => .ok false
  | a, b => if Value.isEndless Value.comparedLevels a b then .error .endless else .ok (a.equal b)

def ordering (test : OrderTest) (a b : Value) : Except Refusal Bool :=
  (Value.ordered test a b).mapError fun problem =>
    if problem = .endless then .endless else .unordered a test b problem

namespace Symbol

def answer (a b : Value) : Symbol → Except Refusal Bool
  | equal | strictlyEqual => equality a b
  | unequal | strictlyUnequal => (equality a b).map not
  | order test => ordering test a b

end Symbol

def Test.answer (env : Reference → Value) : Test → Except Refusal Bool
  | lone a => .ok (a.value env).truthy
  | compared a symbol b => symbol.answer (a.value env) (b.value env)

def Conjunction.answer (env : Reference → Value) (c : Conjunction) : Except Refusal Bool :=
  c.items.allM (Test.answer env)

def Tree.answer (env : Reference → Value) (tree : Tree) : Except Refusal Bool :=
  tree.items.anyM (Conjunction.answer env)

def Writable (v : Value) : Prop :=
  ∃ text, v.form = .ok text

variable {env : Reference → Value}

end FieldMap.Guard
