import FieldMap.Processor
import FieldMap.Value.Equality

/-!
Modifiers see a value together with parameters. They may put another value in its place and may
end the chain that they stand in.
-/

namespace FieldMap

/-- What a modifier decides: the value to go on with, unless it is undefined, and whether the chain
ends here, which it does if `stop` counts as true. -/
structure Verdict where
  value : Value
  stop : Value
  deriving Inhabited

inductive Reply where
  | plain (value : Value)
  | verdict (verdict : Verdict)

abbrev Modifier := Value → Value → Except Fault Reply

namespace Verdict

def replaces (v : Verdict) : Bool := !v.value.isUndefined

def stops (v : Verdict) : Bool := v.stop.truthy

end Verdict

namespace Reply

/-- The verdict that a reply describes. Null changes nothing, a mapping may hold a `value` and a
`break`, and no other plain value is a reply. -/
def toVerdict : Reply → Except Fault Verdict
  | verdict v => .ok v
  | plain .null => .ok ⟨.undefined, .bool false⟩
  | plain (.mapping entries) =>
    .ok ⟨(Value.member? "value" entries).getD .undefined,
      .bool ((Value.member? "break" entries).getD (.bool false)).truthy⟩
  | plain v => .error (.badReply v.kind)

def replace (v : Value) : Reply := plain (.mapping [(.text "value", v)])

def breaks (stop : Bool) : Reply := plain (.mapping [(.text "break", .bool stop)])

end Reply

namespace Modifier

def takeSigned {α : Type} (n : Int) (items : List α) : List α :=
  if 0 ≤ n then items.take n.toNat else items.take (items.length - n.natAbs)

def shorten : Modifier
  | .text s, length => do
    let n ← Processor.integerOf length
    return .replace (.text (String.ofList (Text.ofCodes (takeSigned n (Text.codes s.toList)))))
  | _, _ => .ok (.plain (.mapping []))

/-- Whether an item is the value: truth values are no numbers here, and the undefined value is only
itself. -/
def isItem (v item : Value) : Bool :=
  match v, item with
  | .undefined, .undefined => true
  | .float (.nan a m), .float (.nan b n) => a == b && m == n
  | .undefined, _ => false
  | v, item => v.isBool == item.isBool && v.equal item

def listed (v : Value) : Value → Bool
  | .list items => items.any (isItem v)
  | item => isItem v item

def allow : Modifier := fun v allowed => .ok (.breaks (!listed v allowed))

def skip : Modifier := fun v skipped => .ok (.breaks (listed v skipped))

def orElse : Modifier := fun v fallback => .ok (.replace (if v.truthy then v else fallback))

def standard : List (String × Modifier) :=
  [("strip", shorten), ("allow", allow), ("skip", skip), ("default", orElse)]

end Modifier

end FieldMap
