import FieldMap.Guard.Token
import FieldMap.Number.Decimal
import FieldMap.Reference
import FieldMap.Value.Order
import FieldMap.Value.Written

/-!
Guards: conditions over references and literals. All references of a guard are resolved first, from
left to right; then the guard is judged as a disjunction of conjunctions of comparisons, and judging
ends as soon as the outcome is known. A lone operand is judged by its truth.
-/

namespace FieldMap.Guard

open FieldMap.Number

/-- How two operands are compared. -/
inductive Comparison where
  | equal
  | unequal
  | order (test : OrderTest)
  deriving DecidableEq, Repr

inductive Part where
  | operand (value : Value)
  | comparison (symbol : String) (comparison : Comparison)
  | conjunction
  | disjunction

inductive Word where
  | operator (part : Part)
  | reference (reference : Reference)
  | literal (value : Value)
  | unknown

def operatorOf? (token : String) : Option Part :=
  match token with
  | "==" | "===" => some (.comparison token .equal)
  | "!=" | "!==" => some (.comparison token .unequal)
  | "<" => some (.comparison token (.order .less))
  | "<=" => some (.comparison token (.order .lessOrEqual))
  | ">" => some (.comparison token (.order .greater))
  | ">=" => some (.comparison token (.order .greaterOrEqual))
  | "&&" | "and" => some .conjunction
  | "||" | "or" => some .disjunction
  | _ => none

def quotedContent? (token : List Char) : Option (List Char) :=
  match token with
  | quote :: rest =>
    if (quote = '\'' ∨ quote = '"') ∧ rest.getLast? = some quote then some rest.dropLast else none
  | [] => none

/-- The number that a token denotes: a whole number if it has neither point nor power and not too
many digits, and a 64-bit number otherwise. -/
def number? (token : List Char) : Option Value :=
  match Decimal.read? token with
  | some (decimal, []) =>
    match readInteger token with
    | .ok n => some (.int n)
    | .error _ => some (.float decimal.toBinary64)
  | _ => none

def literal? (token : String) : Option Value :=
  match quotedContent? token.toList with
  | some content => some (.text (String.ofList content))
  | none =>
    match token with
    | "true" => some (.bool true)
    | "false" => some (.bool false)
    | "null" => some .null
    | "undefined" => some .undefined
    | token => number? token.toList

def Word.ofToken (token : String) : Word :=
  match operatorOf? token with
  | some part => .operator part
  | none =>
    let reference := Reference.parse token
    if reference.isExternal then .reference reference
    else match literal? token with
      | some v => .literal v
      | none => .unknown

/-- What reading the tokens of a guard gave: the references that were resolved, in order, and the
parts of the guard or the fault that ended the reading. -/
structure Consultation where
  resolved : List Reference
  outcome : Except Fault (List Part)

namespace Consultation

def withPart (part : Part) (c : Consultation) : Consultation :=
  { c with outcome := c.outcome.map (part :: ·) }

def after (reference : Reference) (c : Consultation) : Consultation :=
  { c with resolved := reference :: c.resolved }

end Consultation

/-- Reads tokens from left to right and resolves their references. A token that is neither an
operator nor a reference nor a literal ends the reading, and so does a reference that cannot be
resolved. -/
def consult (resolve : Reference → Except Fault Value) (origin : String) :
    List String → Consultation
  | [] => ⟨[], .ok []⟩
  | token :: tokens =>
    match Word.ofToken token with
    | .operator part => (consult resolve origin tokens).withPart part
    | .literal v => (consult resolve origin tokens).withPart (.operand v)
    | .unknown => ⟨[], .error (.unexpectedToken token origin)⟩
    | .reference reference =>
      match resolve reference with
      | .ok v => ((consult resolve origin tokens).withPart (.operand v)).after reference
      | .error fault => ⟨[reference], .error fault⟩

/-- Equality of operands: an undefined value equals null and itself, and nothing else. -/
def looselyEqual (a b : Value) : Bool :=
  if a.isUndefined || b.isUndefined then
    (a.isUndefined || a.isNull) && (b.isUndefined || b.isNull)
  else a.equal b

def settledEqual (a b : Value) : Except Fault Bool :=
  if Value.isEndless Value.comparedLevels a b then .error .endless else .ok (looselyEqual a b)

def compare (origin symbol : String) (comparison : Comparison) (a b : Value) : Except Fault Bool :=
  match comparison with
  | .equal => settledEqual a b
  | .unequal => (settledEqual a b).map not
  | .order test =>
    match Value.ordered test a b with
    | .ok outcome => .ok outcome
    | .error .endless => .error .endless
    | .error fault => do
      throw (.incomparable (← a.form) symbol (← b.form) fault.message origin)

def judgeComparison (origin : String) : List Part → Except Fault Bool
  | [.operand v] => .ok v.truthy
  | [.operand a, .comparison symbol comparison, .operand b] => compare origin symbol comparison a b
  | _ => .error (.malformedComparison origin)

def groups (isSeparator : Part → Bool) : List Part → List (List Part)
  | [] => [[]]
  | part :: parts =>
    if isSeparator part then [] :: groups isSeparator parts
    else match groups isSeparator parts with
      | [] => [[part]]
      | group :: rest => (part :: group) :: rest

def isConjunction : Part → Bool
  | .conjunction => true
  | _ => false

def isDisjunction : Part → Bool
  | .disjunction => true
  | _ => false

def judgeAll (judge : List Part → Except Fault Bool) : List (List Part) → Except Fault Bool
  | [] => .ok true
  | group :: rest => do if ← judge group then judgeAll judge rest else return false

def judgeAny (judge : List Part → Except Fault Bool) : List (List Part) → Except Fault Bool
  | [] => .ok false
  | group :: rest => do if ← judge group then return true else judgeAny judge rest

def judge (origin : String) (parts : List Part) : Except Fault Bool :=
  judgeAny (fun group => judgeAll (judgeComparison origin) (groups isConjunction group))
    (groups isDisjunction parts)

def consultation (resolve : Reference → Except Fault Value) (expression : String) : Consultation :=
  consult resolve expression (tokens expression)

def resolved (resolve : Reference → Except Fault Value) (expression : Option String) :
    List Reference :=
  match expression with
  | none => []
  | some expression => (consultation resolve expression).resolved

def evaluate (resolve : Reference → Except Fault Value) (expression : Option String) :
    Except Fault Bool :=
  match expression with
  | none => .ok true
  | some expression =>
    if Text.blank expression then .ok true
    else do judge expression (← (consultation resolve expression).outcome)

end FieldMap.Guard
