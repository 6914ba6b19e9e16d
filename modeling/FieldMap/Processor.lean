import FieldMap.CaseStyle
import FieldMap.Catalog
import FieldMap.Number.Decimal
import FieldMap.Text.Blank
import FieldMap.Value.Written

/-!
Processors turn one value into another. The standard ones convert between kinds, append a currency
sign, and change the letters of texts; the latter leave everything but texts as it is.
-/

namespace FieldMap

abbrev Processor := Value → Except Fault Value

namespace Processor

open FieldMap.Number

def leadingInteger (cs : List Char) : Except Fault Int :=
  let (negative, rest) := splitSign (Text.dropBlanks cs)
  match spanDigits rest with
  | ([], _) => .ok 0
  | (digits, _) =>
    match ofSignedDigits negative digits with
    | .ok n => .ok n
    | .error _ => .error (.digitLimit (some digits.length))

/-- The whole number that a value denotes: truth values and everything without a number denote
zero, 64-bit numbers lose their fraction. -/
def integerOf (v : Value) : Except Fault Int :=
  if !v.truthy || v.isBool then .ok 0
  else match v with
    | .int n => .ok n
    | .float x => .ok (x.truncate?.getD 0)
    | v => do leadingInteger (← v.written).toList

def toInteger : Processor := fun v => return .int (← integerOf v)

def toText : Processor
  | .text s => .ok (.text s)
  | .bool b => .ok (.text (if b then "true" else "false"))
  | v => if v.truthy then return .text (← v.written) else .ok (.text "")

def toList : Processor
  | .list items | .tuple items => .ok (.list items)
  | v => .ok (if v.kind = "list" then v else .list [])

def toBool : Processor := fun v => .ok (.bool v.truthy)

def currency (sign : Char) : Processor
  | .undefined => .ok .undefined
  | .null => .ok .null
  | .float (.nan origin place) => .ok (.float (.nan origin place))
  | v => do
    let text ← v.written
    return .text (if text.toList.contains sign then text else text.push sign)

def onText (change : List Char → List Char) : Processor
  | .text s => .ok (.text (String.ofList (change s.toList)))
  | v => .ok v

def camelizeLower : Processor
  | .text s =>
    match CaseStyle.camelizeLower? s.toList with
    | some cs => .ok (.text (String.ofList cs))
    | none => .error .emptyText
  | v => .ok v

def standard : List (String × Processor) :=
  [("int", toInteger), ("string", toText), ("array", toList), ("bool", toBool),
    ("usd", currency '$'), ("kzt", currency '₸'), ("trim", onText Text.stripChars),
    ("upper", onText Text.upper), ("lower", onText Text.lower)]

def styles : List (String × Processor) :=
  [("underscore", onText CaseStyle.underscore), ("camelize", onText CaseStyle.camelize),
    ("camelize_lower", camelizeLower), ("dasherize", onText CaseStyle.dasherize),
    ("titleize", onText CaseStyle.titleize), ("parameterize", onText CaseStyle.parameterize)]

end Processor

end FieldMap
