import FieldMap.Request.Percent
import FieldMap.Text.Cut
import FieldMap.Value.Written

/-!
Payloads as query strings. Lists become repeated parameters whose names end in `[]`, truth values
and null are spelled as in JSON, and undefined values are left out.
-/

namespace FieldMap.Request

def entriesOf (payload : Value) : Except Fault (List (Value × Value)) :=
  if !payload.truthy then .ok []
  else match payload.opened with
    | .mapping entries | .readOnly entries => .ok entries
    | v => .error (.noAttribute v.kind "items")

def queryValue : Value → Value
  | .bool b => .text (if b then "true" else "false")
  | .null => .text "null"
  | v => v

def entryParameters (key value : Value) : Except Fault (List (Value × Value)) :=
  match value.opened with
  | .undefined => .ok []
  | .list items | .tuple items =>
    (items.filter fun item => !item.isUndefined).mapM fun item => do
      return (.text ((← key.written) ++ "[]"), queryValue item)
  | _ => .ok [(key, queryValue value)]

def parameters (payload : Value) : Except Fault (List (Value × Value)) := do
  let groups ← (← entriesOf payload).mapM fun (key, value) => entryParameters key value
  return groups.flatten

def encodedText : Value → Except Fault (List Char)
  | .octets content => .ok (formEncodeOctets content)
  | v => do formEncode (← v.written).toList

def encodedTexts : Value → Except Fault (List (List Char))
  | .text s => return [← formEncode s.toList]
  | .octets content => .ok [formEncodeOctets content]
  | v =>
    match v.members? with
    | some items => items.mapM encodedText
    | none => if v.isClosedBox then .error (.notIterable v.kind) else return [← encodedText v]

def repeated (v : Value) : List Value :=
  let items :=
    match v with
    | .text _ | .octets _ => [v]
    | v => v.members?.getD [v]
  items.filter fun item => !item.isNull

def encodedPairs (parameter : Value × Value) : Except Fault (List (List Char)) := do
  let groups ← (repeated parameter.2).mapM fun v => do
    let name ← encodedText parameter.1
    return (← encodedTexts v).map fun text => name ++ '=' :: text
  return groups.flatten

def queryText (parameters : List (Value × Value)) : Except Fault (List Char) := do
  let groups ← parameters.mapM encodedPairs
  return Text.joinWith '&' groups.flatten

end FieldMap.Request
