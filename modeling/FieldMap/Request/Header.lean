import FieldMap.Text.Blank
import FieldMap.Text.Case
import FieldMap.Value.Written

/-!
Headers of requests. Names that differ only in the case of their letters are one name; setting a
header again replaces its value and its spelling.
-/

namespace FieldMap.Request

abbrev Headers := List (String × String)

namespace Headers

def sameName (a b : String) : Bool := Text.lowerString a == Text.lowerString b

def set (name value : String) : Headers → Headers
  | [] => [(name, value)]
  | header :: headers =>
    if sameName header.1 name then (name, value) :: headers else header :: set name value headers

def get? (name : String) (headers : Headers) : Option String :=
  (headers.find? fun header => sameName header.1 name).map Prod.snd

end Headers

private def isUnbroken (cs : List Char) : Bool := cs.all fun c => c != '\r' && c != '\n'

def isHeaderName (name : String) : Bool :=
  match Text.withoutFinalBreak name.toList with
  | [] => false
  | c :: cs => !Text.isBlank c && isUnbroken cs && !(c :: cs).contains ':'

def isHeaderValue (value : String) : Bool :=
  match Text.withoutFinalBreak value.toList with
  | [] => true
  | c :: cs => !Text.isBlank c && isUnbroken cs

def checkHeader (name value : Value) : Except Fault (String × String) := do
  let part (v : Value) : Except Fault String :=
    match v with
    | .text s => .ok s
    | v => do throw (.badHeaderPart (← v.form) (← (Value.tuple [name, value]).form) v.kind)
  let name ← part name
  if !isHeaderName name then throw (.badHeaderName name)
  let value ← part value
  if !isHeaderValue value then throw (.badHeaderValue value)
  return (name, value)

def prepareHeaders (given : List (Value × Value)) : Except Fault Headers :=
  given.foldlM (fun headers (name, value) => do
    let (name, value) ← checkHeader name value
    return headers.set name value) []

end FieldMap.Request
