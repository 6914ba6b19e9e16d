import FieldMap.Extraction
import FieldMap.Json.Writer
import FieldMap.Request.Credentials
import FieldMap.Request.Header
import FieldMap.Request.Query

/-!
Requests that carry a payload, prepared but not sent. A `GET` request has the payload in the query
of its address; every other request has it in a JSON body.
-/

namespace FieldMap

structure Request where
  method : String
  url : String
  headers : Request.Headers
  body : Option String
  deriving Repr

namespace Request

def defaultMethod : String := "GET"

/-- What is written for a value that JSON has no form for: null for the undefined value, and for any
other its text. -/
def standIn : Value → Except Fault Value
  | .undefined => .ok .null
  | v => return .text (← v.written)

/-- How many levels of collections a body may have: one less than can be read, as it is written one
call further down. -/
def bodyLevels : Nat := Json.levelLimit - 1

def bodyOf (payload : Value) : Except Fault String := do
  let entries ← entriesOf payload
  Json.writeWithin bodyLevels .inline standIn (.mapping (entries.filter fun entry => !entry.2.isUndefined))

/-- The given headers, with the content type of the body after them unless they hold one under
exactly that spelling. -/
def withContentType (headers : List (Value × Value)) : List (Value × Value) :=
  match Value.member? "Content-Type" headers with
  | some _ => headers
  | none => headers ++ [(.text "Content-Type", .text "application/json")]

def addressHeaders (url : String) (body : Option String) (headers : Headers) :
    Except Fault Headers := do
  let headers :=
    match body with
    | some text => headers.set "Content-Length" (toString text.utf8ByteSize)
    | none => headers
  match ← credentials? url.toList with
  | some (name, password) => return headers.set "Authorization" (← basicCredentials name password)
  | none => return headers

/-- Prepares the request for a payload. The payload is written first, then the address and the
headers are checked. -/
def prepare (uri : String) (method : Option String) (payload : Value)
    (headers : List (Value × Value)) : Except Fault Request := do
  let given := method.getD ""
  let method := Text.upperString (if given = "" then defaultMethod else given)
  if method = "GET" then
    let parameters ← parameters payload
    let url ← prepareAddress uri (queryText parameters)
    let headers ← addressHeaders url none (← prepareHeaders headers)
    return { method, url, headers, body := none }
  else
    let body ← bodyOf payload
    let url ← prepareAddress uri (.ok [])
    let headers ← addressHeaders url (some body) (← prepareHeaders (withContentType headers))
    return { method, url, headers, body := some body }

end Request

namespace Model

/-- Prepares the request for the payload of a container, or for given data if no container is
named; with the warnings of the extraction. -/
def prepareRequest (m : Model) (uri : String) (method : Option String) (container : Option String)
    (data : Value) (headers : List (Value × Value)) :
    Except Fault (List String × Except Fault Request) :=
  match container.getD "" with
  | "" => .ok ([], Request.prepare uri method data headers)
  | name => do
    let e ← m.extract name
    return (e.warnings, Request.prepare uri method e.payloadValue headers)

end Model

end FieldMap
