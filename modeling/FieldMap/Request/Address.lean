import FieldMap.Request.HostName
import FieldMap.Request.NumericHost
import FieldMap.Text.Blank

/-!
Addresses of requests: taken apart, normalised and put together again. Only web addresses are
normalised; an address of another kind stays as it is.
-/

namespace FieldMap.Request

structure Address where
  scheme : Option (List Char)
  credentials : Option (List Char)
  host : Option (List Char)
  port : Option Nat
  path : List Char
  query : Option (List Char)
  fragment : Option (List Char)
  deriving Repr

namespace Address

private def isSubDelimiter (c : Char) : Bool := "!$&'()*+,;=".toList.contains c

def isUserCharacter (c : Char) : Bool := isUnreserved c || isSubDelimiter c || c == ':'

def isPathCharacter (c : Char) : Bool := isUserCharacter c || c == '@' || c == '/'

def isQueryCharacter (c : Char) : Bool := isPathCharacter c || c == '?'

def splitScheme? (allowed : Char → Bool) : List Char → Option (List Char × List Char)
  | [] => none
  | c :: cs =>
    if c.isAlpha then
      match cs.span fun c => c.isAlphanum || allowed c with
      | (more, ':' :: rest) => some (c :: more, rest)
      | _ => none
    else none

def isRegisteredName : List Char → Bool
  | [] => true
  | '%' :: a :: b :: cs =>
    (Json.hexValue? a).isSome && (Json.hexValue? b).isSome && isRegisteredName cs
  | c :: cs => !("[]%:/?#".toList.contains c) && isRegisteredName cs

def port? (cs : List Char) : Option (Option Nat) :=
  let digits := cs.dropWhile (· == '0')
  if cs.isEmpty then some none
  else if digits.all Char.isDigit && digits.length ≤ 5 then
    some (some (digits.foldl (fun n c => 10 * n + (c.toNat - 48)) 0))
  else none

def hostAndPort? (cs : List Char) : Option (List Char × Option Nat) := do
  match cs with
  | '[' :: rest =>
    match Text.splitAt ']' rest with
    | (content, some after) =>
      let _ ← splitZone? content
      let port ← match Text.withoutFinalBreak after with
        | [] => some none
        | ':' :: digits => port? digits
        | _ => none
      return ('[' :: content ++ [']'], port)
    | _ => none
  | cs =>
    let (host, digits) := Text.splitAt ':' cs
    if !isRegisteredName host then none
    let port ← (digits.map fun digits => port? (Text.withoutFinalBreak digits)).getD (some none)
    return (host, port)

def normalHost? (host : List Char) : Option (List Char) :=
  match host with
  | '[' :: rest =>
    match splitZone? rest.dropLast with
    | some (numeric, some zone) =>
      some ('[' :: Text.lower numeric ++ '%' :: encodePart isUnreserved zone ++ [']'])
    | _ => some (Text.lower host)
  | host => if host.isEmpty || isDottedQuad host then some host else plainHost? host

def withoutDotSegments (path : List Char) : List Char :=
  let kept := (Text.cut '/' path).foldl (fun kept segment =>
    if segment = ['.'] then kept
    else if segment = ['.', '.'] then kept.dropLast
    else kept ++ [segment]) []
  let kept := if path.head? = some '/' && kept.head? != some [] then [] :: kept else kept
  let ends (tail : String) : Bool := tail.toList.isSuffixOf path
  let kept := if ends "/." || ends "/.." then kept ++ [[]] else kept
  Text.joinWith '/' kept

def isNormalizable (scheme : Option (List Char)) : Bool :=
  match scheme with
  | none => true
  | some scheme => scheme = "http".toList || scheme = "https".toList

def parse? (url : List Char) : Option Address := do
  if url.isEmpty then return ⟨none, none, none, none, [], none, none⟩
  let hasStart := url.head? = some '/' || (splitScheme? (fun c => c == '+' || c == '-') url).isSome
  let url := if hasStart then url else '/' :: '/' :: url
  let (scheme, rest) :=
    match splitScheme? (fun c => c == '+' || c == '-' || c == '.') url with
    | some (scheme, rest) => (some (Text.lower scheme), rest)
    | none => (none, url)
  let (rest, fragment) := Text.splitAt '#' rest
  let (rest, query) := Text.splitAt '?' rest
  let (authority, path) :=
    match rest with
    | '/' :: '/' :: rest => rest.span fun c => c != '/' && c != '\\'
    | rest => ([], rest)
  let normal := isNormalizable scheme
  let encode (allowed : Char → Bool) (part : List Char) : List Char :=
    if normal then encodePart allowed part else part
  let (credentials, hostPort) := Text.splitAtLast '@' authority
  let credentials := credentials.filter (!·.isEmpty)
  let (host, port) ←
    if authority.isEmpty then some (none, none)
    else (hostAndPort? hostPort).map fun (host, port) => (some host, port)
  if 65535 < port.getD 0 then none
  let host ←
    match host with
    | none => some none
    | some host => if normal then (normalHost? host).map some else some (some host)
  let path := if normal then encodePart isPathCharacter (withoutDotSegments path) else path
  let path := if path.isEmpty || path.head? = some '/' then path else '/' :: path
  return {
    scheme
    credentials := credentials.map (encode isUserCharacter)
    host
    port
    path
    query := query.map (encode isQueryCharacter)
    fragment := fragment.map (encode isQueryCharacter) }

def written (a : Address) : List Char :=
  let credentials := (a.credentials.map (· ++ ['@'])).getD []
  let port := if a.port.getD 0 = 0 then [] else ':' :: (toString (a.port.getD 0)).toList
  let after (mark : Char) (part : Option (List Char)) : List Char :=
    match part.getD [] with
    | [] => []
    | part => mark :: part
  ((a.scheme.map (· ++ [':'])).getD []) ++ '/' :: '/' :: credentials ++ a.host.getD [] ++ port ++
    a.path ++ after '?' a.query ++ after '#' a.fragment

end Address

def isForeign (url : List Char) : Bool :=
  url.contains ':' && !"http".toList.isPrefixOf (Text.lower url)

def prepareAddress (uri : String) (parameters : Except Fault (List Char)) :
    Except Fault String := do
  let url := Text.dropBlanks uri.toList
  if isForeign url then return String.ofList url
  let text := String.ofList url
  match Address.parse? url with
  | none => throw (.unparsableUrl text)
  | some address =>
    if (address.scheme.getD []).isEmpty then throw (.noScheme text)
    let host := address.host.getD []
    if host.isEmpty then throw (.noHost text)
    let host ←
      if host.any (0x80 ≤ ·.toNat) then
        match mappedHost? host with
        | some host => .ok host
        | none => throw .badLabel
      else if host.head? = some '*' || host.head? = some '.' then throw .badLabel
      else .ok host
    let more ← parameters
    let query :=
      match address.query.getD [], more with
      | query, [] => query
      | [], more => more
      | query, more => query ++ '&' :: more
    let path := if address.path.isEmpty then ['/'] else address.path
    let whole := { address with host := some host, path, query := some query }
    return String.ofList (requote whole.written)

end FieldMap.Request
