import FieldMap.Text.Case
import FieldMap.Text.Quoted
import FieldMap.Number.Integer

/-!
Everything that can go wrong, by cause. A fault knows its family, which decides who may recover
from it, and its message.
-/

namespace FieldMap

inductive Family where
  | configuration
  | reference
  | malformedSpec
  | recursionLimit
  | typeMismatch
  | badValue
  | badIndex
  | badKey
  | badAttribute
  | failure
  | overflow
  | unencodable
  | depth
  | json
  | yaml
  | missingFile
  | directoryAsFile
  | fileAsDirectory
  | unusableFile
  | missingScheme
  | badUrl
  | badHeader
  deriving DecidableEq, Repr

inductive Complaint where
  | badValue
  | badKey
  | failure
  | badAttribute
  deriving DecidableEq, Repr

structure JsonPlace where
  offset : Nat
  line : Nat
  column : Nat
  deriving DecidableEq, Repr

/-- A fault, with what its message needs. `origin` is the text that the fault was found in. -/
inductive Fault where
  -- registration and declaration
  | incompleteRegistration (kind : String)
  | notCallable (kind name : String)
  | unnamedContainer (origin : String)
  | unnamedTemplate (origin : String)
  | unknownTemplate (template origin : String)
  | unknownContainer (name : String)
  | noFieldNames
  | declarationShape
  | containersShape
  | templatesShape
  | bodyShape (name : String)
  | fieldsShape (owner : String)
  -- references
  | noContainer (reference : String)
  | noRoot (label reference : String)
  | missingContainer (name origin : String)
  | missingPath (path label origin : String)
  | malformedIndirection (spec origin : String)
  | missingField (container field origin : String)
  | indirectionCycle (targets : List (String × String)) (origin : String)
  | indirectionDepth (limit : Nat) (origin : String)
  -- guards and parameters
  | badParameters (modifier parameters problem origin : String)
  | unexpectedToken (token origin : String)
  | malformedComparison (origin : String)
  | incomparable (left operator right problem origin : String)
  -- values
  | notOrdered (operator leftKind rightKind : String)
  | mixedMoments
  | mixedDates
  | endless
  | circular
  | tooDeep (what : String)
  | notIterable (kind : String)
  | notSearchable (kind : String)
  | octetsExpected
  | notAnIndex (kind : String)
  | notAnAttributeName (kind : String)
  | infiniteIndex
  | noAttribute (kind name : String)
  | badReply (kind : String)
  | notRepeatable (kind : String)
  | unhashable (kind : String)
  | badJsonKey (kind : String)
  | digitLimit (digits : Option Nat)
  | emptyText
  | missingKey (key : String)
  | raised (complaint : Complaint) (message : String)
  -- documents and files
  | json (problem : String) (place : JsonPlace)
  | yaml
  | badDate (problem : String)
  | badNumber (problem : String)
  | hugeCode
  | hugeNumber
  | noFile (path : String)
  | isDirectory (path : String)
  | notDirectory (path : String)
  | noDeclaration (path : String)
  | noDeclarationUnder (path base : String)
  | noBase (base : String)
  | badPattern
  | nameTooLong (path : String)
  | unnameableFile
  | notAPath (kind : String)
  -- requests
  | noScheme (url : String)
  | noHost (url : String)
  | badLabel
  | unparsableUrl (url : String)
  | unbalancedHost
  | badHostVersion
  | needlessBrackets
  | unnumberedHost (host : String)
  | compatibleHost (authority : String)
  | badHeaderName (name : String)
  | badHeaderValue (value : String)
  | badHeaderPart (part header kind : String)
  | unencodable (encoding reason : String) (codes : List Nat) (start : Nat)
  deriving DecidableEq, Repr, Inhabited

namespace Complaint

def family : Complaint → Family
  | badValue => .badValue
  | badKey => .badKey
  | failure => .failure
  | badAttribute => .badAttribute

end Complaint

namespace Fault

def family : Fault → Family
  | incompleteRegistration _ | notCallable .. | unnamedContainer _ | unnamedTemplate _
  | unknownTemplate .. | unknownContainer _ | noFieldNames | declarationShape | containersShape
  | templatesShape | bodyShape _ | fieldsShape _ => .configuration
  | noContainer _ | noRoot .. | missingContainer .. | missingPath .. | malformedIndirection ..
  | missingField .. => .reference
  | indirectionCycle .. | indirectionDepth .. => .recursionLimit
  | badParameters .. | unexpectedToken .. | malformedComparison _ | incomparable .. =>
    .malformedSpec
  | notOrdered .. | mixedMoments | mixedDates | notIterable _ | notSearchable _ | octetsExpected
  | notAnIndex _ | notAnAttributeName _ | badReply _ | notRepeatable _ | unhashable _
  | badJsonKey _ | notAPath _ => .typeMismatch
  | infiniteIndex | hugeCode | hugeNumber => .overflow
  | endless | tooDeep _ => .depth
  | noAttribute .. => .badAttribute
  | digitLimit _ | badDate _ | badNumber _ | badPattern | unbalancedHost | circular
  | unnameableFile | badHostVersion | needlessBrackets | unnumberedHost _
  | compatibleHost _ => .badValue
  | emptyText => .badIndex
  | missingKey _ => .badKey
  | raised complaint _ => complaint.family
  | json .. => .json
  | yaml => .yaml
  | noFile _ | noDeclaration _ | noDeclarationUnder .. | noBase _ => .missingFile
  | isDirectory _ => .directoryAsFile
  | notDirectory _ => .fileAsDirectory
  | nameTooLong _ => .unusableFile
  | noScheme _ => .missingScheme
  | noHost _ | badLabel | unparsableUrl _ => .badUrl
  | badHeaderName _ | badHeaderValue _ | badHeaderPart .. => .badHeader
  | unencodable .. => .unencodable

def located (message origin : String) : String :=
  if origin = "" then message else message ++ " (in '" ++ origin ++ "')"

private def targetText (target : String × String) : String := "@" ++ target.1 ++ "." ++ target.2

private def limitText : String := toString Number.digitLimit

private def codeText (n : Nat) : String := String.ofList (Text.escapeCode n)

def message : Fault → String
  | incompleteRegistration kind => "You should specify both name and callback for a " ++ kind
  | notCallable kind name =>
    Text.capitalizeString kind ++ " '" ++ name ++ "' is not callable"
  | unnamedContainer origin => located "Container name is required" origin
  | unnamedTemplate origin => located "Template name is required" origin
  | unknownTemplate template origin =>
    located ("Template '" ++ template ++ "' is not described") origin
  | unknownContainer name => "Container '" ++ name ++ "' not found"
  | noFieldNames => "You have to specify field names"
  | declarationShape => "Model declaration must be a mapping"
  | containersShape => "Model declaration needs a 'containers' mapping"
  | templatesShape => "'templates' must be a mapping of name -> fields"
  | bodyShape name => "Container '" ++ name ++ "' must be a mapping with 'fields'"
  | fieldsShape owner => "Fields of '" ++ owner ++ "' must be a mapping"
  | noContainer reference => "No container to read '" ++ reference ++ "' from"
  | noRoot label reference => "No " ++ label ++ " to read '" ++ reference ++ "' from"
  | missingContainer name origin => located ("Container '" ++ name ++ "' not found") origin
  | missingPath path label origin =>
    located ("Path '" ++ path ++ "' not found in " ++ label) origin
  | malformedIndirection spec origin =>
    located ("Malformed processor reference '" ++ spec ++ "'") origin
  | missingField container field origin =>
    located ("Container '" ++ container ++ "' has no field '" ++ field ++ "'") origin
  | indirectionCycle targets origin =>
    located ("Processor references form a cycle: " ++
      String.intercalate " -> " (targets.map targetText)) origin
  | indirectionDepth limit origin =>
    located s!"Processor references nest deeper than {limit} levels" origin
  | badParameters modifier parameters problem origin =>
    located ("Invalid parameters for modifier '" ++ modifier ++ "': " ++
      Text.quotedString parameters ++ " (" ++ problem ++ ")") origin
  | unexpectedToken token origin => located ("Unexpected token '" ++ token ++ "' in guard") origin
  | malformedComparison origin => located "Expected '<operand> <operator> <operand>'" origin
  | incomparable left operator right problem origin =>
    located ("Cannot compare " ++ left ++ " " ++ operator ++ " " ++ right ++ ": " ++ problem) origin
  | notOrdered operator leftKind rightKind =>
    "'" ++ operator ++ "' not supported between instances of '" ++ leftKind ++ "' and '" ++
      rightKind ++ "'"
  | mixedMoments => "can't compare offset-naive and offset-aware datetimes"
  | mixedDates => "can't compare datetime.datetime to datetime.date"
  | endless => "maximum recursion depth exceeded in comparison"
  | circular => "Circular reference detected"
  | tooDeep what =>
    "maximum recursion depth exceeded" ++ if what = "" then "" else " while " ++ what
  | notIterable kind => "'" ++ kind ++ "' object is not iterable"
  | notSearchable kind => "argument of type '" ++ kind ++ "' is not iterable"
  | octetsExpected => "a bytes-like object is required, not 'str'"
  | notAnIndex kind =>
    "int() argument must be a string, a bytes-like object or a real number, not '" ++ kind ++ "'"
  | notAnAttributeName kind => "attribute name must be string, not '" ++ kind ++ "'"
  | infiniteIndex => "cannot convert float infinity to integer"
  | noAttribute kind name => "'" ++ kind ++ "' object has no attribute '" ++ name ++ "'"
  | badReply kind => "Modifier must return a mapping, ModifierResult or None, got " ++ kind
  | notRepeatable kind => "unsupported operand type(s) for *: '" ++ kind ++ "' and 'int'"
  | unhashable kind => "unhashable type: '" ++ kind ++ "'"
  | badJsonKey kind => "keys must be str, int, float, bool or None, not " ++ kind
  | digitLimit digits =>
    "Exceeds the limit (" ++ limitText ++ " digits) for integer string conversion" ++
      (digits.map fun n => s!": value has {n} digits").getD "" ++
      "; use sys.set_int_max_str_digits() to increase the limit"
  | emptyText => "string index out of range"
  | missingKey key => Text.quotedString key
  | raised complaint message =>
    if complaint = .badKey then Text.quotedString message else message
  | json problem place =>
    s!"{problem}: line {place.line} column {place.column} (char {place.offset})"
  | yaml => ""
  | badDate problem => problem
  | badNumber problem => problem
  | hugeCode => "Python int too large to convert to C int"
  | hugeNumber => "int too large to convert to float"
  | noFile path => "[Errno 2] No such file or directory: " ++ Text.quotedString path
  | isDirectory path => "[Errno 21] Is a directory: " ++ Text.quotedString path
  | notDirectory path => "[Errno 20] Not a directory: " ++ Text.quotedString path
  | nameTooLong path => "[Errno 36] File name too long: " ++ Text.quotedString path
  | unnameableFile => "embedded null byte"
  | notAPath kind => "expected str, bytes or os.PathLike object, not " ++ kind
  | noDeclaration path => "Declaration file not found: " ++ path
  | noDeclarationUnder path base =>
    "Declaration file not found: " ++ path ++ " (searched in " ++ base ++ ")"
  | noBase base => "Base directory not found: " ++ base
  | badPattern => "Invalid pattern: '**' can only be an entire path component"
  | noScheme url =>
    "Invalid URL " ++ Text.quotedString url ++ ": No scheme supplied. Perhaps you meant https://" ++
      url ++ "?"
  | noHost url => "Invalid URL " ++ Text.quotedString url ++ ": No host supplied"
  | badLabel => "URL has an invalid label."
  | unparsableUrl url => "Failed to parse: " ++ url
  | unbalancedHost => "Invalid IPv6 URL"
  | badHostVersion => "IPvFuture address is invalid"
  | needlessBrackets => "An IPv4 address cannot be in brackets"
  | unnumberedHost host =>
    Text.quotedString host ++ " does not appear to be an IPv4 or IPv6 address"
  | compatibleHost authority =>
    "netloc '" ++ authority ++ "' contains invalid characters under NFKC normalization"
  | badHeaderName name =>
    "Invalid leading whitespace, reserved character(s), or return character(s) in header name: " ++
      Text.quotedString name
  | badHeaderValue value =>
    "Invalid leading whitespace, reserved character(s), or return character(s) in header value: " ++
      Text.quotedString value
  | badHeaderPart part header kind =>
    "Header part (" ++ part ++ ") from " ++ header ++
      " must be of type str or bytes, not <class '" ++ kind ++ "'>"
  | unencodable encoding reason [code] start =>
    "'" ++ encoding ++ "' codec can't encode character '" ++ codeText code ++
      s!"' in position {start}: " ++ reason
  | unencodable encoding reason codes start =>
    let last := start + codes.length - 1
    "'" ++ encoding ++ s!"' codec can't encode characters in position {start}-{last}: " ++ reason

end Fault

end FieldMap
