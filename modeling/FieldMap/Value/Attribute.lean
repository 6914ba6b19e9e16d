import FieldMap.Value.Written

/-!
Attributes of values that are no objects of their own: the parts of numbers and dates, the kind, and
the operations of each kind. An operation is an object that nothing can be read of but its name and
what it belongs to; where it lies in memory is left out of its text.
-/

namespace FieldMap

structure Abilities where
  operators : List String
  methods : List String
  ofKind : List String

namespace Abilities

def shared : Abilities where
  operators :=
    ["__delattr__", "__eq__", "__ge__", "__getattribute__", "__gt__", "__init__", "__le__",
      "__lt__", "__ne__", "__repr__", "__setattr__", "__str__"]
  methods := ["__dir__", "__format__", "__getstate__", "__reduce__", "__reduce_ex__", "__sizeof__"]
  ofKind := ["__init_subclass__", "__new__", "__subclasshook__"]

def extend (a b : Abilities) : Abilities where
  operators := a.operators ++ b.operators
  methods := a.methods ++ b.methods
  ofKind := a.ofKind ++ b.ofKind

def numeric : Abilities where
  operators :=
    ["__abs__", "__add__", "__bool__", "__divmod__", "__float__", "__floordiv__", "__hash__",
      "__int__", "__mod__", "__mul__", "__neg__", "__pos__", "__pow__", "__radd__", "__rdivmod__",
      "__rfloordiv__", "__rmod__", "__rmul__", "__rpow__", "__rsub__", "__rtruediv__", "__sub__",
      "__truediv__"]
  methods :=
    ["__ceil__", "__floor__", "__getnewargs__", "__round__", "__trunc__", "as_integer_ratio",
      "conjugate"]
  ofKind := []

def whole : Abilities :=
  numeric.extend
    { operators :=
        ["__and__", "__index__", "__invert__", "__lshift__", "__or__", "__rand__", "__rlshift__",
          "__ror__", "__rrshift__", "__rshift__", "__rxor__", "__xor__"]
      methods := ["bit_count", "bit_length", "to_bytes"]
      ofKind := ["from_bytes"] }

def real : Abilities :=
  numeric.extend
    { operators := [], methods := ["hex", "is_integer"], ofKind := ["__getformat__", "fromhex"] }

def textual : Abilities where
  operators :=
    ["__add__", "__contains__", "__getitem__", "__hash__", "__iter__", "__len__", "__mod__",
      "__mul__", "__rmod__", "__rmul__"]
  methods :=
    ["__getnewargs__", "capitalize", "center", "count", "endswith", "expandtabs", "find", "index",
      "isalnum", "isalpha", "isascii", "isdigit", "islower", "isspace", "istitle", "isupper",
      "join", "ljust", "lower", "lstrip", "partition", "removeprefix", "removesuffix", "replace",
      "rfind", "rindex", "rjust", "rpartition", "rsplit", "rstrip", "split", "splitlines",
      "startswith", "strip", "swapcase", "title", "translate", "upper", "zfill"]
  ofKind := ["maketrans"]

def text : Abilities :=
  textual.extend
    { operators := []
      methods :=
        ["casefold", "encode", "format", "format_map", "isdecimal", "isidentifier", "isnumeric",
          "isprintable"]
      ofKind := [] }

def octets : Abilities :=
  textual.extend
    { operators := [], methods := ["__bytes__", "decode", "hex"], ofKind := ["fromhex"] }

def set : Abilities where
  operators :=
    ["__and__", "__iand__", "__ior__", "__isub__", "__iter__", "__ixor__", "__len__", "__or__",
      "__rand__", "__ror__", "__rsub__", "__rxor__", "__sub__", "__xor__"]
  methods :=
    ["__contains__", "add", "clear", "copy", "difference", "difference_update", "discard",
      "intersection", "intersection_update", "isdisjoint", "issubset", "issuperset", "pop",
      "remove", "symmetric_difference", "symmetric_difference_update", "union", "update"]
  ofKind := ["__class_getitem__"]

def date : Abilities where
  operators := ["__add__", "__hash__", "__radd__", "__rsub__", "__sub__"]
  methods :=
    ["ctime", "isocalendar", "isoformat", "isoweekday", "replace", "strftime", "timetuple",
      "toordinal", "weekday"]
  ofKind := ["fromisocalendar", "fromisoformat", "fromordinal", "fromtimestamp", "today"]

def moment : Abilities :=
  date.extend
    { operators := []
      methods :=
        ["astimezone", "date", "dst", "time", "timestamp", "timetz", "tzname", "utcoffset",
          "utctimetuple"]
      ofKind := ["combine", "now", "strptime", "utcfromtimestamp", "utcnow"] }

end Abilities

namespace Value

def abilities? : Value → Option Abilities
  | .bool _ | .int _ => some .whole
  | .float _ => some .real
  | .text _ => some .text
  | .octets _ => some .octets
  | .set _ => some .set
  | .date _ => some .date
  | .moment _ => some .moment
  | _ => none

def description : Value → String
  | .bool _ =>
    "bool(x) -> bool\n\nReturns True when the argument x is true, False otherwise.\nThe builtins " ++
      "True and False are the only two instances of the class bool.\nThe class bool is a subclass of " ++
      "the class int, and cannot be subclassed."
  | .int _ =>
    "int([x]) -> integer\nint(x, base=10) -> integer\n\nConvert a number or string to an integer, " ++
      "or return 0 if no arguments\nare given.  If x is a number, return x.__int__().  For floating " ++
      "point\nnumbers, this truncates towards zero.\n\nIf x is not a number or if base is given, " ++
      "then x must be a string,\nbytes, or bytearray instance representing an integer literal in " ++
      "the\ngiven base.  The literal can be preceded by '+' or '-' and be surrounded\nby whitespace.  " ++
      "The base defaults to 10.  Valid bases are 0 and 2-36.\nBase 0 means to interpret the base " ++
      "from the string as an integer literal.\n>>> int('0b100', base=0)\n4"
  | .float _ => "Convert a string or number to a floating point number, if possible."
  | .text _ =>
    "str(object='') -> str\nstr(bytes_or_buffer[, encoding[, errors]]) -> str\n\nCreate a new string " ++
      "object from the given object. If encoding or\nerrors is specified, then the object must " ++
      "expose a data buffer\nthat will be decoded using the given encoding and error " ++
      "handler.\nOtherwise, returns the result of object.__str__() (if defined)\nor " ++
      "repr(object).\nencoding defaults to sys.getdefaultencoding().\nerrors defaults to 'strict'."
  | .octets _ =>
    "bytes(iterable_of_ints) -> bytes\nbytes(string, encoding[, errors]) -> " ++
      "bytes\nbytes(bytes_or_buffer) -> immutable copy of bytes_or_buffer\nbytes(int) -> bytes object " ++
      "of size given by the parameter initialized with null bytes\nbytes() -> empty bytes " ++
      "object\n\nConstruct an immutable array of bytes from:\n  - an iterable yielding integers in " ++
      "range(256)\n  - a text string encoded using the specified encoding\n  - any object " ++
      "implementing the buffer API.\n  - an integer"
  | .set _ =>
    "set() -> new empty set object\nset(iterable) -> new set object\n\nBuild an unordered collection " ++
      "of unique elements."
  | .date _ => "date(year, month, day) --> date object"
  | .moment _ =>
    "datetime(year, month, day[, hour[, minute[, second[, microsecond[,tzinfo]]]]])\n\nThe year, " ++
      "month and day arguments are required. tzinfo may be None, or an\ninstance of a tzinfo " ++
      "subclass. The remaining arguments may be ints.\n"
  | _ => ""

private def known (kind text : String) (identity : List String)
    (attributes : List (String × Except Fault Value)) : Value :=
  .object { kind, text, truth := true, members := none, sized := false, identity } attributes

def kindObject (v : Value) : Value :=
  known "type" ("<class '" ++ v.kind ++ "'>") ["type", v.kind]
    [("__name__", .ok (.text v.shortKind)), ("__qualname__", .ok (.text v.shortKind))]

private def ability (kind text : String) (owner : Value) (name : String) : Value :=
  known kind text [kind, owner.kind, owner.form.toOption.getD "", name]
    [("__name__", .ok (.text name)), ("__self__", .ok owner)]

private def numberPart? (self imaginary : Value) (name : String) : Option Value :=
  match name with
  | "real" => some self
  | "imag" => some imaginary
  | _ => none

private def integerPart? (n : Int) (name : String) : Option Value :=
  match name with
  | "numerator" => some (.int n)
  | "denominator" => some (.int 1)
  | _ => numberPart? (.int n) (.int 0) name

private def span (parts : String) : Value :=
  let text := "datetime.timedelta(" ++ parts ++ ")"
  known "datetime.timedelta" text [text] []

private def datePart? (d : Date) (name : String) : Option Value :=
  match name with
  | "year" => some (.int d.year)
  | "month" => some (.int d.month)
  | "day" => some (.int d.day)
  | _ => none

private def dayPart? (d : Date) (name : String) : Option Value :=
  match name with
  | "min" => some (.date ⟨1, 1, 1⟩)
  | "max" => some (.date ⟨9999, 12, 31⟩)
  | "resolution" => some (span "days=1")
  | _ => datePart? d name

private def momentPart? (m : Moment) (name : String) : Option Value :=
  match name with
  | "hour" => some (.int m.hour)
  | "minute" => some (.int m.minute)
  | "second" => some (.int m.second)
  | "microsecond" => some (.int m.microsecond)
  | "fold" => some (.int 0)
  | "tzinfo" =>
    some ((m.offset.map fun seconds =>
      known "datetime.timezone" (Moment.zoneForm seconds) [Moment.zoneForm seconds] []).getD .null)
  | "min" => some (.moment ⟨⟨1, 1, 1⟩, 0, 0, 0, 0, none⟩)
  | "max" => some (.moment ⟨⟨9999, 12, 31⟩, 23, 59, 59, 999999, none⟩)
  | "resolution" => some (span "microseconds=1")
  | _ => datePart? m.date name

def part? (v : Value) (name : String) : Option Value :=
  match v with
  | .bool b => integerPart? (if b then 1 else 0) name
  | .int n => integerPart? n name
  | .float x => numberPart? (.float x) (.float (.zero false)) name
  | .set _ => if name = "__hash__" then some .null else none
  | .date d => dayPart? d name
  | .moment m => momentPart? m name
  | _ => none

def attribute? (v : Value) (name : String) : Option Value := do
  let abilities := Abilities.shared.extend (← v.abilities?)
  if name = "__class__" then return v.kindObject
  if name = "__doc__" then return .text v.description
  if let some part := v.part? name then return part
  if abilities.operators.contains name then
    return ability "method-wrapper" ("<method-wrapper '" ++ name ++ "' of " ++ v.kind ++ " object>") v
      name
  if abilities.methods.contains name then
    return ability "builtin_function_or_method"
      ("<built-in method " ++ name ++ " of " ++ v.kind ++ " object>") v name
  if abilities.ofKind.contains name then
    return ability "builtin_function_or_method" ("<built-in method " ++ name ++ " of type object>")
      v.kindObject name
  none

end Value

end FieldMap
