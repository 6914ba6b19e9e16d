import FieldMap.Yaml.Numeral
import FieldMap.Yaml.Timestamp

/-!
Tags say what kind of thing a node is. A plain scalar without a tag has the one that its text
suggests.
-/

namespace FieldMap.Yaml

inductive Tag where
  | null
  | bool
  | int
  | float
  | binary
  | timestamp
  | orderedMap
  | pairs
  | set
  | str
  | seq
  | map
  | merge
  | value
  | unknown
  deriving DecidableEq, Repr

namespace Tag

def start : String := "tag:yaml.org,2002:"

def named : List (String × Tag) :=
  [("null", null), ("bool", bool), ("int", int), ("float", float), ("binary", binary),
    ("timestamp", timestamp), ("omap", orderedMap), ("pairs", pairs), ("set", set), ("str", str),
    ("seq", seq), ("map", map), ("merge", merge), ("value", value)]

def ofName (name : String) : Tag :=
  ((named.find? fun entry => start ++ entry.1 == name).map Prod.snd).getD unknown

def truths : List (String × Bool) :=
  [("yes", true), ("no", false), ("true", true), ("false", false), ("on", true), ("off", false)]

def nulls : List String := ["", "~", "null", "Null", "NULL"]

def isTruth (text : String) : Bool :=
  truths.any fun (word, _) =>
    text == word || text == Text.upperString word || text == Text.capitalizeString word

def reserved : List String := ["!", "&", "*"]

/-- The tag that a text suggests; one line feed at its end does not count, unless it is all. -/
def ofPlain (text : String) : Tag :=
  let cs := if text == "\n" then text.toList else Text.withoutFinalBreak text.toList
  let text := String.ofList cs
  if isTruth text then bool
  else if isFraction cs then float
  else if isWhole cs then int
  else if text == "<<" then merge
  else if nulls.contains text then null
  else if WrittenMoment.isWritten cs then timestamp
  else if text == "=" then value
  else if reserved.contains text then unknown
  else str

end Tag

end FieldMap.Yaml
