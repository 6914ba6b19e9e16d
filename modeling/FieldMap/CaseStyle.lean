import FieldMap.Text.Alphanumeric
import FieldMap.Text.Normal
import FieldMap.Text.Case
import FieldMap.Text.Cut
import FieldMap.Text.Digit

/-!
Styles of identifiers: words joined with low lines or hyphens, in camel case, as titles, and as the
parameters of an address.
-/

namespace FieldMap.CaseStyle

open FieldMap.Text

def breakRuns : List Char → List Char
  | a :: b :: c :: cs =>
    if a.isUpper && b.isUpper && c.isLower then a :: '_' :: breakRuns (b :: c :: cs)
    else a :: breakRuns (b :: c :: cs)
  | cs => cs

def breakHumps : List Char → List Char
  | a :: b :: cs =>
    if (a.isLower || isDecimal a) && b.isUpper then a :: '_' :: breakHumps (b :: cs)
    else a :: breakHumps (b :: cs)
  | cs => cs

private def replace (old new : Char) (cs : List Char) : List Char :=
  cs.map fun c => if c = old then new else c

def underscore (cs : List Char) : List Char :=
  lower (replace '-' '_' (breakHumps (breakRuns cs)))

def joinHumps : List Char → List Char
  | '_' :: c :: cs => if c = '\n' then '_' :: c :: joinHumps cs else upperChar c ++ joinHumps cs
  | c :: cs => c :: joinHumps cs
  | [] => []

def camelize : List Char → List Char
  | [] => []
  | c :: cs => if c = '\n' then c :: joinHumps cs else upperChar c ++ joinHumps cs

def camelizeLower? : List Char → Option (List Char)
  | [] => none
  | c :: cs => some (lower [c] ++ (camelize (c :: cs)).drop 1)

def dasherize (cs : List Char) : List Char := replace '_' '-' (underscore cs)

def dropIdMark (cs : List Char) : List Char :=
  match cs.reverse with
  | 'd' :: 'i' :: '_' :: rest => rest.reverse
  | '\n' :: 'd' :: 'i' :: '_' :: rest => ('\n' :: rest).reverse
  | _ => cs

def humanize (cs : List Char) : List Char :=
  match replace '_' ' ' (dropIdMark cs) with
  | c :: rest => if isWordChar c then upperChar c ++ rest else c :: rest
  | [] => []

/-- Capitalises the first character of every word; an apostrophe inside a word does not begin a new
one. `inWord` tells whether a word character stands before. -/
def capitalizeWords (inWord : Bool) : List Char → List Char
  | '\'' :: c :: cs =>
    if inWord && isWordChar c then capitalize ['\'', c] ++ capitalizeWords true cs
    else '\'' :: capitalizeWords false (c :: cs)
  | c :: cs =>
    (if !inWord && isWordChar c then capitalize [c] else [c]) ++ capitalizeWords (isWordChar c) cs
  | [] => []

def titleize (cs : List Char) : List Char :=
  capitalizeWords false (title (humanize (underscore cs)))

def hyphenate : List Char → List Char
  | [] => []
  | c :: cs =>
    if c.isAlphanum || c == '_' then c :: hyphenate cs
    else match hyphenate cs with
      | '-' :: rest => '-' :: rest
      | rest => '-' :: rest

def parameterize (cs : List Char) : List Char :=
  let joined := hyphenate (toAscii cs)
  let joined := if joined.head? = some '-' then joined.drop 1 else joined
  let joined := if joined.getLast? = some '-' then joined.dropLast else joined
  lower joined

end FieldMap.CaseStyle
