/-!
Patterns for names: `?` stands for any character, `*` for any run of characters, and brackets for
one character of a set or, behind an exclamation mark, for one that is not in it.
-/

namespace FieldMap.Text

inductive Wildcard where
  | exactly (c : Char)
  | any
  | run
  | oneOf (inverted : Bool) (ranges : List (Char × Char))
  deriving DecidableEq, Repr

namespace Wildcard

def ranges : List Char → List (Char × Char)
  | a :: '-' :: b :: cs => (a, b) :: ranges cs
  | c :: cs => (c, c) :: ranges cs
  | [] => []

def dropEmpty : List Char → List Char
  | a :: '-' :: b :: cs => if b < a then dropEmpty cs else a :: '-' :: b :: cs
  | cs => cs

/-- The set of what stands between its brackets. The exclamation mark that inverts it may also
follow ranges that hold no character; a hyphen behind such a mark is a character of its own. -/
def ofSet : List Char → Wildcard
  | '!' :: cs => oneOf true (ranges cs)
  | cs =>
    match dropEmpty cs with
    | '!' :: '-' :: b :: rest => oneOf true (('-', '-') :: (b, b) :: ranges rest)
    | '!' :: rest => oneOf true (ranges rest)
    | rest => oneOf false (ranges rest)

def set? (cs : List Char) : Option (Wildcard × List Char) :=
  let mark := cs.take (if cs.head? == some '!' then 2 else 1)
  let (rest, after) := (cs.drop mark.length).span (· != ']')
  if after.isEmpty then none else some (ofSet (mark ++ rest), after.drop 1)

def parse (pattern : List Char) : List Wildcard := parts pattern.length pattern
where
  parts : Nat → List Char → List Wildcard
    | 0, _ | _, [] => []
    | fuel + 1, '*' :: cs => run :: parts fuel cs
    | fuel + 1, '?' :: cs => any :: parts fuel cs
    | fuel + 1, '[' :: cs =>
      match set? cs with
      | some (set, rest) => set :: parts fuel rest
      | none => exactly '[' :: parts fuel cs
    | fuel + 1, c :: cs => exactly c :: parts fuel cs

def accepts (c : Char) : Wildcard → Bool
  | exactly d => c == d
  | any | run => true
  | oneOf inverted ranges => inverted != ranges.any fun (a, b) => a ≤ c && c ≤ b

def matchAll : List Wildcard → List Char → Bool
  | [], cs => cs.isEmpty
  | run :: parts, cs => (List.range (cs.length + 1)).any fun n => matchAll parts (cs.drop n)
  | part :: parts, c :: cs => part.accepts c && matchAll parts cs
  | _ :: _, [] => false

def isPattern (s : String) : Bool := s.toList.any fun c => c == '*' || c == '?' || c == '['

end Wildcard

def likens (pattern s : String) : Bool := Wildcard.matchAll (Wildcard.parse pattern.toList) s.toList

end FieldMap.Text
