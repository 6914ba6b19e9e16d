import FieldMap.Text.CaseTable

/-!
Text in capitals, in small letters and in titles. A letter may turn into several characters, and a
capital sigma turns into its final form at the end of a word.
-/

namespace FieldMap.Text

private def shifted? (shifts : List CaseShift) (c : Char) : Option (List Char) :=
  let n := c.toNat
  (shifts.find? fun s => s.first ≤ n && n ≤ s.last && (n - s.first) % s.stride == 0).map fun s =>
    [Char.ofNat (Int.toNat (n + s.distance))]

private def form? (forms : List (Nat × List Nat)) (shifts : List CaseShift) (c : Char) :
    Option (List Char) :=
  match forms.lookup c.toNat with
  | some form => some (form.map Char.ofNat)
  | none => shifted? shifts c

def upperChar (c : Char) : List Char :=
  if c.toNat < 0x80 then [c.toUpper] else (form? upperForms upperShifts c).getD [c]

def lowerChar (c : Char) : List Char :=
  if c.toNat < 0x80 then [c.toLower] else (form? lowerForms lowerShifts c).getD [c]

def titleChar (c : Char) : List Char :=
  if c.toNat < 0x80 then [c.toUpper] else (form? titleForms titleShifts c).getD (upperChar c)

def isCased (c : Char) : Bool := inRanges casedRanges c

private def meetsCased (cs : List Char) : Bool :=
  match cs.dropWhile (inRanges caseIgnorableRanges ·) with
  | [] => false
  | c :: _ => isCased c

/-- The small form of a character between the text `before` it, nearest first, and `after` it. -/
def lowerIn (before : List Char) (c : Char) (after : List Char) : List Char :=
  if c = 'Σ' then if meetsCased before && !meetsCased after then ['ς'] else ['σ']
  else lowerChar c

def lowerFrom (before : List Char) : List Char → List Char
  | [] => []
  | c :: cs => lowerIn before c cs ++ lowerFrom (c :: before) cs

def lower (cs : List Char) : List Char := lowerFrom [] cs

def upper (cs : List Char) : List Char := cs.flatMap upperChar

def capitalize : List Char → List Char
  | [] => []
  | c :: cs => titleChar c ++ lowerFrom [c] cs

private def titleFrom (before : List Char) (inWord : Bool) : List Char → List Char
  | [] => []
  | c :: cs =>
    (if inWord then lowerIn before c cs else titleChar c) ++
      titleFrom (c :: before) (isCased c) cs

def title (cs : List Char) : List Char := titleFrom [] false cs

def lowerString (s : String) : String := String.ofList (lower s.toList)

def upperString (s : String) : String := String.ofList (upper s.toList)

def capitalizeString (s : String) : String := String.ofList (capitalize s.toList)

end FieldMap.Text
