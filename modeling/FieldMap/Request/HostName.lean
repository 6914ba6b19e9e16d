import FieldMap.Request.HostLabel

/-!
Names of hosts in ASCII. The plain form writes each label beyond ASCII as its code. The mapped form
first replaces what stands for other characters: capitals, letters in special forms, dots of other
scripts.
-/

namespace FieldMap.Request

private def isAsciiText (cs : List Char) : Bool := cs.all (·.toNat < 0x80)

def labelForm? (label : List Char) : Option (List Char) :=
  if isAsciiText label then if isAsciiLabel label then shortLabel? label else none
  else labelCode? label

def plainLabel? (label : List Char) : Option (List Char) :=
  let small := Text.lower label
  if isAsciiText label then some small else labelForm? small

def plainHost? (host : List Char) : Option (List Char) := do
  let labels ← (Text.cut '.' host).mapM plainLabel?
  return Text.joinWith '.' labels

def isIgnored (c : Char) : Bool :=
  Text.inRanges
    [(0xad, 0xad), (0x34f, 0x34f), (0x180b, 0x180d), (0x180f, 0x180f), (0x200b, 0x200b),
      (0x2060, 0x2060), (0x2064, 0x2064), (0xfe00, 0xfe0f), (0xfeff, 0xfeff), (0x1bca0, 0x1bca3),
      (0xe0100, 0xe01ef)] c

/-- Characters that stand for nothing: old capitals that had no small letter for long, and
ideographs that were first taken for others. -/
def isUnmapped (c : Char) : Bool :=
  Text.inRanges
    [(0x4c0, 0x4c0), (0x10a0, 0x10c5), (0x2132, 0x2132), (0x2183, 0x2183), (0x2f868, 0x2f868),
      (0x2f874, 0x2f874), (0x2f91f, 0x2f91f), (0x2f95f, 0x2f95f), (0x2f9bf, 0x2f9bf)] c

def letterVariants : List (Nat × Nat) :=
  [(0x345, 0x3b9), (0x3c2, 0x3c3), (0x1c80, 0x432), (0x1c81, 0x434), (0x1c82, 0x43e),
    (0x1c83, 0x441), (0x1c84, 0x442), (0x1c85, 0x442), (0x1c86, 0x44a), (0x1c87, 0x463),
    (0x1c88, 0xa64b)]

/-- A letter without its case: the small one, but the capital one in the Cherokee script, whose
small letters are younger. -/
def withoutCase (c : Char) : List Char :=
  let n := c.toNat
  if 0x13a0 ≤ n && n < 0x13f6 then [c]
  else if 0x13f8 ≤ n && n < 0x13fe then [Char.ofNat (n - 8)]
  else if 0xab70 ≤ n && n < 0xabc0 then [Char.ofNat (n - 0xab70 + 0x13a0)]
  else match letterVariants.lookup n with
    | some letter => [Char.ofNat letter]
    | none => Text.lowerChar c

def mappedCharacter? (c : Char) : Option (List Char) :=
  if isIgnored c then some []
  else if ['.', '\u3002', '\uff0e', '\uff61'].contains c then some ['.']
  else if isUnmapped c then none
  else if c = 'ς' then some [c]
  else
    let form := (Text.compatible c).flatMap withoutCase
    if form.contains '.' then none else some form

def mappedHost? (host : List Char) : Option (List Char) := do
  let forms ← host.mapM mappedCharacter?
  let labels := Text.cut '.' (Text.normalized forms.flatten)
  let ending := if labels.getLast? = some [] then [[]] else []
  let labels := if ending.isEmpty then labels else labels.dropLast
  if labels.isEmpty then none
  let written := Text.joinWith '.' ((← labels.mapM labelForm?) ++ ending)
  if 253 + ending.length < written.length then none else some written

end FieldMap.Request
