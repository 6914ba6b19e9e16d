import FieldMap.Request.HostDirection
import FieldMap.Text.Normal

/-!
Characters that a label of a host name may hold only in some places: joiners of letters, marks of
one script and digits of two similar kinds, by Unicode 14.
-/

namespace FieldMap.Request

def joinsNextRanges : List (Nat × Nat) :=
  [(0x620, 0x620), (0x626, 0x626), (0x628, 0x628), (0x62a, 0x62e), (0x633, 0x647), (0x649, 0x64a),
    (0x66e, 0x66f), (0x679, 0x687), (0x69a, 0x6bf), (0x6c1, 0x6c2), (0x6cc, 0x6cc),
    (0x6ce, 0x6ce), (0x6d0, 0x6d1), (0x6fa, 0x6fc), (0x6ff, 0x6ff), (0x712, 0x714),
    (0x71a, 0x71d), (0x71f, 0x727), (0x729, 0x729), (0x72b, 0x72b), (0x72d, 0x72e),
    (0x74e, 0x758), (0x75c, 0x76a), (0x76d, 0x770), (0x772, 0x772), (0x775, 0x777),
    (0x77a, 0x77f), (0x7ca, 0x7ea), (0x841, 0x845), (0x848, 0x848), (0x84a, 0x853),
    (0x855, 0x855), (0x860, 0x860), (0x862, 0x865), (0x868, 0x868), (0x886, 0x886),
    (0x889, 0x88d), (0x8a0, 0x8a9), (0x8af, 0x8b0), (0x8b3, 0x8b8), (0x8ba, 0x8c8),
    (0x1820, 0x1878), (0x1887, 0x18aa), (0xa840, 0xa872), (0x10ac0, 0x10ac4), (0x10acd, 0x10acd),
    (0x10ad3, 0x10adc), (0x10ade, 0x10ae0), (0x10b80, 0x10b80), (0x10b82, 0x10b82),
    (0x10b86, 0x10b88), (0x10b8a, 0x10b8b), (0x10b8d, 0x10b8d), (0x10b90, 0x10b90),
    (0x10d00, 0x10d21), (0x10d23, 0x10d23), (0x10f30, 0x10f32), (0x10f34, 0x10f44),
    (0x10f70, 0x10f73), (0x10f76, 0x10fb0), (0x10fb2, 0x10fb3), (0x10fb8, 0x10fb8),
    (0x10fbb, 0x10fbc), (0x10fbe, 0x10fbf), (0x10fc1, 0x10fc1), (0x10fc4, 0x10fc4),
    (0x1e922, 0x1e943)]

def joinsPreviousRanges : List (Nat × Nat) :=
  [(0x620, 0x620), (0x622, 0x64a), (0x66e, 0x673), (0x679, 0x6d5), (0x6ee, 0x6ef), (0x6fa, 0x6fc),
    (0x6ff, 0x77f), (0x7ca, 0x7ea), (0x840, 0x860), (0x862, 0x865), (0x867, 0x882),
    (0x886, 0x886), (0x889, 0x8ac), (0x8ae, 0x8c8), (0x1820, 0x1878), (0x1887, 0x18aa),
    (0xa840, 0xa871), (0x10ac0, 0x10ac5), (0x10ac7, 0x10aca), (0x10ace, 0x10ad6),
    (0x10ad8, 0x10ae1), (0x10ae4, 0x10ae4), (0x10b80, 0x10b91), (0x10d01, 0x10d23),
    (0x10f30, 0x10f44), (0x10f70, 0x10fb0), (0x10fb2, 0x10fb6), (0x10fb8, 0x10fbf),
    (0x10fc1, 0x10fc4), (0x1e922, 0x1e943)]

def isPassedInJoining (c : Char) : Bool :=
  isOverlaidMark c ||
    Text.inRanges [(0xcbf, 0xcbf), (0xcc6, 0xcc6), (0x11a07, 0x11a08), (0x11c3f, 0x11c3f),
      (0x1e94b, 0x1e94b)] c

def isGreek (c : Char) : Bool :=
  Text.inRanges
    [(0x371, 0x3e1), (0x3f3, 0x3fc), (0x1d26, 0x1d2a), (0x1f00, 0x1ff6), (0xab65, 0xab65)] c

def isHebrew (c : Char) : Bool := Text.inRanges [(0x591, 0x5f4), (0xfb1e, 0xfb1e)] c

def isJapanese (c : Char) : Bool :=
  Text.inRanges
    [(0x3005, 0x3005), (0x3007, 0x3007), (0x3041, 0x3096), (0x309d, 0x309e), (0x30a1, 0x30fa),
      (0x30fd, 0x30fe), (0x31f0, 0x31ff), (0x3400, 0x9fff), (0xfa0e, 0xfa29), (0x16fe3, 0x16fe3),
      (0x16ff0, 0x16ff1), (0x1aff0, 0x1b152), (0x1b164, 0x1b167), (0x20000, 0x3134a)] c

def isVirama (c : Char) : Bool := Text.markClass c == 9

def isBetweenJoined (before after : List Char) : Bool :=
  ((before.dropWhile isPassedInJoining).head?.any (Text.inRanges joinsNextRanges)) &&
    ((after.dropWhile isPassedInJoining).head?.any (Text.inRanges joinsPreviousRanges))

def isInPlace (label before : List Char) (c : Char) (after : List Char) : Bool :=
  let isAsianDigit (c : Char) : Bool := Text.inRanges [(0x6f0, 0x6f9)] c
  let isArabicDigit (c : Char) : Bool := Text.inRanges [(0x660, 0x669)] c
  if c = '\u200c' then before.head?.any isVirama || isBetweenJoined before after
  else if c = '\u200d' then before.head?.any isVirama
  else if c = '\u00b7' then before.head? == some 'l' && after.head? == some 'l'
  else if c = '\u0375' then after.head?.any isGreek
  else if c = '\u05f3' || c = '\u05f4' then before.head?.any isHebrew
  else if c = '\u30fb' then label.any isJapanese
  else if isArabicDigit c then !label.any isAsianDigit
  else if isAsianDigit c then !label.any isArabicDigit
  else false

def areInPlace (label before : List Char) : List Char → Bool
  | [] => true
  | c :: cs =>
    (isHostCharacter c || isInPlace label before c cs) && areInPlace label (c :: before) cs

end FieldMap.Request
