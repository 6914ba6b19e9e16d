import FieldMap.Proofs.Json.Escape
import FieldMap.Proofs.Text.Cut
import FieldMap.Request.Credentials
import FieldMap.Request.Query
import Mathlib.Data.List.TakeWhile

/-!
Texts in the form of a query: letters, digits and a few marks stand for themselves, a plus sign for a
blank, and escapes for the other octets. Every octet is read from what is written for it, and the octets
of a text are read as the text, so pairs that are written and joined are found again by cutting the form
and reading its pieces.
-/

namespace FieldMap.Request
open Outcome

/-! ## Characters as octets -/

def follower (n : Nat) : UInt8 := UInt8.ofNat (n % 64 + 128)

@[simp] theorem toNat_follower (n : Nat) : (follower n).toNat = n % 64 + 128 := by
  rw [follower, UInt8.toNat_ofNat']
  omega

theorem followers_map (ns : List Nat) (rest : List UInt8) :
    followers 0x80 0xbf ns.length (ns.map follower ++ rest) = ns.map (· % 64 + 128) := by
  induction ns with
  | nil => rfl
  | cons n ns ih =>
      have fits : 0x80 ≤ n % 64 + 128 ∧ n % 64 + 128 ≤ 0xbf := by omega
      simp [followers, fits, ih]

/-- Octets are read as a character if the first one announces the others, the second one is in its
range, and their bits make up the code of the character. -/
theorem decodedCharacter_eq {c : Char} {first low high bits n : Nat} {ns : List Nat}
    (small : first < 256) (announced : leading? first = some (ns.length + 1, low, high, bits))
    (lower : low ≤ n % 64 + 128) (upper : n % 64 + 128 ≤ high)
    (code : ns.foldl (fun m n => m * 64 + n % 64) (bits * 64 + n % 64) = c.toNat)
    (rest : List UInt8) :
    decodedCharacter (UInt8.ofNat first) ((n :: ns).map follower ++ rest) = (c, ns.length + 1) := by
  have follow : followers low high (ns.length + 1) ((n :: ns).map follower ++ rest) =
      (n :: ns).map (· % 64 + 128) := by
    simp [followers, lower, upper, followers_map]
  unfold decodedCharacter
  rw [UInt8.toNat_ofNat', Nat.mod_eq_of_lt small]
  simp only [announced, follow, List.length_map, List.length_cons, if_true, List.foldl_map,
    Nat.add_sub_cancel, List.foldl_cons, code, Char.ofNat_toNat]

section Width

variable {c : Char}

theorem decodedCharacter_one (most : c.toNat ≤ 0x7f) (rest : List UInt8) :
    decodedCharacter (UInt8.ofNat c.toNat) ([].map follower ++ rest) = (c, 0) := by
  have announced : leading? c.toNat = some (0, 0, 0, c.toNat) := if_pos (by omega)
  unfold decodedCharacter
  rw [UInt8.toNat_ofNat', Nat.mod_eq_of_lt (by omega)]
  simp [announced, followers]

theorem decodedCharacter_two (least : 0x7f < c.toNat) (most : c.toNat ≤ 0x7ff) (rest : List UInt8) :
    decodedCharacter (UInt8.ofNat (c.toNat / 64 % 32 + 192)) ([c.toNat].map follower ++ rest) =
      (c, 1) := by
  have announced : leading? (c.toNat / 64 % 32 + 192) = some (1, 0x80, 0xbf, c.toNat / 64) := by
    have bits : c.toNat / 64 % 32 + 192 - 0xc0 = c.toNat / 64 := by omega
    rw [leading?, if_neg (by omega), if_neg (by omega), if_pos (by omega), bits]
  refine decodedCharacter_eq (by omega) announced (by omega) (by omega) ?_ rest
  rw [List.foldl_nil]
  omega

theorem decodedCharacter_three (least : 0x7ff < c.toNat) (most : c.toNat ≤ 0xffff)
    (rest : List UInt8) :
    decodedCharacter (UInt8.ofNat (c.toNat / 4096 % 16 + 224))
      ([c.toNat / 64, c.toNat].map follower ++ rest) = (c, 2) := by
  have valid := Text.toNat_valid c
  obtain ⟨low, high, announced, lower, upper⟩ : ∃ low high,
      leading? (c.toNat / 4096 % 16 + 224) = some (2, low, high, c.toNat / 4096) ∧
        low ≤ c.toNat / 64 % 64 + 128 ∧ c.toNat / 64 % 64 + 128 ≤ high := by
    have bits : c.toNat / 4096 % 16 + 224 - 0xe0 = c.toNat / 4096 := by omega
    rw [leading?, if_neg (by omega), if_neg (by omega), if_neg (by omega), if_pos (by omega), bits]
    -- Behind E0 and ED the range of the second octet is narrower.
    refine ⟨_, _, rfl, ?_, ?_⟩ <;> split <;> omega
  refine decodedCharacter_eq (by omega) announced lower upper ?_ rest
  rw [List.foldl_cons, List.foldl_nil]
  omega

theorem decodedCharacter_four (least : 0xffff < c.toNat) (rest : List UInt8) :
    decodedCharacter (UInt8.ofNat (c.toNat / 262144 % 8 + 240))
      ([c.toNat / 4096, c.toNat / 64, c.toNat].map follower ++ rest) = (c, 3) := by
  have valid := Text.toNat_valid c
  obtain ⟨low, high, announced, lower, upper⟩ : ∃ low high,
      leading? (c.toNat / 262144 % 8 + 240) = some (3, low, high, c.toNat / 262144) ∧
        low ≤ c.toNat / 4096 % 64 + 128 ∧ c.toNat / 4096 % 64 + 128 ≤ high := by
    have bits : c.toNat / 262144 % 8 + 240 - 0xf0 = c.toNat / 262144 := by omega
    rw [leading?, if_neg (by omega), if_neg (by omega), if_neg (by omega), if_neg (by omega),
      if_pos (by omega), bits]
    -- So it is behind F0 and F4.
    refine ⟨_, _, rfl, ?_, ?_⟩ <;> split <;> omega
  refine decodedCharacter_eq (by omega) announced lower upper ?_ rest
  rw [List.foldl_cons, List.foldl_cons, List.foldl_nil]
  omega

end Width

theorem utf8_cons_of_ascii {c : Char} (ascii : c.toNat < 0x80) (cs : List Char) :
    utf8 (c :: cs) = UInt8.ofNat c.toNat :: utf8 cs := by
  have basic : c.toNat < 0xd800 := by omega
  have code : Text.codeOf c = c.toNat := Text.codeOf_of_whole (Text.half?_of_lt basic)
  have whole : Text.isSurrogate c.toNat = false := Text.isSurrogate_of_lt basic
  have single : String.utf8EncodeChar c = [UInt8.ofNat c.toNat] := if_pos (Nat.le_of_lt_succ ascii)
  have notHigh : Text.isHighSurrogate (Text.codeOf c) = false := by
    rw [code]
    exact (Bool.or_eq_false_iff.mp whole).1
  rw [utf8, Text.codes_cons notHigh, List.flatMap_cons, ← utf8, code, utf8Code,
    if_neg (by simp [whole]), Char.ofNat_toNat, single, List.singleton_append]

theorem decodeLoosely_length (more rest : List UInt8) :
    decodeLoosely more.length (more ++ rest) = decodeLoosely 0 rest := by
  induction more with
  | nil => rfl
  | cons b more ih => exact ih

theorem decodeLoosely_cons {c : Char} {b : UInt8} {more rest : List UInt8}
    (read : decodedCharacter b (more ++ rest) = (c, more.length)) :
    decodeLoosely 0 (b :: (more ++ rest)) = Text.charsOf c.toNat ++ decodeLoosely 0 rest := by
  rw [decodeLoosely, read]
  exact congrArg (Text.charsOf c.toNat ++ ·) (decodeLoosely_length more rest)

theorem decodeLoosely_utf8EncodeChar (c : Char) (rest : List UInt8) :
    decodeLoosely 0 (String.utf8EncodeChar c ++ rest) =
      Text.charsOf c.toNat ++ decodeLoosely 0 rest := by
  have code : c.val.toNat = c.toNat := rfl
  simp only [String.utf8EncodeChar, code]
  split
  · next one => exact decodeLoosely_cons (decodedCharacter_one one rest)
  split
  · next two => exact decodeLoosely_cons (decodedCharacter_two (by omega) two rest)
  split
  · next three => exact decodeLoosely_cons (decodedCharacter_three (by omega) three rest)
  · next four => exact decodeLoosely_cons (decodedCharacter_four (by omega) rest)

/-- No code of a text is half of a surrogate pair. -/
def Whole (cs : List Char) : Prop := ∀ code ∈ Text.codes cs, Text.isSurrogate code = false

instance (cs : List Char) : Decidable (Whole cs) :=
  inferInstanceAs (Decidable (∀ code ∈ Text.codes cs, Text.isSurrogate code = false))

theorem decodeLoosely_utf8 {cs : List Char} (whole : Whole cs) : decodeLoosely 0 (utf8 cs) = cs := by
  have each (codes : List Nat)
      (valid : ∀ code ∈ codes, code < 0x110000 ∧ Text.isSurrogate code = false) :
      decodeLoosely 0 (codes.flatMap utf8Code) = Text.ofCodes codes := by
    induction codes with
    | nil => rfl
    | cons code codes ih =>
        obtain ⟨⟨bound, single⟩, others⟩ := List.forall_mem_cons.mp valid
        rw [List.flatMap_cons, utf8Code, if_neg (by simp [single]), decodeLoosely_utf8EncodeChar,
          Text.toNat_ofNat bound single, ih others, Text.ofCodes, Text.ofCodes, List.flatMap_cons]
  rw [utf8, each _ fun code member => ⟨Text.lt_of_mem_codes member, whole code member⟩,
    Text.ofCodes_codes]

/-! ## Octets as text -/

theorem toNat_lt_of_isUnreserved {c : Char} (unreserved : isUnreserved c = true) :
    c.toNat < 0x80 := by
  have code : c.toNat = c.val.toNat := rfl
  rw [isUnreserved, Bool.or_eq_true] at unreserved
  rcases unreserved with alphanumeric | mark
  · delta Char.isAlphanum Char.isAlpha Char.isUpper Char.isLower Char.isDigit at alphanumeric
    simp [UInt32.le_iff_toNat_le] at alphanumeric
    omega
  · simp at mark
    rcases mark with rfl | rfl | rfl | rfl <;> decide

theorem isUnreserved_of_hexValue? {c : Char} {n : Nat} (digit : Json.hexValue? c = some n) :
    isUnreserved c = true := by
  have ascii : c.toNat < 0x80 := by
    have code : c.toNat = c.val.toNat := rfl
    unfold Json.hexValue? at digit
    simp [Char.le_def, UInt32.le_iff_toNat_le] at digit
    split at digit
    · omega
    split at digit
    · omega
    split at digit
    · omega
    · cases digit
  have each : ∀ n < 0x80, (Json.hexValue? (Char.ofNat n)).isSome = true →
      isUnreserved (Char.ofNat n) = true := by decide +kernel
  have unreserved := each c.toNat ascii
  rw [Char.ofNat_toNat, digit] at unreserved
  exact unreserved rfl

theorem percentOctet_eq (b : UInt8) : ∃ x y, percentOctet b = ['%', x, y] ∧
    Json.hexValue? x = some (b.toNat / 16) ∧ Json.hexValue? y = some (b.toNat % 16) := by
  have capital : ∀ digit < 16, Json.hexValue? (Nat.digitChar digit).toUpper = some digit := by
    decide
  have small : b.toNat < 256 := b.toNat_lt
  have high : b.toNat / 16 < 16 := by omega
  have low : b.toNat % 16 < 16 := by omega
  refine ⟨(Nat.digitChar (b.toNat / 16)).toUpper, (Nat.digitChar (b.toNat % 16)).toUpper, ?_,
    capital _ high, capital _ low⟩
  rw [percentOctet, Text.hexDigits_succ (by decide), Text.hexDigits, Nat.toDigits_of_lt_base high]
  rfl

inductive FormOctet (b : UInt8) : List Char → Prop
  | plain {c : Char} (unreserved : isUnreserved c = true) (code : UInt8.ofNat c.toNat = b) :
      FormOctet b [c]
  | blank (space : b = 0x20) : FormOctet b ['+']
  | escape {x y : Char} (high : Json.hexValue? x = some (b.toNat / 16))
      (low : Json.hexValue? y = some (b.toNat % 16))
      (reserved : isUnreserved (Char.ofNat b.toNat) = false) : FormOctet b ['%', x, y]

theorem toNat_charOf (b : UInt8) : (Char.ofNat b.toNat).toNat = b.toNat := by
  have each : ∀ n < 256, (Char.ofNat n).toNat = n := by decide +kernel
  exact each b.toNat b.toNat_lt

theorem formEncodeOctets_cons (b : UInt8) (bs : List UInt8) :
    ∃ written, formEncodeOctets (b :: bs) = written ++ formEncodeOctets bs ∧
      FormOctet b written := by
  have code := toNat_charOf b
  refine ⟨_, List.flatMap_cons, ?_⟩
  dsimp only
  split
  · next plain =>
      have unreserved := (Bool.and_eq_true_iff.mp plain).2
      refine .plain unreserved ?_
      rw [code, UInt8.ofNat_toNat]
  split
  · next blank =>
      rw [blank] at code
      exact .blank (UInt8.toNat_inj.mp code.symm)
  · next reserved _ =>
      obtain ⟨x, y, escape, high, low⟩ := percentOctet_eq b
      rw [escape]
      refine .escape high low (Bool.eq_false_iff.mpr fun unreserved => reserved ?_)
      have ascii := toNat_lt_of_isUnreserved unreserved
      rw [code] at ascii
      simp [ascii, unreserved]

/-! ## Reading a text -/

def formText (cs : List Char) : List Char :=
  decodeLoosely 0 (decodedOctets (cs.map fun c => if c = '+' then ' ' else c))

theorem decodedOctets_formOctet {b : UInt8} {written : List Char} (octet : FormOctet b written)
    (rest : List Char) :
    decodedOctets (written.map (fun c => if c = '+' then ' ' else c) ++ rest) =
      b :: decodedOctets rest := by
  have plus : isUnreserved '+' = false := by decide
  have percent : isUnreserved '%' = false := by decide
  cases octet with
  | @plain c unreserved code =>
      have notPlus : c ≠ '+' := by
        rintro rfl
        rw [plus] at unreserved
        cases unreserved
      have notPercent : c ≠ '%' := by
        rintro rfl
        rw [percent] at unreserved
        cases unreserved
      have octets : utf8 [c] = [b] := by
        rw [utf8_cons_of_ascii (toNat_lt_of_isUnreserved unreserved), code]
        rfl
      simp [notPlus, decodedOctets, notPercent, octets]
  | blank space =>
      subst space
      rfl
  | @escape x y high low reserved =>
      have digit {d : Char} {n : Nat} (value : Json.hexValue? d = some n) : d ≠ '+' := by
        rintro rfl
        cases value
      have whole : b.toNat / 16 * 16 + b.toNat % 16 = b.toNat := by omega
      simp [digit high, digit low, decodedOctets, high, low, whole]

theorem formText_formEncodeOctets {cs : List Char} (whole : Whole cs) :
    formText (formEncodeOctets (utf8 cs)) = cs := by
  have octets (bs : List UInt8) :
      decodedOctets ((formEncodeOctets bs).map fun c => if c = '+' then ' ' else c) = bs := by
    induction bs with
    | nil => rfl
    | cons b bs ih =>
        obtain ⟨written, text, octet⟩ := formEncodeOctets_cons b bs
        rw [text, List.map_append, decodedOctets_formOctet octet, ih]
  rw [formText, octets, decodeLoosely_utf8 whole]

/-! ## Writing a text -/

theorem encodable_of_all {encoding reason : String} {has : Nat → Bool} {cs : List Char}
    (all : ∀ code ∈ Text.codes cs, has code = true) : encodable encoding reason has cs = .ok () := by
  have none : (Text.codes cs).takeWhile has = Text.codes cs := List.takeWhile_eq_self_iff.mpr all
  simp [encodable, none]

/-- Encoding with blanks kept, and then made plus signs, treats every octet as a form does. -/
theorem map_percentEncode (cs : List Char) :
    (percentEncode (fun c => isUnreserved c || c == ' ') cs).map
        (fun c => if c = ' ' then '+' else c) =
      formEncodeOctets (utf8 cs) := by
  rw [percentEncode, formEncodeOctets, List.map_flatMap]
  congr 1
  funext b
  have code := toNat_charOf b
  have blank : isUnreserved ' ' = false := by decide
  obtain ⟨x, y, escape, high, low⟩ := percentOctet_eq b
  have digit {d : Char} {n : Nat} (value : Json.hexValue? d = some n) : d ≠ ' ' := by
    rintro rfl
    cases value
  by_cases space : Char.ofNat b.toNat = ' '
  · have ascii : b.toNat < 128 := by
      rw [← code, space]
      decide
    simp [space, ascii, blank]
  · have solid : (Char.ofNat b.toNat == ' ') = false := beq_eq_false_iff_ne.mpr space
    simp only [solid, Bool.or_false]
    split
    · simp [space]
    · simp [escape, digit high, digit low]

theorem formEncode_of_whole {cs : List Char} (whole : Whole cs) :
    formEncode cs = .ok (formEncodeOctets (utf8 cs)) := by
  have writable : ∀ code ∈ Text.codes cs, (!Text.isSurrogate code) = true := by
    intro code member
    rw [whole code member]
    rfl
  rw [formEncode, encodable_of_all writable, ok_bind, pure_eq, map_percentEncode]

/-! ## Pairs -/

def formPairs (form : List Char) : List (String × String) :=
  ((Text.cut '&' form).filter (!·.isEmpty)).map fun piece =>
    let (name, value) := Text.splitAt '=' piece
    (String.ofList (formText name), String.ofList (formText (value.getD [])))

@[simp] theorem formPairs_nil : formPairs [] = [] := rfl

theorem formPairs_append (form more : List Char) :
    formPairs (form ++ '&' :: more) = formPairs form ++ formPairs more := by
  rw [formPairs, Text.cut_append, List.filter_append, List.map_append]
  rfl

theorem mem_formEncodeOctets {bs : List UInt8} {c : Char} (member : c ∈ formEncodeOctets bs) :
    isUnreserved c = true ∨ c ∈ ['+', '%'] := by
  induction bs with
  | nil => cases member
  | cons b bs ih =>
      obtain ⟨written, text, octet⟩ := formEncodeOctets_cons b bs
      rw [text, List.mem_append] at member
      rcases member with here | later
      · cases octet with
        | plain unreserved code =>
            rw [List.mem_singleton.mp here]
            exact .inl unreserved
        | blank space =>
            rw [List.mem_singleton.mp here]
            exact .inr (by decide)
        | escape high low reserved =>
            simp only [List.mem_cons, List.not_mem_nil, or_false] at here
            rcases here with rfl | rfl | rfl
            · exact .inr (by decide)
            · exact .inl (isUnreserved_of_hexValue? high)
            · exact .inl (isUnreserved_of_hexValue? low)
      · exact ih later

theorem not_mem_formEncodeOctets {mark : Char} (reserved : isUnreserved mark = false)
    (other : mark ∉ ['+', '%']) (bs : List UInt8) : mark ∉ formEncodeOctets bs := by
  intro member
  rcases mem_formEncodeOctets member with unreserved | listed
  · rw [reserved] at unreserved
    cases unreserved
  · exact other listed

def pairText (pair : String × String) : List Char :=
  formEncodeOctets (utf8 pair.1.toList) ++ '=' :: formEncodeOctets (utf8 pair.2.toList)

def WholePair (pair : String × String) : Prop := Whole pair.1.toList ∧ Whole pair.2.toList

theorem formPairs_pairText {pair : String × String} (whole : WholePair pair) :
    formPairs (pairText pair) = [pair] := by
  have uncut : '&' ∉ pairText pair := by
    have absent (bs : List UInt8) : '&' ∉ formEncodeOctets bs :=
      not_mem_formEncodeOctets (by decide) (by decide) bs
    simp [pairText, absent]
  have unsplit : '=' ∉ formEncodeOctets (utf8 pair.1.toList) :=
    not_mem_formEncodeOctets (by decide) (by decide) _
  have some : (pairText pair).isEmpty = false := by simp [pairText]
  rw [formPairs, Text.cut_of_not_mem uncut, List.filter_cons_of_pos (by simp [some]),
    List.filter_nil, List.map_singleton, pairText, Text.splitAt_append unsplit]
  simp only [Option.getD_some, formText_formEncodeOctets whole.1, formText_formEncodeOctets whole.2,
    String.ofList_toList]

theorem formPairs_joinWith {pairs : List (String × String)} (whole : ∀ pair ∈ pairs, WholePair pair) :
    formPairs (Text.joinWith '&' (pairs.map pairText)) = pairs := by
  induction pairs with
  | nil => rfl
  | cons pair pairs ih =>
      obtain ⟨first, others⟩ := List.forall_mem_cons.mp whole
      by_cases last : pairs = []
      · subst last
        exact formPairs_pairText first
      · rw [List.map_cons, Text.joinWith_cons (by simpa using last), formPairs_append, ih others,
          formPairs_pairText first]
        rfl

end FieldMap.Request
