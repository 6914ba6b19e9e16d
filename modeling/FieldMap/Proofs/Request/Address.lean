import FieldMap.Proofs.Request
import FieldMap.Proofs.Request.Form

/-!
Plain addresses: a scheme of the web, a host and a path without escapes, and perhaps a query. Nothing in
them needs quoting, so they are taken apart at their marks, their parts stay plain when they are
normalised, and quoting the whole again changes nothing, even with the parameters of a form behind the
query. They hold no credentials.
-/

namespace FieldMap.Request
open Outcome

/-! ## Texts that are settled -/

def plainMarks : List Char := [':', '/', '?', '=', '&', '+']

/-- Texts that stay as they are when an address is quoted: what is unreserved stands for itself, and
only what is reserved is escaped. -/
inductive Settled : List Char → Prop
  | nil : Settled []
  | plain {c : Char} {cs : List Char} (kept : isUnreserved c = true ∨ c ∈ plainMarks)
      (rest : Settled cs) : Settled (c :: cs)
  | escape {x y : Char} {high low : Nat} {cs : List Char} (first : Json.hexValue? x = some high)
      (second : Json.hexValue? y = some low)
      (reserved : isUnreserved (Char.ofNat (high * 16 + low)) = false) (rest : Settled cs) :
      Settled ('%' :: x :: y :: cs)

namespace Settled

variable {cs ds : List Char}

theorem append (first : Settled cs) (second : Settled ds) : Settled (cs ++ ds) := by
  induction first with
  | nil => exact second
  | plain kept _ ih => exact .plain kept ih
  | escape high low reserved _ ih => exact .escape high low reserved ih

theorem of_plain (plain : ∀ c ∈ cs, isUnreserved c = true ∨ c ∈ plainMarks) : Settled cs := by
  induction cs with
  | nil => exact .nil
  | cons c cs ih =>
      have later := ih fun d member => plain d (List.mem_cons_of_mem c member)
      exact .plain (plain c List.mem_cons_self) later

theorem formEncodeOctets (bs : List UInt8) : Settled (formEncodeOctets bs) := by
  induction bs with
  | nil => exact .nil
  | cons b bs ih =>
      obtain ⟨written, text, octet⟩ := formEncodeOctets_cons b bs
      rw [text]
      apply append _ ih
      cases octet with
      | plain unreserved code => exact .plain (.inl unreserved) .nil
      | blank space => exact .plain (.inr (by decide)) .nil
      | escape high low reserved =>
          have whole : b.toNat / 16 * 16 + b.toNat % 16 = b.toNat := by omega
          refine .escape high low ?_ .nil
          rw [whole, reserved]

theorem mem (settled : Settled cs) :
    ∀ c ∈ cs, isUnreserved c = true ∨ c ∈ plainMarks ∨ c = '%' := by
  induction settled with
  | nil => exact nofun
  | plain kept _ ih =>
      refine List.forall_mem_cons.mpr ⟨?_, ih⟩
      exact kept.imp_right .inl
  | escape high low _ _ ih =>
      refine List.forall_mem_cons.mpr ⟨.inr (.inr rfl), List.forall_mem_cons.mpr ⟨?_,
        List.forall_mem_cons.mpr ⟨?_, ih⟩⟩⟩
      · exact .inl (isUnreserved_of_hexValue? high)
      · exact .inl (isUnreserved_of_hexValue? low)

theorem ascii (settled : Settled cs) : ∀ c ∈ cs, c.toNat < 0x80 := by
  have marks : ∀ c ∈ plainMarks, c.toNat < 0x80 := by decide
  intro c member
  rcases settled.mem c member with unreserved | mark | rfl
  · exact toNat_lt_of_isUnreserved unreserved
  · exact marks c mark
  · decide

theorem not_mem (settled : Settled cs) {c : Char} (reserved : isUnreserved c = false)
    (other : c ∉ '%' :: plainMarks) : c ∉ cs := by
  intro member
  rw [List.mem_cons, not_or] at other
  rcases settled.mem c member with unreserved | mark | percent
  · rw [reserved] at unreserved
    cases unreserved
  · exact other.2 mark
  · exact other.1 percent

theorem decodeUnreserved? (settled : Settled cs) : decodeUnreserved? cs = some cs := by
  induction settled with
  | nil => rfl
  | @plain c cs kept _ ih =>
      have notPercent : c ≠ '%' := by
        rintro rfl
        rcases kept with unreserved | mark
        · exact absurd unreserved (by decide)
        · exact absurd mark (by decide)
      simp [Request.decodeUnreserved?, notPercent, ih]
  | escape high low reserved _ ih =>
      simp [Request.decodeUnreserved?, looseHexValue?, high, low, reserved, ih]

end Settled

theorem percentEncode_eq_self {allowed : Char → Bool} {cs : List Char}
    (each : ∀ c ∈ cs, c.toNat < 0x80 ∧ allowed c = true) : percentEncode allowed cs = cs := by
  induction cs with
  | nil => rfl
  | cons c cs ih =>
      obtain ⟨ascii, kept⟩ := each c List.mem_cons_self
      have later := ih fun d member => each d (List.mem_cons_of_mem c member)
      have small : c.toNat % 256 = c.toNat := by omega
      rw [percentEncode] at later ⊢
      rw [utf8_cons_of_ascii ascii, List.flatMap_cons, later]
      simp [small, ascii, kept]

theorem requote_of_settled {cs : List Char} (settled : Settled cs) : requote cs = cs := by
  have marks : ∀ c ∈ plainMarks, c.toNat < 0x80 ∧
      (isUnreserved c || isReserved c || c == '%') = true := by decide
  rw [requote, settled.decodeUnreserved?]
  apply percentEncode_eq_self
  intro c member
  rcases settled.mem c member with unreserved | mark | rfl
  · simp [toNat_lt_of_isUnreserved unreserved, unreserved]
  · exact marks c mark
  · decide

/-! ## Parts of an address -/

theorem capitalEscapes_of_not_mem {cs : List Char} (absent : '%' ∉ cs) :
    capitalEscapes cs = (cs, 0) := by
  induction cs with
  | nil => rfl
  | cons c cs ih =>
      rw [List.mem_cons, not_or] at absent
      have here : c ≠ '%' := fun same => absent.1 same.symm
      simp [capitalEscapes, here, ih absent.2]

def Plain (marks : List Char) (cs : List Char) : Prop :=
  ∀ c ∈ cs, isUnreserved c = true ∨ c ∈ marks

instance (marks cs : List Char) : Decidable (Plain marks cs) :=
  inferInstanceAs (Decidable (∀ c ∈ cs, isUnreserved c = true ∨ c ∈ marks))

namespace Plain

variable {marks : List Char} {cs : List Char}

theorem ascii (plain : Plain marks cs) (ascii : ∀ c ∈ marks, c.toNat < 0x80) :
    ∀ c ∈ cs, c.toNat < 0x80 := by
  intro c member
  rcases plain c member with unreserved | mark
  · exact toNat_lt_of_isUnreserved unreserved
  · exact ascii c mark

theorem not_mem (plain : Plain marks cs) {c : Char} (reserved : isUnreserved c = false)
    (other : c ∉ marks) : c ∉ cs := by
  intro member
  rcases plain c member with unreserved | mark
  · rw [reserved] at unreserved
    cases unreserved
  · exact other mark

theorem settled (plain : Plain marks cs) (known : ∀ c ∈ marks, c ∈ plainMarks) : Settled cs :=
  .of_plain fun c member => (plain c member).imp_right (known c)

theorem encodePart (plain : Plain marks cs) {allowed : Char → Bool}
    (unreserved : ∀ c, isUnreserved c = true → allowed c = true)
    (known : ∀ c ∈ marks, c ≠ '%' ∧ c.toNat < 0x80 ∧ allowed c = true) :
    encodePart allowed cs = cs := by
  have absent : '%' ∉ cs := plain.not_mem (by decide) fun mark => (known '%' mark).1 rfl
  rw [Request.encodePart, capitalEscapes_of_not_mem absent]
  apply percentEncode_eq_self
  intro c member
  rcases plain c member with reserved | mark
  · simp [toNat_lt_of_isUnreserved reserved, unreserved c reserved]
  · simp [known c mark]

end Plain

/-! ## Hosts -/

theorem lowerFrom_of_ascii {cs : List Char} (ascii : ∀ c ∈ cs, c.toNat < 0x80)
    (before : List Char) : Text.lowerFrom before cs = cs.map Char.toLower := by
  induction cs generalizing before with
  | nil => rfl
  | cons c cs ih =>
      have here := ascii c List.mem_cons_self
      have later := ih fun d member => ascii d (List.mem_cons_of_mem c member)
      have notSigma : c ≠ 'Σ' := by
        rintro rfl
        exact absurd here (by decide)
      rw [Text.lowerFrom, later, Text.lowerIn, if_neg notSigma, Text.lowerChar, if_pos here]
      rfl

theorem toLower_of_isUnreserved {c : Char} (unreserved : isUnreserved c = true) :
    isUnreserved c.toLower = true ∧ (c.toLower = '.' → c = '.') := by
  have each : ∀ n < 0x80, isUnreserved (Char.ofNat n) = true →
      isUnreserved (Char.ofNat n).toLower = true ∧
        ((Char.ofNat n).toLower = '.' → Char.ofNat n = '.') := by decide +kernel
  have lowered := each c.toNat (toNat_lt_of_isUnreserved unreserved)
  rw [Char.ofNat_toNat] at lowered
  exact lowered unreserved

theorem plainLabel?_of_ascii {label : List Char} (ascii : ∀ c ∈ label, c.toNat < 0x80) :
    plainLabel? label = some (label.map Char.toLower) := by
  unfold plainLabel?
  refine (if_pos (List.all_eq_true.mpr fun c member => decide_eq_true (ascii c member))).trans ?_
  exact congrArg some (lowerFrom_of_ascii ascii [])

theorem plainHost?_of_ascii {host : List Char} (ascii : ∀ c ∈ host, c.toNat < 0x80) :
    plainHost? host = some (host.map Char.toLower) := by
  have labels (pieces : List (List Char)) (each : ∀ piece ∈ pieces, ∀ c ∈ piece, c.toNat < 0x80) :
      pieces.mapM plainLabel? = some (pieces.map (List.map Char.toLower)) := by
    induction pieces with
    | nil => rfl
    | cons piece pieces ih =>
        have others := ih fun other later => each other (List.mem_cons_of_mem piece later)
        rw [List.mapM_cons, plainLabel?_of_ascii (each piece List.mem_cons_self), others]
        rfl
  have within : ∀ piece ∈ Text.cut '.' host, ∀ c ∈ piece, c.toNat < 0x80 :=
    fun piece inside c member => ascii c (Text.mem_of_mem_cut inside member)
  rw [plainHost?, labels _ within]
  have whole : Text.joinWith '.' ((Text.cut '.' host).map (List.map Char.toLower)) =
      host.map Char.toLower := by
    rw [Text.joinWith_map (by decide), Text.joinWith_cut]
  exact congrArg some whole

structure PlainHost (host : List Char) : Prop where
  named : host ≠ []
  plain : Plain [] host
  first : host.head? ≠ some '.'

namespace PlainHost

variable {host : List Char}

theorem isUnreserved (h : PlainHost host) : ∀ c ∈ host, isUnreserved c = true :=
  fun c member => (h.plain c member).resolve_right List.not_mem_nil

theorem ascii (h : PlainHost host) : ∀ c ∈ host, ¬ 0x80 ≤ c.toNat :=
  fun c member => Nat.not_le.mpr (toNat_lt_of_isUnreserved (h.isUnreserved c member))

theorem not_mem_marks (h : PlainHost host) {marks : List Char} {c : Char} (member : c ∈ host)
    (reserved : marks.any FieldMap.Request.isUnreserved = false) : c ∉ marks :=
  Text.not_mem_of_class (h.isUnreserved c member) reserved

theorem map_toLower (h : PlainHost host) : PlainHost (host.map Char.toLower) where
  named := by simpa using h.named
  plain := List.forall_mem_map.mpr fun c member =>
    .inl (toLower_of_isUnreserved (h.isUnreserved c member)).1
  first := by
    intro dotted
    rw [List.head?_map, Option.map_eq_some_iff] at dotted
    obtain ⟨c, head, lowered⟩ := dotted
    have dot := (toLower_of_isUnreserved (h.isUnreserved c (List.mem_of_head? head))).2 lowered
    rw [dot] at head
    exact h.first head

theorem exists_normalHost? (h : PlainHost host) :
    ∃ normal, Address.normalHost? host = some normal ∧ PlainHost normal := by
  have unbracketed (rest : List Char) : host ≠ '[' :: rest := by
    rintro rfl
    exact h.plain.not_mem (by decide) List.not_mem_nil List.mem_cons_self
  have some : host.isEmpty = false := by simpa using h.named
  unfold Address.normalHost?
  split
  · exact absurd rfl (unbracketed _)
  · rw [some, plainHost?_of_ascii (h.plain.ascii nofun), Bool.false_or]
    split
    · exact ⟨host, rfl, h⟩
    · exact ⟨_, rfl, h.map_toLower⟩

theorem isRegisteredName (h : PlainHost host) : Address.isRegisteredName host = true := by
  have plain := h.plain
  clear h
  induction host with
  | nil => rfl
  | cons c host ih =>
      have later := ih fun d member => plain d (List.mem_cons_of_mem c member)
      have unreserved := (plain c List.mem_cons_self).resolve_right List.not_mem_nil
      have apart : c ∉ "[]%:/?#".toList := Text.not_mem_of_class unreserved (by decide)
      simp at apart
      simp [Address.isRegisteredName, apart, later]

theorem hostAndPort? (h : PlainHost host) : Address.hostAndPort? host = some (host, none) := by
  have uncut := Text.splitAt_of_not_mem (h.plain.not_mem (c := ':') (by decide) List.not_mem_nil)
  have unbracketed (rest : List Char) : host ≠ '[' :: rest := by
    rintro rfl
    exact h.plain.not_mem (by decide) List.not_mem_nil List.mem_cons_self
  unfold Address.hostAndPort?
  split
  · exact absurd rfl (unbracketed _)
  · simp [uncut, h.isRegisteredName]

end PlainHost

/-! ## Paths -/

structure PlainPath (path : List Char) : Prop where
  plain : Plain ['/'] path
  rooted : ∀ c ∈ path.head?, c = '/'

def Within (path : List Char) (pieces : List (List Char)) : Prop :=
  ∀ piece ∈ pieces, ∀ c ∈ piece, c ∈ path

theorem Within.foldl_segments {path : List Char} {kept pieces : List (List Char)}
    (known : Within path kept) (inside : Within path pieces) :
    Within path (pieces.foldl (fun kept segment =>
      if segment = ['.'] then kept
      else if segment = ['.', '.'] then kept.dropLast
      else kept ++ [segment]) kept) := by
  induction pieces generalizing kept with
  | nil => exact known
  | cons piece pieces ih =>
      rw [List.foldl_cons]
      apply ih _ fun other later => inside other (List.mem_cons_of_mem piece later)
      intro other member
      split at member
      · exact known other member
      split at member
      · exact known other (List.mem_of_mem_dropLast member)
      · rcases List.mem_append.mp member with earlier | last
        · exact known other earlier
        · exact inside other (List.mem_singleton.mp last ▸ List.mem_cons_self)

theorem mem_withoutDotSegments {path : List Char} {c : Char}
    (member : c ∈ Address.withoutDotSegments path) : c ∈ path ∨ c = '/' := by
  have segments : Within path (Text.cut '/' path) := fun _ inside _ => Text.mem_of_mem_cut inside
  have none : Within path [] := nofun
  have kept := none.foldl_segments segments
  unfold Address.withoutDotSegments at member
  -- Before and after the segments an empty piece may be put, for a slash at the head or the end.
  have rooted {pieces : List (List Char)} (inside : Within path pieces) (b : Bool) :
      Within path (if b = true then [] :: pieces else pieces) := by
    cases b with
    | true => exact List.forall_mem_cons.mpr ⟨nofun, inside⟩
    | false => exact inside
  have ended {pieces : List (List Char)} (inside : Within path pieces) (b : Bool) :
      Within path (if b = true then pieces ++ [[]] else pieces) := by
    cases b with
    | true => exact List.forall_mem_append.mpr ⟨inside, List.forall_mem_singleton.mpr nofun⟩
    | false => exact inside
  rcases Text.mem_joinWith member with slash | ⟨piece, inside, found⟩
  · exact .inr slash
  · exact .inl (ended (rooted kept _) _ piece inside c found)

def normalPath (path : List Char) : List Char :=
  let path := encodePart Address.isPathCharacter (Address.withoutDotSegments path)
  if path.isEmpty || path.head? = some '/' then path else '/' :: path

theorem PlainPath.normalPath {path : List Char} (h : PlainPath path) :
    PlainPath (normalPath path) := by
  have plain : Plain ['/'] (Address.withoutDotSegments path) := by
    intro c member
    rcases mem_withoutDotSegments member with own | slash
    · exact h.plain c own
    · exact .inr (List.mem_singleton.mpr slash)
  have same : encodePart Address.isPathCharacter (Address.withoutDotSegments path) =
      Address.withoutDotSegments path := by
    apply plain.encodePart
    · intro c unreserved
      simp [Address.isPathCharacter, Address.isUserCharacter, unreserved]
    · decide
  rw [Request.normalPath, same]
  split
  · next absolute =>
      refine ⟨plain, fun c head => ?_⟩
      rw [Option.mem_def.mp head] at absolute
      cases found : Address.withoutDotSegments path with
      | nil =>
          rw [found] at head
          cases head
      | cons d ds => simpa [found] using absolute
  · refine ⟨List.forall_mem_cons.mpr ⟨.inr (by decide), plain⟩, ?_⟩
    rintro c ⟨⟩
    rfl

/-! ## Addresses -/

def place (host path : List Char) : List Char := '/' :: '/' :: (host ++ path)

def queryPart (query : Option (List Char)) : List Char := (query.map ('?' :: ·)).getD []

def address (host path : List Char) (query : Option (List Char)) : List Char :=
  'h' :: 't' :: 't' :: 'p' :: ':' :: (place host path ++ queryPart query)

theorem splitAt_queryPart {before : List Char} (absent : '?' ∉ before)
    (query : Option (List Char)) : Text.splitAt '?' (before ++ queryPart query) = (before, query) := by
  cases query with
  | none =>
      rw [queryPart, Option.map_none, Option.getD_none, List.append_nil]
      exact Text.splitAt_of_not_mem absent
  | some q => exact Text.splitAt_append absent q

theorem splitScheme? {allowed : Char → Bool} (colon : allowed ':' = false) (rest : List Char) :
    Address.splitScheme? allowed ('h' :: 't' :: 't' :: 'p' :: ':' :: rest) =
      some (['h', 't', 't', 'p'], rest) := by
  have run : ∀ c ∈ ['t', 't', 'p'], (c.isAlphanum || allowed c) = true := by
    intro c member
    have letter : c.isAlphanum = true := by
      revert c
      decide
    simp [letter]
  have stop : ∀ c ∈ (':' :: rest).head?, (c.isAlphanum || allowed c) = false := by
    rintro c ⟨⟩
    simp [colon]
  have letter : 'h'.isAlpha = true := by decide
  have span := Text.span_run run stop
  simp only [List.cons_append, List.nil_append] at span
  rw [Address.splitScheme?, if_pos letter, span]
  rfl

section Parts

variable {host path : List Char} {query : Option (List Char)}

theorem not_mem_place (isHost : PlainHost host) (isPath : PlainPath path) {c : Char}
    (reserved : isUnreserved c = false) (slash : c ≠ '/') : c ∉ place host path := by
  have inHost := isHost.plain.not_mem reserved List.not_mem_nil
  have inPath := isPath.plain.not_mem reserved (mt List.mem_singleton.mp slash)
  simp [place, slash, inHost, inPath]

theorem settled_queryPart (isQuery : ∀ q ∈ query, Settled q) : Settled (queryPart query) := by
  cases query with
  | none => exact .nil
  | some q => exact .plain (.inr (by decide)) (isQuery q rfl)

theorem settled_rest (isHost : PlainHost host) (isPath : PlainPath path)
    (isQuery : ∀ q ∈ query, Settled q) : Settled (place host path ++ queryPart query) := by
  have slash : isUnreserved '/' = true ∨ '/' ∈ plainMarks := by decide
  have both := (isHost.plain.settled nofun).append (isPath.plain.settled (by decide))
  exact (Settled.plain slash (.plain slash both)).append (settled_queryPart isQuery)

theorem settled_address (isHost : PlainHost host) (isPath : PlainPath path)
    (isQuery : ∀ q ∈ query, Settled q) : Settled (address host path query) := by
  have scheme : Settled ['h', 't', 't', 'p', ':'] := .of_plain (by decide)
  exact scheme.append (settled_rest isHost isPath isQuery)

end Parts

/-- An address without a port, credentials or a fragment. Its query, if there is one, is made of
unreserved characters and the marks of pairs. -/
structure PlainAddress where
  host : List Char
  path : List Char
  query : Option (List Char)
  isHost : PlainHost host
  isPath : PlainPath path
  isQuery : ∀ q ∈ query, Plain ['=', '&'] q

namespace PlainAddress

def chars (a : PlainAddress) : List Char := address a.host a.path a.query

def text (a : PlainAddress) : String := String.ofList a.chars

theorem settled_query (a : PlainAddress) : ∀ q ∈ a.query, Settled q :=
  fun q asked => (a.isQuery q asked).settled (by decide)

theorem settled_own (a : PlainAddress) : Settled (a.query.getD []) := by
  cases found : a.query with
  | none => exact .nil
  | some q => exact a.settled_query q found

theorem encodePart_query (a : PlainAddress) :
    a.query.map (encodePart Address.isQueryCharacter) = a.query := by
  cases found : a.query with
  | none => rfl
  | some q =>
      refine congrArg some ((a.isQuery q found).encodePart (fun c unreserved => ?_) ?_)
      · simp [Address.isQueryCharacter, Address.isPathCharacter, Address.isUserCharacter, unreserved]
      · decide +kernel

theorem isForeign_chars (a : PlainAddress) : isForeign a.chars = false := by
  have ascii := (settled_address a.isHost a.isPath a.settled_query).ascii
  have start : "http".toList.isPrefixOf (Text.lower a.chars) = true := by
    rw [Text.lower, PlainAddress.chars, lowerFrom_of_ascii ascii]
    rfl
  rw [isForeign, start, Bool.not_true, Bool.and_false]

theorem parse?_chars (a : PlainAddress) : ∃ host, Address.parse? a.chars = some {
      scheme := some ['h', 't', 't', 'p']
      credentials := none
      host := some host
      port := none
      path := normalPath a.path
      query := a.query
      fragment := none } ∧ PlainHost host := by
  obtain ⟨host, normal, isHost⟩ := a.isHost.exists_normalHost?
  refine ⟨host, ?_, isHost⟩
  have start : Address.splitScheme? (fun c => c == '+' || c == '-') a.chars = _ :=
    splitScheme? (by decide) _
  have scheme : Address.splitScheme? (fun c => c == '+' || c == '-' || c == '.') a.chars = _ :=
    splitScheme? (by decide) _
  have lower : Text.lower ['h', 't', 't', 'p'] = ['h', 't', 't', 'p'] := by decide +kernel
  have web : Address.isNormalizable (some ['h', 't', 't', 'p']) = true := by decide +kernel
  have rest := settled_rest a.isHost a.isPath a.settled_query
  have fragment := Text.splitAt_of_not_mem (rest.not_mem (c := '#') (by decide) (by decide))
  have question : '?' ∉ place a.host a.path :=
    not_mem_place a.isHost a.isPath (by decide) (by decide)
  have absent : '@' ∉ a.host := a.isHost.plain.not_mem (by decide) List.not_mem_nil
  have user := Text.splitAtLast_of_not_mem absent
  have run : ∀ c ∈ a.host, (c != '/' && c != '\\') = true := by
    intro c member
    have other : c ∉ ['/', '\\'] := a.isHost.not_mem_marks member (by decide)
    simpa using other
  have stop : ∀ c ∈ a.path.head?, (c != '/' && c != '\\') = false := by
    intro c head
    rw [a.isPath.rooted c head]
    rfl
  have nonempty : a.chars.isEmpty = false := rfl
  have named := a.isHost.named
  have apart := a.isHost.hostAndPort?
  have query := a.encodePart_query
  unfold Address.parse?
  simp only [nonempty, start, scheme, lower, if_true, if_false, Option.isSome_some, Bool.or_true,
    Bool.false_eq_true, fragment, splitAt_queryPart question]
  simp [place, Text.takeWhile_run run stop, Text.dropWhile_run run stop, user, named, apart, normal,
    web, query, normalPath]

end PlainAddress

def joined (own more : List Char) : List Char :=
  match own, more with
  | own, [] => own
  | [], more => more
  | own, more => own ++ '&' :: more

theorem settled_joined {own more : List Char} (first : Settled own) (second : Settled more) :
    Settled (joined own more) := by
  unfold joined
  split
  · exact first
  · exact second
  · exact first.append (.plain (.inr (by decide)) second)

def asked (query : List Char) : Option (List Char) := if query.isEmpty then none else some query

theorem settled_asked {query : List Char} (settled : Settled query) :
    ∀ q ∈ asked query, Settled q := by
  unfold asked
  split
  · exact nofun
  · rintro q ⟨⟩
    exact settled

theorem written_plain (host path query : List Char) : Address.written {
      scheme := some ['h', 't', 't', 'p']
      credentials := none
      host := some host
      port := none
      path
      query := some query
      fragment := none } = address host path (asked query) := by
  cases query <;> simp [Address.written, address, place, queryPart, asked]

theorem prepareAddress_text (a : PlainAddress) : ∃ host path, PlainHost host ∧ PlainPath path ∧
    ∀ parameters, prepareAddress a.text parameters = parameters.map fun more =>
      String.ofList (requote (address host path (asked (joined (a.query.getD []) more)))) := by
  obtain ⟨host, taken, isHost⟩ := a.parse?_chars
  have home := a.isForeign_chars
  have begins : Text.dropBlanks a.text.toList = a.chars := by
    rw [PlainAddress.text, String.toList_ofList]
    exact Text.dropWhile_eq_self (by rintro c ⟨⟩; decide)
  have ascii : ¬ ∃ c, c ∈ host ∧ 0x80 ≤ c.toNat := by simpa using isHost.ascii
  have star : host.head? ≠ some '*' := by
    intro head
    exact isHost.plain.not_mem (by decide) List.not_mem_nil (List.mem_of_head? head)
  have named := isHost.named
  have dot := isHost.first
  have isPath : PlainPath (if (normalPath a.path).isEmpty then ['/'] else normalPath a.path) := by
    split
    · exact ⟨List.forall_mem_singleton.mpr (.inr (by decide)), by rintro c ⟨⟩; rfl⟩
    · exact a.isPath.normalPath
  refine ⟨host, _, isHost, isPath, fun parameters => ?_⟩
  simp only [← written_plain]
  unfold prepareAddress
  simp only [begins, home, taken, Bool.false_eq_true, if_false, Option.getD_some, List.isEmpty_cons,
    List.isEmpty_iff, named, List.any_eq_true, decide_eq_true_eq, ascii, star, dot, decide_false,
    Bool.or_self, pure_eq, ok_bind]
  cases parameters <;> rfl

/-! ## Credentials -/

theorem authorityOf_address {host path : List Char} {query : Option (List Char)}
    (isHost : PlainHost host) (isPath : PlainPath path) (isQuery : ∀ q ∈ query, Settled q) :
    authorityOf (address host path query) = host := by
  have settled := settled_address isHost isPath isQuery
  have kept : (address host path query).filter (fun c => c != '\t' && c != '\r' && c != '\n') =
      address host path query := by
    rw [List.filter_eq_self]
    intro c member
    have tab := ne_of_mem_of_not_mem member (settled.not_mem (c := '\t') (by decide) (by decide))
    have feed := ne_of_mem_of_not_mem member (settled.not_mem (c := '\r') (by decide) (by decide))
    have line := ne_of_mem_of_not_mem member (settled.not_mem (c := '\n') (by decide) (by decide))
    simp [tab, feed, line]
  have begins : (address host path query).dropWhile (fun c => c.toNat ≤ 0x20) =
      address host path query := Text.dropWhile_eq_self (by rintro c ⟨⟩; decide)
  have scheme : Address.splitScheme? (fun c => c == '+' || c == '-' || c == '.')
      (address host path query) = _ := splitScheme? (by decide) _
  have run : ∀ c ∈ host, (c != '/' && c != '?' && c != '#') = true := by
    intro c member
    have other : c ∉ ['/', '?', '#'] := isHost.not_mem_marks member (by decide)
    simpa [and_assoc] using other
  have stop : ∀ c ∈ (path ++ queryPart query).head?,
      (c != '/' && c != '?' && c != '#') = false := by
    intro c head
    cases path with
    | nil =>
        cases query with
        | none => cases head
        | some q =>
            cases head
            rfl
    | cons d path =>
        cases head
        rw [isPath.rooted c rfl]
        rfl
  unfold authorityOf
  simp only [begins, kept, scheme]
  simp [place, List.append_assoc, Text.takeWhile_run run stop]

theorem authorization_address {host path : List Char} {query : Option (List Char)}
    (isHost : PlainHost host) (isPath : PlainPath path) (isQuery : ∀ q ∈ query, Settled q) :
    authorization (String.ofList (address host path query)) = .ok none := by
  have absent {c : Char} (reserved : isUnreserved c = false) : c ∉ host :=
    isHost.plain.not_mem reserved List.not_mem_nil
  have opening := absent (c := '[') (by decide)
  have closing := absent (c := ']') (by decide)
  have user := Text.splitAtLast_of_not_mem (absent (c := '@') (by decide))
  have hidden : host.any (fun c => decide (0x80 ≤ c.toNat) &&
      (Text.compatible c).any ("/?#@:".toList.contains ·)) = false := by
    rw [List.any_eq_false]
    intro c member
    simp [isHost.ascii c member]
  have checked : checkAuthority host = .ok () := by
    unfold checkAuthority
    simp only [hidden]
    simp [opening, closing]
  rw [authorization, credentials?, String.toList_ofList, authorityOf_address isHost isPath isQuery,
    checked, user]
  rfl

end FieldMap.Request
