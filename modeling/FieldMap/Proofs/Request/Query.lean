import FieldMap.Proofs.Number.Integer
import FieldMap.Proofs.Request.Address
import Mathlib.Data.List.ReduceOption

/-!
Queries. The parameters of a request without a body stand in its address, behind those that the address
had already: for every value a pair of its name and its text, for every item of a list a pair whose
name ends in brackets, and nothing for what is undefined. Main statement: reading the query of the
prepared address gives exactly these pairs, whatever characters the names and the texts hold.
-/

namespace FieldMap.Number

theorem ofList_integerText (n : Int) : String.ofList (integerText n) = toString n := by
  cases n with
  | ofNat n => rfl
  | negSucc n =>
      apply String.toList_inj.mp
      rw [String.toList_ofList]
      show _ = ("-" ++ Nat.repr (n + 1)).toList
      rw [String.toList_append]
      simp [integerText, Nat.repr, Int.negSucc_lt_zero]

end FieldMap.Number

namespace FieldMap.Request
open Outcome Number

inductive Scalar
  | text (s : String) (whole : Whole s.toList)
  | int (n : Int) (short : isWritable n = true)
  | bool (b : Bool)
  | null

theorem whole_of_ascii {cs : List Char} (ascii : ∀ c ∈ cs, c.toNat < 0x80) : Whole cs := by
  have basic : ∀ c ∈ cs, c.toNat < 0xd800 := fun c member =>
    Nat.lt_trans (ascii c member) (by decide)
  rw [Whole, Text.codes_of_whole fun c member => Text.half?_of_lt (basic c member)]
  exact List.forall_mem_map.mpr fun c member => Text.isSurrogate_of_lt (basic c member)

namespace Scalar

def value : Scalar → Value
  | text s _ => .text s
  | int n _ => .int n
  | bool b => .bool b
  | null => .null

def spelling : Scalar → String
  | text s _ => s
  | int n _ => toString n
  | bool b => if b then "true" else "false"
  | null => "null"

theorem whole_spelling (s : Scalar) : Whole s.spelling.toList := by
  cases s with
  | text s whole => exact whole
  | int n short =>
      rw [spelling, ← ofList_integerText, String.toList_ofList]
      apply whole_of_ascii
      intro c member
      apply toNat_lt_of_isUnreserved
      rcases mem_integerText member with rfl | digit
      · decide
      · simp [isUnreserved, Char.isAlphanum, digit]
  | bool b =>
      apply whole_of_ascii
      cases b <;> decide
  | null =>
      apply whole_of_ascii
      decide

theorem repeated_queryValue (s : Scalar) :
    repeated (queryValue s.value) = [queryValue s.value] := by
  cases s <;> rfl

theorem encodedTexts_queryValue (s : Scalar) : encodedTexts (queryValue s.value) =
    .ok [formEncodeOctets (utf8 s.spelling.toList)] := by
  have spelled : encodedTexts (queryValue s.value) = do
      return [← formEncode s.spelling.toList] := by
    cases s with
    | text s whole => rfl
    | int n short =>
        have written : (Value.int n).written = .ok (toString n) := by
          rw [Value.written, Value.form, Value.formWith, if_pos short, ofList_integerText]
          all_goals simp
        have text : encodedText (.int n) = formEncode (toString n).toList := by
          rw [encodedText, written, ok_bind]
          simp
        show encodedTexts (.int n) = _
        rw [spelling, ← text]
        rfl
    | bool b => rfl
    | null => rfl
  rw [spelled, formEncode_of_whole s.whole_spelling]
  rfl

theorem encodedPairs_queryValue (s : Scalar) {name : String} (whole : Whole name.toList) :
    encodedPairs (.text name, queryValue s.value) = .ok [pairText (name, s.spelling)] := by
  have key : encodedText (.text name) = .ok (formEncodeOctets (utf8 name.toList)) :=
    formEncode_of_whole whole
  simp [encodedPairs, repeated_queryValue, key, encodedTexts_queryValue, pairText]

end Scalar

/-- A value of a payload. Undefined values may stand by themselves and among others. -/
inductive Parameter
  | item (item : Option Scalar)
  | list (items : List (Option Scalar))
  | tuple (items : List (Option Scalar))

def itemValue (item : Option Scalar) : Value := (item.map Scalar.value).getD .undefined

namespace Parameter

def value : Parameter → Value
  | item i => itemValue i
  | list items => .list (items.map itemValue)
  | tuple items => .tuple (items.map itemValue)

/-- What is sent for a value under a key: one value for each item, named for the list. -/
def sent (key : String) : Parameter → List (String × Scalar)
  | item i => i.toList.map fun s => (key, s)
  | list items | tuple items => items.reduceOption.map fun s => (key ++ "[]", s)

theorem whole_sent {key : String} (whole : Whole key.toList) (p : Parameter) :
    ∀ pair ∈ p.sent key, Whole pair.1.toList := by
  have brackets : Whole (key ++ "[]").toList := by
    rw [String.toList_append, Whole, Text.codes_append (by decide)]
    exact List.forall_mem_append.mpr ⟨whole, by decide +kernel⟩
  cases p with
  | item i => exact List.forall_mem_map.mpr fun _ _ => whole
  | list items | tuple items => exact List.forall_mem_map.mpr fun _ _ => brackets

end Parameter

def sentValue (pair : String × Scalar) : Value × Value := (.text pair.1, queryValue pair.2.value)

theorem filter_itemValue (items : List (Option Scalar)) :
    (items.map itemValue).filter (fun item => !item.isUndefined) =
      items.reduceOption.map Scalar.value := by
  induction items with
  | nil => rfl
  | cons item items ih =>
      cases item with
      | none => exact ih
      | some s =>
          have defined : (itemValue (some s)).isUndefined = false := by cases s <;> rfl
          rw [List.map_cons, List.filter_cons_of_pos (by rw [defined]; rfl), ih,
            List.reduceOption_cons_of_some]
          rfl

theorem entryParameters_value (key : String) (p : Parameter) :
    entryParameters (.text key) p.value = .ok ((p.sent key).map sentValue) := by
  cases p with
  | item i =>
      cases i with
      | none => rfl
      | some s => cases s <;> rfl
  | list items | tuple items =>
      have named : ∀ v ∈ (items.map itemValue).filter (fun item => !item.isUndefined),
          (do return (.text ((← (Value.text key).written) ++ "[]"), queryValue v)) =
            (.ok (.text (key ++ "[]"), queryValue v) : Except Fault (Value × Value)) :=
        fun v _ => rfl
      refine (mapM_eq_ok_map named).trans ?_
      rw [filter_itemValue, List.map_map, Parameter.sent, List.map_map]
      rfl

/-- What a request may carry in its address. -/
structure QueryPayload where
  entries : List (String × Parameter)
  whole : ∀ entry ∈ entries, Whole entry.1.toList

namespace QueryPayload

def value (p : QueryPayload) : Value :=
  .mapping (p.entries.map fun entry => (.text entry.1, entry.2.value))

def sent (p : QueryPayload) : List (String × Scalar) :=
  p.entries.flatMap fun entry => entry.2.sent entry.1

def pairs (p : QueryPayload) : List (String × String) :=
  p.sent.map fun pair => (pair.1, pair.2.spelling)

theorem parameters_value (p : QueryPayload) : parameters p.value = .ok (p.sent.map sentValue) := by
  have groups : (p.entries.map fun entry => (Value.text entry.1, entry.2.value)).mapM
      (fun entry => entryParameters entry.1 entry.2) =
        .ok (p.entries.map fun entry => (entry.2.sent entry.1).map sentValue) := by
    rw [List.mapM_map]
    exact mapM_eq_ok_map fun entry _ => entryParameters_value entry.1 entry.2
  rw [parameters, value, entriesOf_mapping, ok_bind]
  refine (congrArg (· >>= fun groups => .ok groups.flatten) groups).trans ?_
  rw [ok_bind, sent, List.map_flatMap, List.flatMap_def]

theorem whole_sent (p : QueryPayload) : ∀ pair ∈ p.sent, Whole pair.1.toList := by
  intro pair member
  obtain ⟨entry, inside, here⟩ := List.mem_flatMap.mp member
  exact entry.2.whole_sent (p.whole entry inside) pair here

theorem wholePair_pairs (p : QueryPayload) : ∀ pair ∈ p.pairs, WholePair pair :=
  List.forall_mem_map.mpr fun pair member => ⟨p.whole_sent pair member, pair.2.whole_spelling⟩

theorem queryText_sent (p : QueryPayload) :
    queryText (p.sent.map sentValue) = .ok (Text.joinWith '&' (p.pairs.map pairText)) := by
  have each : (p.sent.map sentValue).mapM encodedPairs =
      .ok (p.sent.map fun pair => [pairText (pair.1, pair.2.spelling)]) := by
    rw [List.mapM_map]
    exact mapM_eq_ok_map fun pair member => pair.2.encodedPairs_queryValue (p.whole_sent pair member)
  rw [queryText, each, ok_bind, ← List.flatMap_def, ← List.map_eq_flatMap, pairs, List.map_map]
  rfl

end QueryPayload

def queryPairs (url : String) : List (String × String) :=
  formPairs ((Text.splitAt '?' (Text.splitAt '#' url.toList).1).2.getD [])

theorem queryPairs_address {host path : List Char} {query : Option (List Char)}
    (isHost : PlainHost host) (isPath : PlainPath path) (isQuery : ∀ q ∈ query, Settled q) :
    queryPairs (String.ofList (address host path query)) = formPairs (query.getD []) := by
  have settled := settled_address isHost isPath isQuery
  have question : '?' ∉ 'h' :: 't' :: 't' :: 'p' :: ':' :: place host path := by
    have absent := not_mem_place isHost isPath (c := '?') (by decide) (by decide)
    simp [absent]
  have split := splitAt_queryPart question query
  simp only [List.cons_append] at split
  rw [queryPairs, String.toList_ofList,
    Text.splitAt_of_not_mem (settled.not_mem (c := '#') (by decide) (by decide)), address, split]

theorem settled_pairText (pair : String × String) : Settled (pairText pair) :=
  (Settled.formEncodeOctets _).append (.plain (.inr (by decide)) (.formEncodeOctets _))

theorem settled_joinWith {pieces : List (List Char)} (each : ∀ piece ∈ pieces, Settled piece) :
    Settled (Text.joinWith '&' pieces) := by
  induction pieces with
  | nil => exact .nil
  | cons piece pieces ih =>
      obtain ⟨first, others⟩ := List.forall_mem_cons.mp each
      by_cases last : pieces = []
      · subst last
        exact first
      · rw [Text.joinWith_cons last]
        exact first.append (.plain (.inr (by decide)) (ih others))

theorem formPairs_joined (own more : List Char) :
    formPairs (joined own more) = formPairs own ++ formPairs more := by
  unfold joined
  split
  · simp
  · rfl
  · exact formPairs_append _ _

theorem getD_asked (query : List Char) : (asked query).getD [] = query := by
  cases query <;> rfl

theorem prepare_query (a : PlainAddress) (p : QueryPayload) (method : Option String)
    (headers : List (Value × Value)) (given : Headers) (get : methodOf method = "GET")
    (checked : prepareHeaders headers = .ok given) :
    ∃ url, prepare a.text method p.value headers =
        .ok { method := "GET", url, headers := given, body := none } ∧
      queryPairs url = queryPairs a.text ++ p.pairs := by
  have settled : Settled (Text.joinWith '&' (p.pairs.map pairText)) :=
    settled_joinWith (List.forall_mem_map.mpr fun pair _ => settled_pairText pair)
  obtain ⟨host, path, isHost, isPath, prepared⟩ := prepareAddress_text a
  have isQuery := settled_asked (settled_joined a.settled_own settled)
  refine ⟨String.ofList (address host path
    (asked (joined (a.query.getD []) (Text.joinWith '&' (p.pairs.map pairText))))), ?_, ?_⟩
  · rw [prepare_of_get get, p.parameters_value, ok_bind, p.queryText_sent, prepared, map_ok,
      ok_bind, requote_of_settled (settled_address isHost isPath isQuery), checked, ok_bind,
      addressHeaders_eq, authorization_address isHost isPath isQuery]
    rfl
  · rw [queryPairs_address isHost isPath isQuery, getD_asked, formPairs_joined,
      formPairs_joinWith p.wholePair_pairs,
      PlainAddress.text, PlainAddress.chars,
      queryPairs_address a.isHost a.isPath a.settled_query]

def pairAddress : PlainAddress where
  host := ['h']
  path := ['/', 'p']
  query := some ['a', '=', '1']
  isHost := ⟨by decide, by decide, by decide⟩
  isPath := ⟨by decide, by rintro c ⟨⟩; rfl⟩
  isQuery := by
    rintro q ⟨⟩
    decide

theorem pairAddress_text : pairAddress.text = "http://h/p?a=1" := by decide +kernel

def farCharacter : String := String.ofList (Text.charsOf 0x10d800)

def marked : QueryPayload where
  entries := [("b &[", .item (some (.text "é=&%+#" (by decide +kernel)))),
    ("c", .item (some (.text farCharacter (by decide +kernel)))),
    ("t", .tuple [some (.int (-1) (by decide +kernel)), none, some .null])]
  whole := by decide +kernel

theorem prepare_query_marked : methodOf (some "get") = "GET" ∧ prepareHeaders [] = .ok [] ∧
    ∃ url, prepare "http://h/p?a=1" (some "get") marked.value [] =
        .ok { method := "GET", url, headers := [], body := none } ∧
      queryPairs url = [("a", "1"), ("b &[", "é=&%+#"), ("c", farCharacter), ("t[]", "-1"),
        ("t[]", "null")] := by
  have get : methodOf (some "get") = "GET" := by decide +kernel
  have own : queryPairs "http://h/p?a=1" = [("a", "1")] := by decide +kernel
  obtain ⟨url, prepared, pairs⟩ := prepare_query pairAddress marked (some "get") [] [] get rfl
  rw [pairAddress_text] at prepared pairs
  rw [own] at pairs
  exact ⟨get, rfl, url, prepared, pairs⟩

theorem prepare_query_half : prepare "http://h/p?a=1" (some "GET")
    (.mapping [(.text "k", .text (String.singleton (Text.ofCode 0xd800)))]) [] =
      .error (.unencodable "utf-8" "surrogates not allowed" [0xd800] 0) := by
  have get : methodOf (some "GET") = "GET" := by decide +kernel
  have taken : parameters (.mapping [(.text "k", .text (String.singleton (Text.ofCode 0xd800)))]) =
      .ok [(.text "k", .text (String.singleton (Text.ofCode 0xd800)))] := rfl
  have unwritten : queryText [(.text "k", .text (String.singleton (Text.ofCode 0xd800)))] =
      .error (.unencodable "utf-8" "surrogates not allowed" [0xd800] 0) := by decide +kernel
  obtain ⟨host, path, -, -, prepared⟩ := prepareAddress_text pairAddress
  rw [pairAddress_text] at prepared
  rw [prepare_of_get get, taken, ok_bind, unwritten, prepared]
  rfl

end FieldMap.Request
