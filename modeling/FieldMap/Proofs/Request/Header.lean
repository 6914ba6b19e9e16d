import FieldMap.Proofs.Request
import Mathlib.Data.List.Induction

/-!
Headers of prepared requests. Of several given headers whose names differ only in the case of letters
the last counts. A body comes with a content type of its own, which is added after the given headers
unless one of them has exactly the same name; so one that is given in another spelling alone is
overtaken by it.
-/

namespace FieldMap.Request
open Outcome

namespace Headers

variable {name key value : String} {given : List (String × String)} {header : String × String}

theorem sameName_congr {a b : String} (same : sameName a b = true) (key : String) :
    sameName a key = sameName b key := by
  rw [sameName, beq_iff_eq] at same
  rw [sameName, sameName, same]

theorem sameName_comm (a b : String) : sameName a b = sameName b a := Bool.beq_comm

theorem get?_cons (header : String × String) (headers : Headers) (key : String) :
    get? key (header :: headers) = if sameName header.1 key then some header.2 else get? key headers := by
  cases same : sameName header.1 key <;> simp [get?, same]

theorem get?_set (name key value : String) (headers : Headers) :
    get? key (set name value headers) = if sameName name key then some value else get? key headers := by
  induction headers with
  | nil => exact get?_cons (name, value) [] key
  | cons header headers ih =>
      rw [set, get?_cons]
      by_cases here : sameName header.1 name = true
      · rw [if_pos here, get?_cons, sameName_congr here]
        split <;> rfl
      · rw [if_neg here, get?_cons, ih]
        by_cases found : sameName header.1 key = true
        · have other : sameName name key ≠ true := fun same =>
            here ((sameName_congr found name).trans ((sameName_comm key name).trans same))
          rw [if_pos found, if_neg other, if_pos found]
        · rw [if_neg found, if_neg found]

def IsLast (name : String) (given : List (String × String)) (value : String) : Prop :=
  ∃ before spelling after, given = before ++ (spelling, value) :: after ∧
    sameName spelling name = true ∧ ∀ header ∈ after, sameName header.1 name = false

theorem isLast_append_of_same (same : sameName header.1 name = true) :
    IsLast name (given ++ [header]) value ↔ header.2 = value := by
  constructor
  · rintro ⟨before, spelling, after, split, -, others⟩
    rcases List.eq_nil_or_concat' after with rfl | ⟨after, last, rfl⟩
    · cases (List.append_inj' split rfl).2
      rfl
    · rw [← List.cons_append, ← List.append_assoc] at split
      cases (List.append_inj' split rfl).2
      have differ := others header (by simp)
      rw [same] at differ
      cases differ
  · rintro rfl
    exact ⟨given, header.1, [], rfl, same, List.forall_mem_nil _⟩

theorem isLast_append_of_other (other : sameName header.1 name = false) :
    IsLast name (given ++ [header]) value ↔ IsLast name given value := by
  constructor
  · rintro ⟨before, spelling, after, split, same, others⟩
    rcases List.eq_nil_or_concat' after with rfl | ⟨after, last, rfl⟩
    · cases (List.append_inj' split rfl).2
      rw [same] at other
      cases other
    · rw [← List.cons_append, ← List.append_assoc] at split
      obtain ⟨rfl, -⟩ := List.append_inj' split rfl
      exact ⟨before, spelling, after, rfl, same,
        fun header member => others header (List.mem_append_left [last] member)⟩
  · rintro ⟨before, spelling, after, rfl, same, others⟩
    refine ⟨before, spelling, after ++ [header], by simp, same, ?_⟩
    simpa [or_imp, forall_and] using ⟨fun a b => others (a, b), other⟩

def ofGiven (given : List (String × String)) : Headers :=
  given.foldl (fun headers header => headers.set header.1 header.2) []

theorem ofGiven_append_singleton (given : List (String × String)) (header : String × String) :
    ofGiven (given ++ [header]) = set header.1 header.2 (ofGiven given) :=
  List.foldl_append

theorem get?_ofGiven_eq_some : get? name (ofGiven given) = some value ↔ IsLast name given value := by
  induction given using List.reverseRecOn with
  | nil =>
      constructor
      · rintro ⟨⟩
      · rintro ⟨before, spelling, after, split, -⟩
        cases before <;> cases split
  | append_singleton given header ih =>
      rw [ofGiven_append_singleton, get?_set]
      cases same : sameName header.1 name with
      | true => simp [isLast_append_of_same same]
      | false => simpa [isLast_append_of_other same] using ih

end Headers

def textHeaders (given : List (String × String)) : List (Value × Value) :=
  given.map fun header => (.text header.1, .text header.2)

def AreValid (given : List (String × String)) : Prop :=
  ∀ header ∈ given, isHeaderName header.1 = true ∧ isHeaderValue header.2 = true

instance (given : List (String × String)) : Decidable (AreValid given) :=
  inferInstanceAs (Decidable (∀ header ∈ given, _ ∧ _))

theorem checkHeader_text {name value : String} (named : isHeaderName name = true)
    (valued : isHeaderValue value = true) :
    checkHeader (.text name) (.text value) = .ok (name, value) := by
  simp [checkHeader, named, valued]

theorem prepareHeaders_texts {given : List (String × String)} (valid : AreValid given) :
    prepareHeaders (textHeaders given) = .ok (Headers.ofGiven given) := by
  induction given using List.reverseRecOn with
  | nil => rfl
  | append_singleton given header ih =>
      obtain ⟨named, valued⟩ := valid header (by simp)
      have earlier := ih fun other member => valid other (List.mem_append_left [header] member)
      unfold prepareHeaders at earlier ⊢
      rw [textHeaders, List.map_append, List.foldlM_append]
      rw [textHeaders] at earlier
      rw [earlier, Headers.ofGiven_append_singleton]
      simp [checkHeader_text named valued]

def completed (given : List (String × String)) : List (String × String) :=
  if "Content-Type" ∈ given.map Prod.fst then given
  else given ++ [("Content-Type", "application/json")]

theorem member?_textHeaders (name : String) (given : List (String × String)) :
    (Value.member? name (textHeaders given)).isSome = true ↔ name ∈ given.map Prod.fst := by
  have same (header : String × String) :
      Value.same (.text header.1) (.text name) = true ↔ header.1 = name := by
    simp [Value.same]
  simp only [Value.member?, Value.lookup?, textHeaders, Option.isSome_map, List.find?_isSome,
    List.mem_map, exists_exists_and_eq_and, same]

theorem withContentType_texts (given : List (String × String)) :
    withContentType (textHeaders given) = textHeaders (completed given) := by
  have exact := member?_textHeaders "Content-Type" given
  unfold withContentType completed
  cases found : Value.member? "Content-Type" (textHeaders given) with
  | some v =>
      rw [found] at exact
      rw [if_pos (exact.mp rfl)]
  | none =>
      rw [found] at exact
      rw [if_neg fun member => nomatch exact.mpr member]
      simp [textHeaders]

theorem valid_completed {given : List (String × String)} (valid : AreValid given) :
    AreValid (completed given) := by
  unfold completed
  split
  · exact valid
  · intro header member
    rcases List.mem_append.mp member with own | added
    · exact valid header own
    · rw [List.mem_singleton.mp added]
      decide

/-- What a request with a body has as its content type: of given ones the last, unless none of them is
given under the very name; then its own. -/
theorem get?_completed {given : List (String × String)} {value : String} :
    (Headers.ofGiven (completed given)).get? "Content-Type" = some value ↔
      if "Content-Type" ∈ given.map Prod.fst then Headers.IsLast "Content-Type" given value
      else value = "application/json" := by
  unfold completed
  split
  · exact Headers.get?_ofGiven_eq_some
  · rw [Headers.get?_ofGiven_eq_some, Headers.isLast_append_of_same (by decide +kernel), eq_comm]

def Addressable (uri : String) : Prop :=
  ∃ url value, prepareAddress uri (.ok []) = .ok url ∧ authorization url = .ok value

theorem preparable_iff {uri : String} {given : List (String × String)} (valid : AreValid given) :
    Preparable uri (textHeaders given) ↔ Addressable uri := by
  unfold Preparable Addressable
  rw [withContentType_texts, prepareHeaders_texts (valid_completed valid)]
  constructor
  · rintro ⟨url, headers, value, address, -, authorized⟩
    exact ⟨url, value, address, authorized⟩
  · rintro ⟨url, value, address, authorized⟩
    exact ⟨url, _, value, address, rfl, authorized⟩

theorem get?_addressHeaders {url : String} {body : Option String} {headers all : Headers}
    (complete : addressHeaders url body headers = .ok all) :
    all.get? "Content-Type" = headers.get? "Content-Type" := by
  have length : Headers.sameName "Content-Length" "Content-Type" = false := by decide +kernel
  have authorization : Headers.sameName "Authorization" "Content-Type" = false := by decide +kernel
  rw [addressHeaders_eq] at complete
  obtain ⟨value, -, rfl⟩ := map_eq_ok.mp complete
  cases value <;> cases body <;>
    simp [withAuthorization, withLength, Headers.get?_set, length, authorization]

section Prepared

variable {uri : String} {method : Option String} {payload : Value} {given : List (String × String)}
  (other : methodOf method ≠ "GET") (valid : AreValid given)
include other valid

theorem exists_prepare_texts_iff :
    (∃ r, prepare uri method payload (textHeaders given) = .ok r) ↔
      (∃ body, bodyOf payload = .ok body) ∧ Addressable uri := by
  rw [← preparable_iff valid]
  constructor
  · rintro ⟨r, prepared⟩
    obtain ⟨body, _, _, _, written, -⟩ := (prepare_not_get_eq_ok_iff other).mp prepared
    exact ⟨⟨body, written⟩, (exists_prepare_iff other written).mp ⟨r, prepared⟩⟩
  · rintro ⟨⟨body, written⟩, preparable⟩
    exact (exists_prepare_iff other written).mpr preparable

theorem get?_of_prepare {r : Request}
    (prepared : prepare uri method payload (textHeaders given) = .ok r) :
    r.headers.get? "Content-Type" = (Headers.ofGiven (completed given)).get? "Content-Type" := by
  obtain ⟨_, _, headers, all, -, -, checked, complete, rfl⟩ :=
    (prepare_not_get_eq_ok_iff other).mp prepared
  rw [withContentType_texts, prepareHeaders_texts (valid_completed valid)] at checked
  cases checked
  exact get?_addressHeaders complete

end Prepared

theorem prepare_contentType {uri : String} {method : Option String} {payload : Value}
    {given : List (String × String)} (other : methodOf method ≠ "GET") (valid : AreValid given) :
    let prepared := prepare uri method payload (textHeaders given)
    ((∃ r, prepared = .ok r) ↔ (∃ body, bodyOf payload = .ok body) ∧ Addressable uri) ∧
      ∀ r, prepared = .ok r →
        (∀ value, Headers.IsLast "Content-Type" given value →
          r.headers.get? "Content-Type" =
            some (if "Content-Type" ∈ given.map Prod.fst then value else "application/json")) ∧
        ((∀ header ∈ given, Headers.sameName header.1 "Content-Type" = false) →
          r.headers.get? "Content-Type" = some "application/json") := by
  refine ⟨exists_prepare_texts_iff other valid, ?_⟩
  intro r prepared
  rw [get?_of_prepare other valid prepared]
  constructor
  · intro value last
    rw [get?_completed]
    split
    · exact last
    · rfl
  · intro none
    have inexact : "Content-Type" ∉ given.map Prod.fst := by
      intro member
      obtain ⟨header, inside, same⟩ := List.mem_map.mp member
      have differ := none header inside
      rw [same, Headers.sameName, beq_self_eq_true] at differ
      cases differ
    rw [get?_completed, if_neg inexact]

theorem addressable_plain : Addressable "http://h/p" :=
  ⟨"http://h/p", none, by decide +kernel, by decide +kernel⟩

def negotiated : List (String × String) :=
  [("Content-Type", "text/csv"), ("Accept", "*/*"), ("CONTENT-TYPE", "text/plain")]

theorem prepare_contentType_negotiated :
    methodOf (some "put") ≠ "GET" ∧ AreValid negotiated ∧
      ∃ r, prepare "http://h/p" (some "put") .null (textHeaders negotiated) = .ok r ∧
        r.headers.get? "Content-Type" = some "text/plain" := by
  have other : methodOf (some "put") ≠ "GET" := by decide +kernel
  have valid : AreValid negotiated := by decide
  have last : Headers.IsLast "Content-Type" negotiated "text/plain" :=
    ⟨negotiated.take 2, "CONTENT-TYPE", [], rfl, by decide +kernel, List.forall_mem_nil _⟩
  obtain ⟨returns, carries⟩ :=
    @prepare_contentType "http://h/p" (some "put") .null negotiated other valid
  obtain ⟨r, prepared⟩ := returns.mpr ⟨⟨"{}", rfl⟩, addressable_plain⟩
  exact ⟨other, valid, r, prepared, (carries r prepared).1 "text/plain" last⟩

theorem prepare_contentType_overtaken :
    Headers.IsLast "Content-Type" [("content-type", "text/plain")] "text/plain" ∧
      ∃ r, prepare "http://h/p" (some "POST") .null
          (textHeaders [("content-type", "text/plain")]) = .ok r ∧
        r.headers.get? "Content-Type" = some "application/json" := by
  have other : methodOf (some "POST") ≠ "GET" := by decide +kernel
  have valid : AreValid [("content-type", "text/plain")] := by decide
  have written : ∃ body, bodyOf .null = .ok body := ⟨"{}", rfl⟩
  obtain ⟨r, prepared⟩ :=
    (exists_prepare_texts_iff other valid).mpr ⟨written, addressable_plain⟩
  refine ⟨⟨[], "content-type", [], rfl, by decide +kernel, List.forall_mem_nil _⟩, r, prepared, ?_⟩
  rw [get?_of_prepare other valid prepared, get?_completed, if_neg (by decide)]

end FieldMap.Request
