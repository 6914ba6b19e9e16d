import FieldMap.Request
import FieldMap.Proofs.Outcome

/-!
How requests are prepared: one equation for those that carry a payload in their address, and one for
those that carry it in a body. A body makes no difference to whether the address and the headers can
be prepared.
-/

namespace FieldMap.Request
open Outcome

variable {uri : String} {method : Option String} {payload : Value} {headers : List (Value × Value)}

def methodOf (method : Option String) : String :=
  let given := method.getD ""
  Text.upperString (if given = "" then defaultMethod else given)

theorem prepare_of_get (get : methodOf method = "GET") :
    prepare uri method payload headers = do
      let parameters ← parameters payload
      let url ← prepareAddress uri (queryText parameters)
      let headers ← addressHeaders url none (← prepareHeaders headers)
      return { method := "GET", url, headers, body := none } := by
  unfold methodOf at get
  unfold prepare
  simp only [get, if_true]

theorem prepare_of_not_get (other : methodOf method ≠ "GET") :
    prepare uri method payload headers = do
      let body ← bodyOf payload
      let url ← prepareAddress uri (.ok [])
      let headers ← addressHeaders url (some body) (← prepareHeaders (withContentType headers))
      return { method := methodOf method, url, headers, body := some body } := by
  unfold methodOf at other ⊢
  unfold prepare
  simp only [other, if_false]

theorem entriesOf_mapping (entries : List (Value × Value)) :
    entriesOf (.mapping entries) = .ok entries := by
  cases entries <;> rfl

def authorization (url : String) : Except Fault (Option String) := do
  match ← credentials? url.toList with
  | some (name, password) => return some (← basicCredentials name password)
  | none => return none

def withLength (body : Option String) (headers : Headers) : Headers :=
  match body with
  | some text => headers.set "Content-Length" (toString text.utf8ByteSize)
  | none => headers

def withAuthorization (value : Option String) (headers : Headers) : Headers :=
  match value with
  | some value => headers.set "Authorization" value
  | none => headers

theorem addressHeaders_eq (url : String) (body : Option String) (headers : Headers) :
    addressHeaders url body headers =
      (authorization url).map (withAuthorization · (withLength body headers)) := by
  unfold addressHeaders authorization
  cases credentials? url.toList with
  | error fault => rfl
  | ok found =>
      cases found with
      | none => rfl
      | some both =>
          obtain ⟨name, password⟩ := both
          simp only [ok_bind]
          cases basicCredentials name password <;> rfl

theorem exists_addressHeaders_iff {url : String} {body : Option String} {headers : Headers} :
    (∃ all, addressHeaders url body headers = .ok all) ↔ ∃ value, authorization url = .ok value := by
  rw [addressHeaders_eq]
  cases authorization url <;> simp

def Preparable (uri : String) (headers : List (Value × Value)) : Prop :=
  ∃ url given value, prepareAddress uri (.ok []) = .ok url ∧
    prepareHeaders (withContentType headers) = .ok given ∧ authorization url = .ok value

section Body

variable (other : methodOf method ≠ "GET")
include other

theorem prepare_not_get_eq_ok_iff {r : Request} :
    prepare uri method payload headers = .ok r ↔ ∃ body url given all,
      bodyOf payload = .ok body ∧ prepareAddress uri (.ok []) = .ok url ∧
      prepareHeaders (withContentType headers) = .ok given ∧
      addressHeaders url (some body) given = .ok all ∧
      r = ⟨methodOf method, url, all, some body⟩ := by
  rw [prepare_of_not_get other]
  simp only [bind_eq_ok, pure_eq, Except.ok.injEq]
  constructor
  · rintro ⟨body, written, url, address, given, checked, all, complete, rfl⟩
    exact ⟨body, url, given, all, written, address, checked, complete, rfl⟩
  · rintro ⟨body, url, given, all, written, address, checked, complete, rfl⟩
    exact ⟨body, written, url, address, given, checked, all, complete, rfl⟩

theorem exists_prepare_iff {body : String} (written : bodyOf payload = .ok body) :
    (∃ r, prepare uri method payload headers = .ok r) ↔ Preparable uri headers := by
  constructor
  · rintro ⟨r, prepared⟩
    obtain ⟨_, url, given, all, -, address, checked, complete, -⟩ :=
      (prepare_not_get_eq_ok_iff other).mp prepared
    obtain ⟨value, authorized⟩ := exists_addressHeaders_iff.mp ⟨all, complete⟩
    exact ⟨url, given, value, address, checked, authorized⟩
  · rintro ⟨url, given, value, address, checked, authorized⟩
    obtain ⟨all, complete⟩ := exists_addressHeaders_iff.mpr ⟨value, authorized⟩
    exact ⟨_, (prepare_not_get_eq_ok_iff other).mpr
      ⟨body, url, given, all, written, address, checked, complete, rfl⟩⟩

theorem body_of_prepare {body : String} {r : Request} (written : bodyOf payload = .ok body)
    (prepared : prepare uri method payload headers = .ok r) : r.body = some body := by
  obtain ⟨text, _, _, _, same, -, -, -, rfl⟩ := (prepare_not_get_eq_ok_iff other).mp prepared
  rw [written] at same
  rw [Except.ok.inj same]

end Body

end FieldMap.Request
