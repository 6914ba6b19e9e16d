import FieldMap.Model.Reading
import FieldMap.Proofs.Path
import FieldMap.Proofs.Reference

/-!
Two ways to the data of a container: a reference from anywhere in the model, which needs a holder for
its last segment, and a path from the container itself, with a fallback. They come to the same value,
or to nothing in both cases, or to the same fault of an attribute.
-/

namespace FieldMap
open Outcome FieldMap.Path

theorem Reference.parse_container {name : String} (simple : IsSegment name) {front : List String}
    {last : String} (each : ∀ segment ∈ front ++ [last], IsSegment segment) :
    parse ("@" ++ name ++ "." ++ Text.joinStrings "." (front ++ [last])) =
      .external (.container name) front last := by
  have proper : (external (.container name) front last).Proper :=
    ⟨⟨simple.nonempty, simple.undotted⟩,
      fun segment member => (each segment (List.mem_append_left [last] member)).undotted,
      (each last List.mem_concat_self).undotted⟩
  have joined := Text.toList_joinStrings (show ".".toList = ['.'] from rfl) (front ++ [last])
  have text : "@" ++ name ++ "." ++ Text.joinStrings "." (front ++ [last]) =
      (external (.container name) front last).written := by
    rw [String.ext_iff, toList_written, segments, List.cons_append, List.map_cons,
      Text.joinWith_cons (by simp), ← joined]
    simp [Root.marker]
  rw [text, parse_written_of_proper proper]

namespace Model

def holder (lost : Fault) : Lookup → Except Fault Value
  | .found v => if v.isNull then .error lost else .ok v
  | _ => .error lost

variable {m : Model} {name : String} {c : Container} {front : List String}

theorem eq_null_of_isNull {v : Value} (null : v.isNull = true) : v = .null := by
  cases v with
  | null => rfl
  | _ => cases null

theorem walk_null_holder (segments : List Value) (lost : Fault) :
    (walk .null segments >>= holder lost) = .error lost := by
  cases segments <;> rfl

theorem resolveRoot_container (declared : m.container? name = some c)
    (filled : ∀ segment ∈ front, segment ≠ "") (last : String) (within : Option Container) :
    ∃ lost : Fault, lost.family = .reference ∧
      m.resolveRoot (.external (.container name) front last) within =
        walk c.data (front.map .text) >>= holder lost := by
  have kept : front.filter (· != "") = front := by simpa using filled
  cases null : c.data.isNull with
  | true =>
      refine ⟨.noRoot ("container '" ++ c.name ++ "'")
        (Reference.external (.container name) front last).written, rfl, ?_⟩
      rw [eq_null_of_isNull null, walk_null_holder]
      simp only [resolveRoot, start, declared, ok_bind, null, if_true]
      rfl
  | false =>
      refine ⟨.missingPath (".".intercalate front) ("container '" ++ c.name ++ "'")
        (Reference.external (.container name) front last).written, rfl, ?_⟩
      simp only [resolveRoot, start, declared, ok_bind, null, pathOf, kept]
      cases walk c.data (front.map .text) with
      | error fault => rfl
      | ok found =>
          cases found with
          | found v => cases absent : v.isNull <;> simp [holder, absent]
          | missing segment => rfl
          | absent => rfl

theorem resolve_container (declared : m.container? name = some c)
    (filled : ∀ segment ∈ front, segment ≠ "") (last : String) (within : Option Container) :
    ∃ lost : Fault, lost.family = .reference ∧
      m.resolve (.external (.container name) front last) within =
        walk c.data (front.map .text) >>= fun found => holder lost found >>= fun v =>
          (read v (.text last)).map Lookup.value := by
  obtain ⟨lost, family, root⟩ := resolveRoot_container declared filled last within
  refine ⟨lost, family, ?_⟩
  rw [resolve, root, Reference.property]
  cases walk c.data (front.map .text) <;> rfl

/-- What a walk through data and a reference into them may come to together. -/
inductive Accords : Except Fault Lookup → Except Fault Value → Prop
  | fails (fault : Fault) : Accords (.error fault) (.error fault)
  | lost {stopped : Lookup} {fault : Fault} (gone : stopped.isFound = false)
      (family : fault.family = .reference) : Accords (.ok stopped) (.error fault)
  | undefined {stopped : Lookup} (gone : stopped.isFound = false) :
      Accords (.ok stopped) (.ok .undefined)
  | value {v : Value} (defined : v ≠ .undefined) : Accords (.ok (.found v)) (.ok v)

theorem accords_step {lost : Fault} (family : lost.family = .reference) (found : Lookup)
    (segment : Value) : Accords (onward [segment] found)
      (holder lost found >>= fun v => (read v segment).map Lookup.value) := by
  cases found with
  | missing stop => exact .lost rfl family
  | absent => exact .lost rfl family
  | found v =>
      cases null : v.isNull with
      | true =>
          rw [eq_null_of_isNull null]
          exact .lost rfl family
      | false =>
          simp only [onward, walk, holder, null, Bool.false_eq_true, if_false, ok_bind]
          cases reads : read v segment with
          | error fault => exact .fails fault
          | ok next =>
              cases next with
              | missing stop => exact .undefined rfl
              | absent => exact absurd reads (read_ne_absent v segment)
              | found u =>
                  cases u with
                  | undefined => exact .undefined rfl
                  | _ => exact .value (by simp)

theorem accords_container (declared : m.container? name = some c)
    (filled : ∀ segment ∈ front, segment ≠ "") (last : String) (within : Option Container) :
    Accords (walk c.data ((front ++ [last]).map .text))
      (m.resolve (.external (.container name) front last) within) := by
  obtain ⟨lost, family, resolved⟩ := resolve_container declared filled last within
  rw [resolved, List.map_append, walk_append]
  cases walk c.data (front.map .text) with
  | error fault => exact .fails fault
  | ok found => exact accords_step family found (.text last)

end Model

theorem get_agrees {m : Model} {name : String} {c : Container} {names : List String}
    (declared : m.container? name = some c) (simple : IsSegment name)
    (each : ∀ segment ∈ names, IsSegment segment) (nonempty : names ≠ []) (fallback : Value)
    (within : Option Container) :
    let path := Text.joinStrings "." names
    let referred := m.resolve (Reference.parse ("@" ++ name ++ "." ++ path)) within
    let got := c.get (.text path) fallback
    (referred = .ok .undefined → got = .ok fallback) ∧
      (∀ fault, referred = .error fault → ¬ Raises c.data names fault →
        fault.family = .reference ∧ got = .ok fallback) ∧
      (∀ v, referred = .ok v → v ≠ .undefined → got = .ok v) ∧
      ∀ fault, Raises c.data names fault → referred = .error fault ∧ got = .error fault := by
  intro path referred got
  have lookup : got = (walk c.data (names.map .text)).map fun found =>
      if found.isFound then found.value else fallback := by
    simp only [got, path, Container.get, Container.lookup, Path.resolve, segments_text,
      segmentsOf_joined each, ok_bind]
    cases walk c.data (names.map .text) <;> rfl
  have accords : Model.Accords (walk c.data (names.map .text)) referred := by
    obtain ⟨front, last, rfl⟩ := (List.eq_nil_or_concat' names).resolve_left nonempty
    have filled : ∀ segment ∈ front, segment ≠ "" :=
      fun segment member => (each segment (List.mem_append_left [last] member)).nonempty
    rw [show referred = m.resolve _ within from rfl, Reference.parse_container simple each]
    exact Model.accords_container declared filled last within
  simp only [← walk_eq_error_iff, lookup]
  generalize walk c.data (names.map .text) = walked at accords
  generalize referred = outcome at accords
  cases accords with
  | fails fault => simp
  | lost gone family => simp [gone, family]
  | undefined gone => simp [gone]
  | value defined => simp [defined, Lookup.isFound, Lookup.value]

def dog : Value :=
  .object { kind := "Dog", text := "Dog()", truth := true, members := none, sized := false,
            identity := ["dog"] }
    [("name", .ok (.text "Rex")), ("age", .error (.raised .badValue "unknown"))]

def kennel : Container := ⟨"kennel", ∅, .mapping [(.text "dogs", .list [dog, .null])]⟩

def withKennel : Model := { Model.new (.apart .null) with containers := .ofList [("kennel", kennel)] }

theorem raises_age : Raises kennel.data ["dogs", "0", "age"] (.raised .badValue "unknown") :=
  .later rfl (.later rfl (.here rfl rfl (by decide)))

theorem get_agrees_kennel :
    withKennel.container? "kennel" = some kennel ∧
      kennel.get (.text (Text.joinStrings "." ["dogs", "0", "name"])) .null = .ok (.text "Rex") ∧
      kennel.get (.text (Text.joinStrings "." ["dogs", "0", "age"])) .null =
        .error (.raised .badValue "unknown") ∧
      kennel.get (.text (Text.joinStrings "." ["dogs", "1", "name"])) (.int 7) = .ok (.int 7) := by
  have declared : withKennel.container? "kennel" = some kennel := rfl
  have simple : IsSegment "kennel" := ⟨by decide, by decide⟩
  have each (names : List String) (plain : ∀ name ∈ names, name ≠ "" ∧ '.' ∉ name.toList) :
      ∀ name ∈ names, IsSegment name :=
    fun name member => ⟨(plain name member).1, (plain name member).2⟩
  refine ⟨declared, ?_, ?_, ?_⟩
  · have parsed : Reference.parse ("@" ++ "kennel" ++ "." ++
        Text.joinStrings "." ["dogs", "0", "name"]) =
        .external (.container "kennel") ["dogs", "0"] "name" := by decide +kernel
    have agrees := get_agrees declared simple (each ["dogs", "0", "name"] (by decide)) (by decide)
    exact (agrees .null none).2.2.1 _ (by rw [parsed]; rfl) nofun
  · have agrees := get_agrees declared simple (each ["dogs", "0", "age"] (by decide)) (by decide)
    exact ((agrees .null none).2.2.2 _ raises_age).2
  · have parsed : Reference.parse ("@" ++ "kennel" ++ "." ++
        Text.joinStrings "." ["dogs", "1", "name"]) =
        .external (.container "kennel") ["dogs", "1"] "name" := by decide +kernel
    have agrees := get_agrees declared simple (each ["dogs", "1", "name"] (by decide)) (by decide)
    have calm : ∀ fault, ¬ Raises kennel.data ["dogs", "1", "name"] fault := by
      intro fault raises
      cases walk_eq_error_iff.mpr raises
    exact ((agrees (.int 7) none).2.1 _ (by rw [parsed]; rfl) (calm _)).2

end FieldMap
