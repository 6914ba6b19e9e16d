import FieldMap.Extraction
import FieldMap.Proofs.Catalog
import FieldMap.Proofs.Outcome

/-!
Extraction as an ordered merge. Every entry of a field mapping adds at most one output and some
issues, which depend on the model, the container and that entry alone. The issues of an extraction
are those of its entries in order; of several outputs under one name the last counts, at the place of
the first.
-/

namespace FieldMap
open Outcome

structure Share where
  key : String
  spec : Option String
  contribution : Contribution

namespace Share

def IsAdded (m : Model) (c : Container) (s : Share) : Prop :=
  m.contribution c (FieldKey.parse s.key) s.spec = .ok s.contribution

def issues (container : String) (s : Share) : List Issue :=
  s.contribution.problems.map fun problem => ⟨container, some s.key, problem⟩

end Share

def outputsOf (shares : List Share) : List (String × Value) :=
  shares.filterMap fun s => s.contribution.output

namespace Extraction

def addAll (e : Extraction) (shares : List Share) : Extraction :=
  shares.foldl (fun e s => e.add s.key s.contribution) e

@[simp] theorem addAll_nil (e : Extraction) : e.addAll [] = e := rfl

@[simp] theorem addAll_cons (e : Extraction) (s : Share) (shares : List Share) :
    e.addAll (s :: shares) = (e.add s.key s.contribution).addAll shares := rfl

theorem container_addAll (e : Extraction) (shares : List Share) :
    (e.addAll shares).container = e.container := by
  induction shares generalizing e with
  | nil => rfl
  | cons s shares ih => exact ih _

theorem issues_addAll (e : Extraction) (shares : List Share) :
    (e.addAll shares).issues = e.issues ++ shares.flatMap (Share.issues e.container) := by
  induction shares generalizing e with
  | nil => simp
  | cons s shares ih =>
      rw [addAll_cons, ih, List.flatMap_cons, ← List.append_assoc]
      rfl

theorem fields_addAll (e : Extraction) (shares : List Share) :
    (e.addAll shares).fields = e.fields.putAll (outputsOf shares) := by
  induction shares generalizing e with
  | nil => rfl
  | cons s shares ih =>
      rw [addAll_cons, ih]
      cases output : s.contribution.output <;> simp [add, outputsOf, output, Catalog.putAll]

end Extraction

namespace Model

theorem outputOf_output {m : Model} {c : Container} {key : FieldKey} {spec : Option String}
    {added : Contribution} (h : m.outputOf c key spec = .ok added) :
    ∃ v, added.output = some (key.outputName, v) := by
  unfold outputOf at h
  obtain ⟨chain, -, h⟩ := bind_eq_ok.mp h
  cases chain with
  | error problem =>
      cases h
      exact ⟨.undefined, rfl⟩
  | ok chain =>
      cases h
      exact ⟨(runChain chain (m.sourceOf c key).1).1, rfl⟩

theorem contribution_output {m : Model} {c : Container} {key : FieldKey} {spec : Option String}
    {added : Contribution} (h : m.contribution c key spec = .ok added) :
    ∀ output ∈ added.output, output.1 = key.outputName := by
  intro output present
  unfold contribution at h
  split at h
  · cases h
    cases present
  · cases h
    cases present
  · obtain ⟨v, output_eq⟩ := outputOf_output h
    rw [output_eq] at present
    cases present
    rfl

theorem extractFields_eq_ok {m : Model} {c : Container} {start e : Extraction}
    {entries : List (String × Option String)} :
    m.extractFields c start entries = .ok e ↔
      ∃ shares : List Share, shares.map (fun s => (s.key, s.spec)) = entries ∧
        (∀ s ∈ shares, s.IsAdded m c) ∧ e = start.addAll shares := by
  induction entries generalizing start with
  | nil =>
      constructor
      · intro h
        cases h
        exact ⟨[], rfl, by simp, rfl⟩
      · rintro ⟨shares, none, -, rfl⟩
        rw [List.map_eq_nil_iff.mp none]
        rfl
  | cons entry rest ih =>
      obtain ⟨key, spec⟩ := entry
      rw [extractFields, bind_eq_ok]
      constructor
      · rintro ⟨added, here, h⟩
        obtain ⟨shares, same, each, rfl⟩ := ih.mp h
        refine ⟨⟨key, spec, added⟩ :: shares, by rw [List.map_cons, same], ?_, rfl⟩
        intro s member
        rcases List.mem_cons.mp member with rfl | later
        · exact here
        · exact each s later
      · rintro ⟨shares, same, each, rfl⟩
        obtain ⟨s, shares, rfl, first, others⟩ := List.map_eq_cons_iff.mp same
        cases first
        refine ⟨s.contribution, each s List.mem_cons_self, ih.mpr ⟨shares, others, ?_, rfl⟩⟩
        exact fun t later => each t (List.mem_cons_of_mem s later)

theorem extract_undeclared {m : Model} {name : String} (undeclared : m.container? name = none) :
    m.extract name = .error (.unknownContainer name) := by
  simp [extract, requireContainer, undeclared]

theorem extract_of_declared {m : Model} {name : String} {c : Container}
    (declared : m.container? name = some c) (nonempty : c.fields.isEmpty = false) :
    m.extract name = m.extractFields c (.start name) c.fields.entries := by
  simp [extract, requireContainer, declared, nonempty]

theorem extract_of_empty {m : Model} {name : String} {c : Container}
    (declared : m.container? name = some c) (empty : c.fields.isEmpty = true) :
    m.extract name = .ok ⟨name, ∅, [⟨name, none, .noFields⟩]⟩ := by
  simp [extract, requireContainer, declared, empty]

end Model

theorem mem_names_outputsOf {m : Model} {c : Container} {shares : List Share}
    (added : ∀ s ∈ shares, s.IsAdded m c) {output : String} :
    output ∈ (Catalog.ofList (outputsOf shares)).names ↔ ∃ s ∈ shares,
      (FieldKey.parse s.key).outputName = output ∧ s.contribution.output.isSome = true := by
  rw [Catalog.names_ofList, List.mem_eraseDups, List.mem_map]
  constructor
  · rintro ⟨⟨name, v⟩, member, rfl⟩
    obtain ⟨s, inside, present⟩ := List.mem_filterMap.mp member
    have named := Model.contribution_output (added s inside) (name, v) present
    exact ⟨s, inside, named.symm, by rw [present]; rfl⟩
  · rintro ⟨s, inside, rfl, present⟩
    obtain ⟨out, output_eq⟩ := Option.isSome_iff_exists.mp present
    refine ⟨out, List.mem_filterMap.mpr ⟨s, inside, output_eq⟩, ?_⟩
    exact Model.contribution_output (added s inside) out output_eq

/-- An extraction of a container is the ordered merge of what its entries add. -/
structure Extraction.Merges (e : Extraction) (m : Model) (c : Container) (name : String)
    (shares : List Share) : Prop where
  entries : shares.map (fun s => (s.key, s.spec)) = c.fields.entries
  added : ∀ s ∈ shares, s.IsAdded m c
  named : ∀ s ∈ shares, ∀ output ∈ s.contribution.output,
    output.1 = (FieldKey.parse s.key).outputName
  container : e.container = name
  issues : e.issues = shares.flatMap (Share.issues name)
  present : ∀ output, output ∈ e.fields.names ↔ ∃ s ∈ shares,
    (FieldKey.parse s.key).outputName = output ∧ s.contribution.output.isSome = true
  order : e.fields.names = ((outputsOf shares).map Prod.fst).eraseDups
  last : ∀ output v, e.fields.get? output = some v ↔
    ∃ before after, outputsOf shares = before ++ (output, v) :: after ∧
      output ∉ after.map Prod.fst

theorem extract_merges {m : Model} {name : String} {c : Container} {e : Extraction}
    (declared : m.container? name = some c) (nonempty : c.fields.isEmpty = false)
    (extracted : m.extract name = .ok e) : ∃ shares, e.Merges m c name shares := by
  rw [Model.extract_of_declared declared nonempty] at extracted
  obtain ⟨shares, entries, added, rfl⟩ := Model.extractFields_eq_ok.mp extracted
  have fields : ((Extraction.start name).addAll shares).fields = .ofList (outputsOf shares) :=
    Extraction.fields_addAll _ shares
  refine ⟨shares, entries, added, ?_, ?_, ?_, ?_, ?_, ?_⟩
  · exact fun s member => Model.contribution_output (added s member)
  · exact Extraction.container_addAll _ shares
  · exact Extraction.issues_addAll _ shares
  · intro output
    rw [fields, mem_names_outputsOf added]
  · rw [fields, Catalog.names_ofList]
  · intro output v
    rw [fields, Catalog.get?_ofList_eq_some]

def Model.declaring (c : Container) : Model :=
  { Model.new (.apart .null) with containers := .ofList [(c.name, c)] }

theorem Model.container?_declaring (c : Container) : (declaring c).container? c.name = some c := by
  rw [container?, declaring, Catalog.get?_ofList]
  simp

def titles : Container where
  name := "user"
  fields := .ofList [("name as title", some "string"), ("none as title if(null)", some "string"),
    ("age if(1 ~ 2)", some "int"), ("nick as title", some "trim"), ("mail", some "@nowhere.mail")]
  data := .mapping [(.text "name", .text "Ann"), (.text "nick", .text " Annie "), (.text "age", .int 7)]

theorem extract_merges_titles : ∃ e shares, (Model.declaring titles).extract "user" = .ok e ∧
    e.Merges (.declaring titles) titles "user" shares := by
  have returns : ((Model.declaring titles).extract "user").isOk = true := by decide +kernel
  cases extracted : (Model.declaring titles).extract "user" with
  | error fault =>
      rw [extracted] at returns
      contradiction
  | ok e =>
      obtain ⟨shares, merged⟩ := extract_merges (Model.container?_declaring titles) rfl extracted
      exact ⟨e, shares, rfl, merged⟩

end FieldMap
