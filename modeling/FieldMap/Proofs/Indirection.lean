import FieldMap.Chain.Indirection
import FieldMap.Proofs.Catalog
import FieldMap.Proofs.Outcome
import FieldMap.Proofs.Text.Cut

/-!
Following references between specs. A spec that names a target leads to the spec of that target; a
bounded walk of such hops is all that following references does. Two specs with one target lead to
the same spec, so a walk that meets a target twice never ends, and refusing it loses nothing.
-/

namespace FieldMap.Indirection
open Outcome

def Names (spec : Option String) (target : Target) : Prop :=
  ∃ between : List (List Char),
    let segments := target.container.toList :: (between ++ [target.field.toList])
    Text.stripChars (spec.getD "").toList = '@' :: Text.joinWith '.' segments ∧
      (∀ segment ∈ segments, '.' ∉ segment) ∧ target.container ≠ "" ∧ target.field ≠ ""

def Leads (fieldsOf : String → Option Fields) (target : Target) (next : Option String) : Prop :=
  ∃ fields key, fieldsOf target.container = some fields ∧
    FieldKey.find? fields.names target.field = some key ∧ fields.get? key = some next

def Hop (fieldsOf : String → Option Fields) (spec next : Option String) : Prop :=
  ∃ target, Names spec target ∧ Leads fieldsOf target next

/-- So many references are followed, one after the other. -/
inductive Walk (fieldsOf : String → Option Fields) : Nat → Option String → Option String → Prop
  | stay (spec : Option String) : Walk fieldsOf 0 spec spec
  | hop {count : Nat} {spec next last : Option String} :
      Hop fieldsOf spec next → Walk fieldsOf count next last → Walk fieldsOf (count + 1) spec last

theorem target?_eq_some {body : List Char} {target : Target} :
    target? body = some target ↔
      ∃ between : List (List Char),
        Text.cut '.' body = target.container.toList :: (between ++ [target.field.toList]) ∧
          target.container ≠ "" ∧ target.field ≠ "" := by
  constructor
  · intro h
    unfold target? at h
    split at h
    · next container segment segments pieces =>
        dsimp only at h
        split at h
        · contradiction
        · next present =>
            cases h
            have whole := List.dropLast_concat_getLast (List.cons_ne_nil segment segments)
            rw [List.getLast_eq_getLastD] at whole
            refine ⟨(segment :: segments).dropLast, ?_, ?_, ?_⟩
            · rw [pieces, String.toList_ofList, String.toList_ofList, List.getLastD_cons, whole]
            · simp_all
            · simp_all
    · contradiction
  · rintro ⟨between, pieces, container, field⟩
    have last := List.getLastD_concat (a := []) (b := target.field.toList) (l := between)
    unfold target?
    rw [pieces]
    cases between with
    | nil => simp_all
    | cons segment between =>
        rw [List.cons_append] at last ⊢
        simp only [last]
        simp_all

theorem names_iff {spec : Option String} {target : Target} :
    Names spec target ↔ ∃ body, body? spec = some body ∧ target? body = some target := by
  constructor
  · rintro ⟨between, stripped, clean, container, field⟩
    refine ⟨_, by rw [body?, stripped]; rfl, ?_⟩
    rw [target?_eq_some, Text.cut_joinWith clean (by simp)]
    exact ⟨between, rfl, container, field⟩
  · rintro ⟨body, marked, h⟩
    obtain ⟨between, pieces, container, field⟩ := target?_eq_some.mp h
    refine ⟨between, ?_, ?_, container, field⟩
    · rw [← pieces, Text.joinWith_cut]
      unfold body? at marked
      split at marked
      · next stripped => rw [stripped, Option.some.inj marked]
      · contradiction
    · rw [← pieces]
      exact Text.clean_of_mem_cut

theorem find?_mem {keys : List String} {property key : String}
    (found : FieldKey.find? keys property = some key) : key ∈ keys := by
  unfold FieldKey.find? at found
  split at found
  · next present =>
      cases found
      exact List.contains_iff_mem.mp present
  · exact List.mem_of_find?_eq_some found

theorem leads_iff {fieldsOf : String → Option Fields} {target : Target} {next : Option String}
    {origin : String} :
    Leads fieldsOf target next ↔ spec? origin fieldsOf target = .ok next := by
  constructor
  · rintro ⟨fields, key, declared, found, stands⟩
    simp [spec?, declared, found, stands]
  · intro h
    unfold spec? at h
    split at h
    · contradiction
    · next fields declared =>
        split at h
        · contradiction
        · next key found =>
            obtain ⟨spec, stands⟩ := Catalog.mem_names.mp (find?_mem found)
            rw [stands] at h
            cases h
            exact ⟨fields, key, declared, found, stands⟩

theorem Leads.unique {fieldsOf : String → Option Fields} {target : Target}
    {next next' : Option String} (leads : Leads fieldsOf target next)
    (leads' : Leads fieldsOf target next') : next = next' := by
  have h : spec? "" fieldsOf target = .ok next := leads_iff.mp leads
  rw [leads_iff.mp leads'] at h
  exact (Except.ok.inj h).symm

theorem Hop.unique {fieldsOf : String → Option Fields} {spec next next' : Option String}
    (hop : Hop fieldsOf spec next) (hop' : Hop fieldsOf spec next') : next = next' := by
  obtain ⟨target, names, leads⟩ := hop
  obtain ⟨target', names', leads'⟩ := hop'
  obtain ⟨body, marked, read⟩ := names_iff.mp names
  obtain ⟨body', marked', read'⟩ := names_iff.mp names'
  cases marked.symm.trans marked'
  cases read.symm.trans read'
  exact leads.unique leads'

theorem Hop.isIndirect {fieldsOf : String → Option Fields} {spec next : Option String}
    (hop : Hop fieldsOf spec next) : isIndirect spec = true := by
  obtain ⟨target, names, -⟩ := hop
  obtain ⟨body, marked, -⟩ := names_iff.mp names
  simp [Indirection.isIndirect, marked]

theorem Walk.length_unique {fieldsOf : String → Option Fields} {spec last last' : Option String}
    {count count' : Nat} (walk : Walk fieldsOf count spec last) (direct : isIndirect last = false)
    (walk' : Walk fieldsOf count' spec last') (direct' : isIndirect last' = false) :
    count = count' := by
  induction walk generalizing count' with
  | stay spec =>
      cases walk' with
      | stay => rfl
      | hop hop rest =>
          rw [hop.isIndirect] at direct
          contradiction
  | hop hop rest ih =>
      cases walk' with
      | stay =>
          rw [hop.isIndirect] at direct'
          contradiction
      | hop hop' rest' =>
          cases hop.unique hop'
          rw [ih direct rest']

section Follow

variable {limit : Nat} {origin : String} {fieldsOf : String → Option Fields}

theorem follow_direct {left : Nat} {visited : List Target} {spec : Option String}
    (direct : isIndirect spec = false) :
    follow limit origin fieldsOf left visited spec = .ok spec := by
  unfold isIndirect at direct
  rw [follow]
  cases marked : body? spec with
  | none => rfl
  | some body => simp [marked] at direct

theorem follow_hop {left : Nat} {visited : List Target} {spec next : Option String}
    {target : Target} (names : Names spec target) (leads : Leads fieldsOf target next)
    (welcome : refusal limit origin visited target = none) :
    follow limit origin fieldsOf (left + 1) visited spec =
      follow limit origin fieldsOf left (visited ++ [target]) next := by
  obtain ⟨body, marked, read⟩ := names_iff.mp names
  rw [follow, marked]
  simp only [read, welcome, leads_iff.mp leads, ok_bind]

theorem walk_of_follow {left : Nat} {visited : List Target} {spec last : Option String}
    (h : follow limit origin fieldsOf left visited spec = .ok last) :
    ∃ count ≤ left, Walk fieldsOf count spec last ∧ isIndirect last = false := by
  induction left generalizing visited spec with
  | zero =>
      unfold follow at h
      split at h
      · next direct =>
          cases h
          exact ⟨0, Nat.le_refl 0, .stay _, by simp [isIndirect, direct]⟩
      · split at h
        · contradiction
        · split at h <;> contradiction
  | succ left ih =>
      unfold follow at h
      split at h
      · next direct =>
          cases h
          exact ⟨0, Nat.zero_le _, .stay _, by simp [isIndirect, direct]⟩
      · next body marked =>
          split at h
          · contradiction
          · next target read =>
              split at h
              · contradiction
              · contradiction
              · next welcome enough =>
                  cases enough
                  obtain ⟨next, leads, h⟩ := bind_eq_ok.mp h
                  obtain ⟨count, bound, walk, direct⟩ := ih h
                  have hop : Hop fieldsOf spec next :=
                    ⟨target, names_iff.mpr ⟨body, marked, read⟩, leads_iff.mpr leads⟩
                  exact ⟨count + 1, Nat.succ_le_succ bound, .hop hop walk, direct⟩

/-- A target is left behind when the walk from it to `last` is at least as long as what is still to
be walked. On a walk that ends, all visited targets are left behind, so none is met again. -/
def LeftBehind (fieldsOf : String → Option Fields) (last : Option String) (count : Nat)
    (target : Target) : Prop :=
  ∃ longer next, count ≤ longer ∧ Leads fieldsOf target next ∧ Walk fieldsOf longer next last

theorem follow_of_walk {left count : Nat} {visited : List Target} {spec last : Option String}
    (walk : Walk fieldsOf count spec last) (direct : isIndirect last = false)
    (room : visited.length + left = limit)
    (behind : ∀ target ∈ visited, LeftBehind fieldsOf last count target) :
    follow limit origin fieldsOf left visited spec =
      if count ≤ left then .ok last else .error (.indirectionDepth limit origin) := by
  induction walk generalizing left visited with
  | stay spec => rw [if_pos (Nat.zero_le left), follow_direct direct]
  | @hop count spec next last hop rest ih =>
      obtain ⟨target, names, leads⟩ := hop
      -- A target that was visited would lead to `last` in two walks of different lengths.
      have fresh : target ∉ visited := by
        intro again
        obtain ⟨longer, next', bound, leads', walk'⟩ := behind target again
        cases leads.unique leads'
        have same := rest.length_unique direct walk' direct
        omega
      cases left with
      | zero =>
          obtain ⟨body, marked, read⟩ := names_iff.mp names
          rw [follow, marked]
          simp [read, refusal, fresh, ← room]
      | succ left =>
          have welcome : refusal limit origin visited target = none := by
            have inside : ¬ limit ≤ visited.length := by omega
            simp [refusal, fresh, inside]
          rw [follow_hop names leads welcome, ih direct (by simp; omega)]
          · simp only [Nat.add_le_add_iff_right]
          · intro earlier member
            rcases List.mem_append.mp member with before | here
            · obtain ⟨longer, next', bound, leads', walk'⟩ := behind earlier before
              exact ⟨longer, next', by omega, leads', walk'⟩
            · cases List.mem_singleton.mp here
              exact ⟨count, next, Nat.le_refl count, leads, rest⟩

end Follow

def followBy {m : Type → Type} [Monad m] (limit : Nat) (origin : String)
    (lookup : String → m (Option Fields)) :
    Nat → List Target → Option String → m (Except Fault (Option String))
  | left, visited, spec =>
    match body? spec with
    | none => return .ok spec
    | some body =>
      match target? body with
      | none => return .error (.malformedIndirection (spec.getD "") origin)
      | some target =>
        match refusal limit origin visited target, left with
        | some fault, _ => return .error fault
        | none, 0 => return .error (.indirectionDepth limit origin)
        | none, left + 1 => do
          let fields ← lookup target.container
          match spec? origin (fun _ => fields) target with
          | .ok next => followBy limit origin lookup left (visited ++ [target]) next
          | .error fault => return .error fault

def resolveBy {m : Type → Type} [Monad m] (limit : Nat) (lookup : String → m (Option Fields))
    (spec : Option String) : m (Except Fault (Option String)) :=
  followBy limit (spec.getD "") lookup limit [] spec

def noted (fieldsOf : String → Option Fields) (name : String) :
    StateM (List String) (Option Fields) := do
  modify (· ++ [name])
  return fieldsOf name

theorem noted_bind_run {α : Type} (fieldsOf : String → Option Fields) (name : String)
    (next : Option Fields → StateM (List String) α) (before : List String) :
    (noted fieldsOf name >>= next).run before = (next (fieldsOf name)).run (before ++ [name]) :=
  rfl

theorem followBy_noted (limit : Nat) (origin : String) (fieldsOf : String → Option Fields)
    (left : Nat) (visited : List Target) (spec : Option String) (before : List String) :
    ∃ asked : List String, asked.length ≤ left ∧
      (followBy limit origin (noted fieldsOf) left visited spec).run before =
        (follow limit origin fieldsOf left visited spec, before ++ asked) := by
  induction left generalizing visited spec before with
  | zero =>
      refine ⟨[], Nat.le_refl 0, ?_⟩
      rw [followBy, follow, List.append_nil]
      cases body? spec with
      | none => rfl
      | some body =>
          cases read : target? body with
          | none => simp only [read]; rfl
          | some target =>
              cases refused : refusal limit origin visited target <;>
                simp only [read, refused] <;> rfl
  | succ left ih =>
      rw [followBy, follow]
      cases body? spec with
      | none => exact ⟨[], Nat.zero_le _, by rw [List.append_nil]; rfl⟩
      | some body =>
          cases read : target? body with
          | none => exact ⟨[], Nat.zero_le _, by simp only [read, List.append_nil]; rfl⟩
          | some target =>
              cases refused : refusal limit origin visited target with
              | some fault =>
                  exact ⟨[], Nat.zero_le _, by simp only [read, refused, List.append_nil]; rfl⟩
              | none =>
                  have same : spec? origin (fun _ => fieldsOf target.container) target =
                    spec? origin fieldsOf target := rfl
                  cases looked : spec? origin fieldsOf target with
                  | error fault =>
                      refine ⟨[target.container], by simp, ?_⟩
                      simp only [read, refused, noted_bind_run, same, looked]
                      rfl
                  | ok next =>
                      obtain ⟨asked, bound, run⟩ :=
                        ih (visited ++ [target]) next (before ++ [target.container])
                      refine ⟨target.container :: asked, by simpa using bound, ?_⟩
                      simp only [read, refused, noted_bind_run, same, looked, ok_bind]
                      rw [run, List.append_assoc, List.singleton_append]

theorem resolve_iff_walk (limit : Nat) (fieldsOf : String → Option Fields)
    (spec : Option String) :
    (∀ last, resolve limit fieldsOf spec = .ok last ↔
      ∃ count ≤ limit, Walk fieldsOf count spec last ∧ isIndirect last = false) ∧
    (∀ count last, Walk fieldsOf count spec last → isIndirect last = false → limit < count →
      resolve limit fieldsOf spec = .error (.indirectionDepth limit (spec.getD ""))) ∧
    ∃ asked : List String, asked.length ≤ limit ∧
      (resolveBy limit (noted fieldsOf) spec).run [] = (resolve limit fieldsOf spec, asked) := by
  have followed {count : Nat} {last : Option String} (walk : Walk fieldsOf count spec last)
      (direct : isIndirect last = false) :
      follow limit (spec.getD "") fieldsOf limit [] spec =
        if count ≤ limit then .ok last else .error (.indirectionDepth limit (spec.getD "")) :=
    follow_of_walk walk direct (by simp) (by simp)
  refine ⟨fun last => ⟨walk_of_follow, ?_⟩, ?_, ?_⟩
  · rintro ⟨count, bound, walk, direct⟩
    rw [resolve, followed walk direct, if_pos bound]
  · intro count last walk direct long
    rw [resolve, followed walk direct, if_neg (by omega)]
  · exact followBy_noted limit (spec.getD "") fieldsOf limit [] spec []

end FieldMap.Indirection
