import FieldMap.Proofs.Indirection
import Mathlib.Data.Set.Card
import Mathlib.Data.Set.Finite.Lattice

/-!
The limit of followed references. What following a spec comes to is said in terms of the route that
its references take: where the route ends, which of its targets is met again, or what its last
reference names that is not there. Only the refusal of one reference too many depends on the limit,
and it does not occur beyond the number of targets that lead anywhere, as no route passes one twice.
-/

namespace FieldMap.Indirection
open Outcome

variable {limit : Nat} {origin : String} {fieldsOf : String → Option Fields}

/-! ## Routes -/

/-- The references that lead from one spec to another, by what they name. -/
inductive Route (fieldsOf : String → Option Fields) (spec : Option String) :
    List Target → Option String → Prop
  | start : Route fieldsOf spec [] spec
  | onward {targets : List Target} {last next : Option String} {target : Target} :
      Route fieldsOf spec targets last → Names last target → Leads fieldsOf target next →
        Route fieldsOf spec (targets ++ [target]) next

theorem Route.leads {spec last : Option String} {targets : List Target}
    (route : Route fieldsOf spec targets last) {target : Target} (member : target ∈ targets) :
    ∃ next, Leads fieldsOf target next := by
  induction route with
  | start => cases member
  | onward route names leads ih =>
      rcases List.mem_append.mp member with before | here
      · exact ih before
      · rw [List.mem_singleton.mp here]
        exact ⟨_, leads⟩

/-- A spec leads nowhere: its references loop, one of them names what is not there, or one names
nothing. The number is that of the references followed until then. -/
inductive LeadsNowhere (fieldsOf : String → Option Fields) (spec : Option String) :
    Nat → Fault → Prop
  | cycle {targets : List Target} {last : Option String} {target : Target} :
      Route fieldsOf spec targets last → targets.Nodup → Names last target → target ∈ targets →
        LeadsNowhere fieldsOf spec targets.length
          (.indirectionCycle ((targets ++ [target]).map fun t => (t.container, t.field))
            (spec.getD ""))
  | missingContainer {targets : List Target} {last : Option String} {target : Target} :
      Route fieldsOf spec targets last → targets.Nodup → Names last target →
        fieldsOf target.container = none →
        LeadsNowhere fieldsOf spec (targets.length + 1)
          (.missingContainer target.container (spec.getD ""))
  | missingField {targets : List Target} {last : Option String} {target : Target}
      {fields : Fields} :
      Route fieldsOf spec targets last → targets.Nodup → Names last target →
        fieldsOf target.container = some fields →
        FieldKey.find? fields.names target.field = none →
        LeadsNowhere fieldsOf spec (targets.length + 1)
          (.missingField target.container target.field (spec.getD ""))
  | malformed {targets : List Target} {last : Option String} :
      Route fieldsOf spec targets last → targets.Nodup → isIndirect last = true →
        (∀ target, ¬ Names last target) →
        LeadsNowhere fieldsOf spec targets.length
          (.malformedIndirection (last.getD "") (spec.getD ""))

/-- After so many references, all to different targets, the spec refers to yet another one. -/
def NestsDeeper (fieldsOf : String → Option Fields) (spec : Option String) (count : Nat) : Prop :=
  ∃ targets last target, Route fieldsOf spec targets last ∧ targets.Nodup ∧
    targets.length = count ∧ Names last target ∧ target ∉ targets

theorem LeadsNowhere.ne_depth {spec : Option String} {count : Nat} {fault : Fault}
    (nowhere : LeadsNowhere fieldsOf spec count fault) (limit : Nat) (text : String) :
    fault ≠ .indirectionDepth limit text := by
  rintro rfl
  cases nowhere

theorem names_none_iff {spec : Option String} {body : List Char} (marked : body? spec = some body) :
    (∀ target, ¬ Names spec target) ↔ target? body = none := by
  constructor
  · intro nameless
    cases read : target? body with
    | none => rfl
    | some target => exact absurd (names_iff.mpr ⟨body, marked, read⟩) (nameless target)
  · intro unread target names
    obtain ⟨body', marked', read⟩ := names_iff.mp names
    cases marked.symm.trans marked'
    rw [unread] at read
    cases read

/-! ## Larger limits -/

theorem refusal_eq_none {visited : List Target} {target : Target} :
    refusal limit origin visited target = none ↔ target ∉ visited ∧ visited.length < limit := by
  unfold refusal
  split
  · next again => simp [List.contains_iff_mem.mp again]
  · next fresh =>
      have absent : target ∉ visited := fun again => fresh (List.contains_iff_mem.mpr again)
      simp [absent]

theorem refusal_eq_some {visited : List Target} {target : Target} {fault : Fault}
    (refused : refusal limit origin visited target = some fault) :
    (target ∈ visited ∧
        fault = .indirectionCycle ((visited ++ [target]).map fun t => (t.container, t.field)) origin ∧
        ∀ other, refusal other origin visited target = some fault) ∨
      (target ∉ visited ∧ fault = .indirectionDepth limit origin ∧ limit ≤ visited.length) := by
  unfold refusal at refused ⊢
  by_cases again : visited.contains target = true
  · rw [if_pos again] at refused
    cases refused
    exact .inl ⟨List.contains_iff_mem.mp again, rfl, fun other => by rw [if_pos again]⟩
  · rw [if_neg again] at refused
    split at refused
    · next full =>
        cases refused
        exact .inr ⟨fun member => again (List.contains_iff_mem.mpr member), rfl, full⟩
    · cases refused

theorem follow_extended {left : Nat} {visited : List Target} {spec : Option String}
    (settled : follow limit origin fieldsOf left visited spec ≠
      .error (.indirectionDepth limit origin))
    (more : Nat) :
    follow (limit + more) origin fieldsOf (left + more) visited spec =
      follow limit origin fieldsOf left visited spec := by
  fun_induction follow limit origin fieldsOf left visited spec with
  | case1 left visited spec direct => rw [follow, direct]
  | case2 left visited spec body marked unread => rw [follow, marked]; simp only [unread]
  | case3 left visited spec body marked target read fault refused =>
      rcases refusal_eq_some refused with ⟨-, -, always⟩ | ⟨-, rfl, -⟩
      · rw [follow, marked]
        simp only [read, always]
      · exact absurd rfl settled
  | case4 => exact absurd rfl settled
  | case5 visited spec body marked target read left welcome ih =>
      have longer : left + 1 + more = left + more + 1 := Nat.add_right_comm left 1 more
      obtain ⟨fresh, room⟩ := refusal_eq_none.mp welcome
      have welcomeStill : refusal (limit + more) origin visited target = none :=
        refusal_eq_none.mpr ⟨fresh, Nat.lt_add_right more room⟩
      rw [longer, follow, marked]
      simp only [read, welcomeStill]
      cases looked : spec? origin fieldsOf target with
      | error fault => rfl
      | ok next =>
          rw [looked] at settled
          exact ih next settled

/-- A larger limit leaves every outcome as it is, apart from the refusal of one reference too
many. -/
theorem resolve_of_le {limit limit' : Nat} {spec : Option String} (larger : limit ≤ limit')
    (settled : resolve limit fieldsOf spec ≠ .error (.indirectionDepth limit (spec.getD ""))) :
    resolve limit' fieldsOf spec = resolve limit fieldsOf spec := by
  obtain ⟨more, rfl⟩ := Nat.exists_eq_add_of_le larger
  exact follow_extended settled more

/-! ## What following a route comes to -/

theorem resolve_route {spec last : Option String} {targets : List Target}
    (route : Route fieldsOf spec targets last) (distinct : targets.Nodup)
    (room : targets.length ≤ limit) :
    resolve limit fieldsOf spec =
      follow limit (spec.getD "") fieldsOf (limit - targets.length) targets last := by
  induction route with
  | start => rfl
  | @onward targets last next target route names leads ih =>
      have apart := List.nodup_append.mp distinct
      have fresh : target ∉ targets := fun member =>
        apart.2.2 target member target (List.mem_singleton_self target) rfl
      rw [List.length_append, List.length_singleton] at room ⊢
      have left : limit - targets.length = limit - (targets.length + 1) + 1 := by omega
      rw [ih apart.1 (Nat.le_of_succ_le room), left,
        follow_hop names leads (refusal_eq_none.mpr ⟨fresh, room⟩)]

theorem resolve_of_leadsNowhere {spec : Option String} {count : Nat} {fault : Fault}
    (nowhere : LeadsNowhere fieldsOf spec count fault) (bound : count ≤ limit) :
    resolve limit fieldsOf spec = .error fault := by
  -- A target of the route leads somewhere, so the one that names what is missing is not on it.
  have fresh {targets : List Target} {last : Option String} {target : Target}
      (route : Route fieldsOf spec targets last)
      (missing : ∀ next, ¬ Leads fieldsOf target next) : target ∉ targets := by
    intro member
    obtain ⟨next, leads⟩ := route.leads member
    exact missing next leads
  cases nowhere with
  | @cycle targets last target route distinct names again =>
      obtain ⟨body, marked, read⟩ := names_iff.mp names
      rw [resolve_route route distinct bound, follow, marked]
      simp [read, refusal, again]
  | @missingContainer targets last target route distinct names undeclared =>
      have missing : ∀ next, ¬ Leads fieldsOf target next := by
        rintro next ⟨fields, key, declared, -⟩
        rw [undeclared] at declared
        cases declared
      have absent := fresh route missing
      obtain ⟨body, marked, read⟩ := names_iff.mp names
      have left : limit - targets.length = limit - (targets.length + 1) + 1 := by omega
      rw [resolve_route route distinct (Nat.le_of_succ_le bound), left, follow, marked]
      simp only [read, refusal_eq_none.mpr ⟨absent, bound⟩, spec?, undeclared]
      rfl
  | @missingField targets last target fields route distinct names declared unknown =>
      have missing : ∀ next, ¬ Leads fieldsOf target next := by
        rintro next ⟨fields', key, declared', found, -⟩
        cases declared.symm.trans declared'
        rw [unknown] at found
        cases found
      have absent := fresh route missing
      obtain ⟨body, marked, read⟩ := names_iff.mp names
      have left : limit - targets.length = limit - (targets.length + 1) + 1 := by omega
      rw [resolve_route route distinct (Nat.le_of_succ_le bound), left, follow, marked]
      simp only [read, refusal_eq_none.mpr ⟨absent, bound⟩, spec?, declared, unknown]
      rfl
  | @malformed targets last route distinct indirect nameless =>
      obtain ⟨body, marked⟩ := Option.isSome_iff_exists.mp indirect
      rw [resolve_route route distinct bound, follow, marked]
      simp only [(names_none_iff marked).mp nameless]

theorem resolve_of_nestsDeeper {spec : Option String} (deeper : NestsDeeper fieldsOf spec limit) :
    resolve limit fieldsOf spec = .error (.indirectionDepth limit (spec.getD "")) := by
  obtain ⟨targets, last, target, route, distinct, rfl, names, fresh⟩ := deeper
  obtain ⟨body, marked, read⟩ := names_iff.mp names
  rw [resolve_route route distinct (Nat.le_refl _), follow, marked]
  simp [read, refusal, fresh]

theorem leadsNowhere_of_spec? {spec last : Option String} {targets : List Target}
    {target : Target} {fault : Fault} (route : Route fieldsOf spec targets last)
    (distinct : targets.Nodup) (names : Names last target)
    (missing : spec? (spec.getD "") fieldsOf target = .error fault) :
    LeadsNowhere fieldsOf spec (targets.length + 1) fault := by
  unfold spec? at missing
  split at missing
  · next undeclared =>
      cases missing
      exact .missingContainer route distinct names undeclared
  · next fields declared =>
      split at missing
      · next unknown =>
          cases missing
          exact .missingField route distinct names declared unknown
      · cases missing

theorem nowhere_or_deeper_of_follow {left : Nat} {visited : List Target}
    {spec last : Option String} {fault : Fault} (route : Route fieldsOf spec visited last)
    (distinct : visited.Nodup) (room : visited.length + left = limit)
    (refused : follow limit (spec.getD "") fieldsOf left visited last = .error fault) :
    (∃ count ≤ limit, LeadsNowhere fieldsOf spec count fault) ∨
      fault = .indirectionDepth limit (spec.getD "") ∧ NestsDeeper fieldsOf spec limit := by
  fun_induction follow limit (spec.getD "") fieldsOf left visited last with
  | case1 => cases refused
  | case2 left visited last body marked unread =>
      cases refused
      have indirect : isIndirect last = true := by simp [isIndirect, marked]
      have nameless := (names_none_iff marked).mpr unread
      exact .inl ⟨_, by omega, .malformed route distinct indirect nameless⟩
  | case3 left visited last body marked target read fault' refusal =>
      cases refused
      have names : Names last target := names_iff.mpr ⟨body, marked, read⟩
      rcases refusal_eq_some refusal with ⟨again, rfl, -⟩ | ⟨fresh, rfl, full⟩
      · exact .inl ⟨_, by omega, .cycle route distinct names again⟩
      · exact .inr ⟨rfl, visited, last, target, route, distinct, by omega, names, fresh⟩
  | case4 visited last body marked target read welcome =>
      have space := (refusal_eq_none.mp welcome).2
      omega
  | case5 visited last body marked target read left welcome ih =>
      have names : Names last target := names_iff.mpr ⟨body, marked, read⟩
      rcases bind_eq_error.mp refused with missing | ⟨next, looked, deeper⟩
      · exact .inl ⟨_, by omega, leadsNowhere_of_spec? route distinct names missing⟩
      · have fresh := (refusal_eq_none.mp welcome).1
        refine ih next (route.onward names (leads_iff.mpr looked)) ?_ (by simp; omega) deeper
        rw [← List.concat_eq_append]
        exact distinct.concat fresh

theorem resolve_eq_error_iff {spec : Option String} {fault : Fault} :
    resolve limit fieldsOf spec = .error fault ↔
      (∃ count ≤ limit, LeadsNowhere fieldsOf spec count fault) ∨
        fault = .indirectionDepth limit (spec.getD "") ∧ NestsDeeper fieldsOf spec limit := by
  constructor
  · exact nowhere_or_deeper_of_follow .start List.nodup_nil (by simp)
  · rintro (⟨count, bound, nowhere⟩ | ⟨rfl, deeper⟩)
    · exact resolve_of_leadsNowhere nowhere bound
    · exact resolve_of_nestsDeeper deeper

/-! ## Targets that lead somewhere -/

def targets (fieldsOf : String → Option Fields) : Set Target :=
  {target | ∃ fields key, fieldsOf target.container = some fields ∧
    FieldKey.find? fields.names target.field = some key}

theorem Leads.mem_targets {target : Target} {next : Option String}
    (leads : Leads fieldsOf target next) : target ∈ targets fieldsOf := by
  obtain ⟨fields, key, declared, found, -⟩ := leads
  exact ⟨fields, key, declared, found⟩

theorem mem_of_find? {keys : List String} {property key : String}
    (found : FieldKey.find? keys property = some key) :
    property ∈ keys ++ keys.map fun key => (FieldKey.parse key).reference.property := by
  have member := find?_mem found
  unfold FieldKey.find? at found
  split at found
  · next present => exact List.mem_append_left _ (List.contains_iff_mem.mp present)
  · have named := List.find?_some found
    rw [beq_iff_eq] at named
    exact List.mem_append_right _ (List.mem_map.mpr ⟨key, member, named⟩)

def candidates (fieldsOf : String → Option Fields) (name : String) : List Target :=
  match fieldsOf name with
  | none => []
  | some fields =>
    (fields.names ++ fields.names.map fun key => (FieldKey.parse key).reference.property).map
      (Target.mk name)

theorem mem_candidates {target : Target} (leads : target ∈ targets fieldsOf) :
    target ∈ candidates fieldsOf target.container := by
  obtain ⟨fields, key, declared, found⟩ := leads
  rw [candidates, declared]
  exact List.mem_map_of_mem (mem_of_find? found)

theorem finite_targets (finite : {name | fieldsOf name ≠ none}.Finite) :
    (targets fieldsOf).Finite := by
  have bounded := Set.Finite.biUnion finite fun name _ => (candidates fieldsOf name).finite_toSet
  refine bounded.subset fun target leads => ?_
  have inside := mem_candidates leads
  obtain ⟨fields, key, declared, -⟩ := leads
  exact Set.mem_biUnion (show fieldsOf target.container ≠ none by simp [declared]) inside

theorem NestsDeeper.le_ncard {spec : Option String} {count : Nat}
    (deeper : NestsDeeper fieldsOf spec count) (finite : (targets fieldsOf).Finite) :
    count ≤ (targets fieldsOf).ncard := by
  obtain ⟨passed, last, target, route, distinct, rfl, -, -⟩ := deeper
  have inside : ∀ each ∈ passed, each ∈ targets fieldsOf := by
    intro each member
    obtain ⟨next, leads⟩ := route.leads member
    exact leads.mem_targets
  rw [← List.toFinset_card_of_nodup distinct, ← Set.ncard_coe_finset]
  exact Set.ncard_le_ncard (fun each member => inside each (by simpa using member)) finite

/-! ## The statement -/

theorem resolve_beyond_limit (fieldsOf : String → Option Fields) (spec : Option String) :
    (∀ limit last, resolve limit fieldsOf spec = .ok last ↔
      ∃ count ≤ limit, Walk fieldsOf count spec last ∧ isIndirect last = false) ∧
    (∀ limit fault, resolve limit fieldsOf spec = .error fault ↔
      (∃ count ≤ limit, LeadsNowhere fieldsOf spec count fault) ∨
        fault = .indirectionDepth limit (spec.getD "") ∧ NestsDeeper fieldsOf spec limit) ∧
    (∀ limit limit' targets origin last,
      resolve limit fieldsOf spec = .error (.indirectionCycle targets origin) →
        resolve limit' fieldsOf spec ≠ .ok last) ∧
    (∀ limit limit', limit ≤ limit' →
      resolve limit fieldsOf spec ≠ .error (.indirectionDepth limit (spec.getD "")) →
        resolve limit' fieldsOf spec = resolve limit fieldsOf spec) ∧
    ({name | fieldsOf name ≠ none}.Finite → (targets fieldsOf).Finite ∧
      ∀ limit, (targets fieldsOf).ncard < limit →
        (∀ count origin, resolve limit fieldsOf spec ≠ .error (.indirectionDepth count origin)) ∧
        (∀ count last, Walk fieldsOf count spec last → isIndirect last = false →
          resolve limit fieldsOf spec = .ok last) ∧
        ((∀ count last, Walk fieldsOf count spec last → isIndirect last = true) →
          ∃ count fault, LeadsNowhere fieldsOf spec count fault ∧
            resolve limit fieldsOf spec = .error fault)) := by
  refine ⟨fun limit => (resolve_iff_walk limit fieldsOf spec).1,
    fun limit fault => resolve_eq_error_iff, ?_, fun limit limit' => resolve_of_le, ?_⟩
  · intro limit limit' targets origin last cycle returned
    -- Neither outcome is the refusal of a limit, so both stand for every larger limit.
    have same := resolve_of_le (Nat.le_max_left limit limit') (by rw [cycle]; nofun)
    have same' := resolve_of_le (Nat.le_max_right limit limit') (by rw [returned]; nofun)
    rw [same, cycle, returned] at same'
    cases same'
  · intro finite
    refine ⟨finite_targets finite, fun limit beyond => ?_⟩
    have shallow : ¬ NestsDeeper fieldsOf spec limit := by
      intro deeper
      have bound := deeper.le_ncard (finite_targets finite)
      omega
    have never (count : Nat) (origin : String) :
        resolve limit fieldsOf spec ≠ .error (.indirectionDepth count origin) := by
      intro refused
      rcases resolve_eq_error_iff.mp refused with ⟨_, -, nowhere⟩ | ⟨-, deeper⟩
      · exact nowhere.ne_depth count origin rfl
      · exact shallow deeper
    refine ⟨never, ?_, ?_⟩
    · intro count last walk direct
      have ⟨returned, tooLong, _⟩ := resolve_iff_walk limit fieldsOf spec
      by_cases bound : count ≤ limit
      · exact (returned last).mpr ⟨count, bound, walk, direct⟩
      · exact absurd (tooLong count last walk direct (by omega)) (never _ _)
    · intro endless
      cases outcome : resolve limit fieldsOf spec with
      | ok last =>
          obtain ⟨count, -, walk, direct⟩ := ((resolve_iff_walk limit fieldsOf spec).1 last).mp outcome
          rw [endless count last walk] at direct
          cases direct
      | error fault =>
          rcases resolve_eq_error_iff.mp outcome with ⟨count, -, nowhere⟩ | ⟨-, deeper⟩
          · exact ⟨count, fault, nowhere, rfl⟩
          · exact absurd deeper shallow

def shelves (name : String) : Option Fields :=
  if name = "a" then some (.ofList [("x", some "@b.y")])
  else if name = "b" then some (.ofList [("y", some "@a.x"), ("z", some "@c.w")])
  else none

theorem resolve_beyond_limit_shelves :
    {name | shelves name ≠ none}.Finite ∧ (targets shelves).ncard < 7 ∧
      (∃ count fault, LeadsNowhere shelves (some "@a.x") count fault ∧
        resolve 7 shelves (some "@a.x") = .error fault) ∧
      resolve 2 shelves (some "@b.z") ≠ .error (.indirectionDepth 2 "@b.z") ∧
      resolve 7 shelves (some "@b.z") = resolve 2 shelves (some "@b.z") := by
  have finite : {name | shelves name ≠ none}.Finite := by
    refine (["a", "b"].finite_toSet).subset ?_
    intro name declared
    unfold shelves at declared
    grind
  have few : (targets shelves).ncard < 7 := by
    have inside : targets shelves ⊆
        (candidates shelves "a" ++ candidates shelves "b").toFinset := by
      intro target leads
      have known := mem_candidates leads
      have declared : target.container = "a" ∨ target.container = "b" := by
        unfold candidates shelves at known
        grind
      rw [List.coe_toFinset, Set.mem_ofPred_eq, List.mem_append]
      rcases declared with here | here <;> rw [here] at known
      · exact .inl known
      · exact .inr known
    calc (targets shelves).ncard
        ≤ (candidates shelves "a" ++ candidates shelves "b").toFinset.card := by
          rw [← Set.ncard_coe_finset]
          exact Set.ncard_le_ncard inside
      _ ≤ (candidates shelves "a" ++ candidates shelves "b").length := List.toFinset_card_le _
      _ < 7 := by decide +kernel
  have settled : resolve 2 shelves (some "@b.z") ≠ .error (.indirectionDepth 2 "@b.z") := by
    decide +kernel
  have cycle : resolve 7 shelves (some "@a.x") =
      .error (.indirectionCycle [("a", "x"), ("b", "y"), ("a", "x")] "@a.x") := by
    decide +kernel
  have around := resolve_beyond_limit shelves (some "@a.x")
  have missing := resolve_beyond_limit shelves (some "@b.z")
  refine ⟨finite, few, ?_, settled, missing.2.2.2.1 2 7 (by decide) settled⟩
  refine ((around.2.2.2.2 finite).2 7 few).2.2 fun count last walk => ?_
  by_contra direct
  rw [Bool.not_eq_true] at direct
  have returned := (around.1 count last).mpr ⟨count, Nat.le_refl count, walk, direct⟩
  exact around.2.2.1 7 count _ _ last cycle returned

end FieldMap.Indirection
