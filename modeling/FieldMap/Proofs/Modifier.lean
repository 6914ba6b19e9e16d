import FieldMap.Chain
import FieldMap.Proofs.Value.Equality

/-!
Lists of values that modifiers let pass or pass by. Main statement: what `allow` and `skip` do with a
value depends on whether a listed item agrees with it once the truth values inside of both are taken
for numbers; outside of lists and objects truth values and numbers stay apart.
-/

namespace FieldMap.Modifier
open Value Chain

def itemsOf : Value → List Value
  | .list items => items
  | item => [item]

def Lists (parameters v : Value) : Prop := ∃ item ∈ itemsOf parameters, Agree v item

def ListsLoosely (parameters v : Value) : Prop :=
  ∃ item ∈ itemsOf parameters, v.isBool = item.isBool ∧ Agree v.numbered item.numbered

/-- What the two modifiers do with a value, depending on whether it counts as listed. -/
structure Sorts (parameters v : Value) (counted : Prop) : Prop where
  skip_counted : counted → ∀ name steps,
    runSteps (.modifier name parameters (some skip) :: steps) v = .ok (v, true)
  skip_other : ¬ counted → ∀ name steps,
    runSteps (.modifier name parameters (some skip) :: steps) v = runSteps steps v
  allow_counted : counted → ∀ name steps,
    runSteps (.modifier name parameters (some allow) :: steps) v = runSteps steps v
  allow_other : ¬ counted → ∀ name steps,
    runSteps (.modifier name parameters (some allow) :: steps) v = .ok (v, true)

variable {v item parameters : Value}

theorem apply_breaks {name : String} {run : Modifier} {stop : Bool}
    (reply : run v parameters = .ok (.breaks stop)) :
    (Step.modifier name parameters (some run)).apply v = .ok (v, stop) := by
  rw [Step.apply, reply]
  cases stop <;> rfl

theorem runSteps_breaks {run : Modifier} {stop : Bool}
    (reply : run v parameters = .ok (.breaks stop)) (name : String) (steps : List Step) :
    runSteps (.modifier name parameters (some run) :: steps) v =
      if stop then .ok (v, true) else runSteps steps v := by
  rw [runSteps, apply_breaks reply]
  rfl

theorem sorts_listed : Sorts parameters v (listed v parameters = true) where
  skip_counted counted name steps := by
    rw [runSteps_breaks rfl, if_pos counted]
  skip_other other name steps := by
    rw [runSteps_breaks rfl, if_neg other]
  allow_counted counted name steps := by
    rw [runSteps_breaks rfl, counted]
    rfl
  allow_other other name steps := by
    rw [runSteps_breaks rfl, Bool.eq_false_iff.mpr other]
    rfl

theorem listed_iff :
    listed v parameters = true ↔ ∃ item ∈ itemsOf parameters, isItem v item = true := by
  unfold listed itemsOf
  split <;> simp

theorem isItem_undefined (data : item.IsData) : isItem .undefined item = false := by
  cases data <;> rfl

theorem isItem_of_data (data : v.IsData) (item : Value) :
    isItem v item = (v.isBool == item.isBool && same v item) := by
  cases data with
  | @float x proper =>
      cases x with
      | nan origin place => exact absurd rfl (proper origin place)
      | finite | infinite => rfl
  | _ => rfl

theorem isData_itemsOf (data : parameters.IsData) : ∀ item ∈ itemsOf parameters, item.IsData := by
  unfold itemsOf
  split
  · cases data with
    | list each => exact each
  · exact List.forall_mem_singleton.mpr data

theorem isItem_iff (value : v = .undefined ∨ v.IsData) (other : item.IsData) :
    isItem v item = true ↔ v.isBool = item.isBool ∧ Agree v.numbered item.numbered := by
  rcases value with rfl | value
  · have never : ¬ Agree (numbered .undefined) item.numbered := Agree.not_undefined
    simp [isItem_undefined other, never]
  · rw [isItem_of_data value, Bool.and_eq_true, beq_iff_eq, same_iff value other]

theorem listed_iff_listsLoosely (value : v = .undefined ∨ v.IsData) (data : parameters.IsData) :
    listed v parameters = true ↔ ListsLoosely parameters v := by
  rw [listed_iff]
  refine exists_congr fun item => and_congr_right fun member => ?_
  exact isItem_iff value (isData_itemsOf data item member)

theorem listsLoosely_of_lists (value : v = .undefined ∨ v.IsData) (lists : Lists parameters v) :
    ListsLoosely parameters v := by
  obtain ⟨item, member, agree⟩ := lists
  rcases value with rfl | value
  · exact absurd agree Agree.not_undefined
  · exact ⟨item, member, agree.isBool_eq, agree.numbered value⟩

theorem lists_of_listsLoosely
    (plain : v.isScalar = true ∨ v.Plain ∧ ∀ item ∈ itemsOf parameters, item.Plain)
    (lists : ListsLoosely parameters v) : Lists parameters v := by
  obtain ⟨item, member, kind, agree⟩ := lists
  refine ⟨item, member, ?_⟩
  rcases plain with scalar | ⟨mine, each⟩
  · -- Only a value without parts agrees with it.
    have shape := agree.isScalar_eq
    rw [isScalar_numbered, isScalar_numbered, scalar] at shape
    exact agree_of_numbered kind (plain_of_isScalar scalar) (plain_of_isScalar shape.symm) agree
  · exact agree_of_numbered kind mine (each item member) agree

theorem allow_skip_sort (value : v = .undefined ∨ v.IsData) (data : parameters.IsData) :
    Sorts parameters v (ListsLoosely parameters v) ∧
      (Lists parameters v → ListsLoosely parameters v) ∧
      ((v.isScalar = true ∨ v.Plain ∧ ∀ item ∈ itemsOf parameters, item.Plain) →
        Sorts parameters v (Lists parameters v)) := by
  have sorts : Sorts parameters v (ListsLoosely parameters v) := by
    rw [← listed_iff_listsLoosely value data]
    exact sorts_listed
  refine ⟨sorts, listsLoosely_of_lists value, fun plain => ?_⟩
  have strict : Lists parameters v ↔ ListsLoosely parameters v :=
    ⟨listsLoosely_of_lists value, lists_of_listsLoosely plain⟩
  rw [strict]
  exact sorts

def loneNumber : Value := .list [.int 1]

theorem allow_skip_sort_loneNumber :
    loneNumber.IsData ∧ loneNumber.Plain ∧ Lists (.list [.bool true, loneNumber]) loneNumber ∧
      runSteps [.modifier "skip" (.list [.bool true, loneNumber]) (some skip),
        .processor "missing" none] loneNumber = .ok (loneNumber, true) := by
  have number : loneNumber.IsData := .list (List.forall_mem_singleton.mpr (.int 1))
  have plain : loneNumber.Plain := .inr rfl
  have data : (Value.list [.bool true, loneNumber]).IsData :=
    .list (List.forall_mem_cons.mpr ⟨.bool true, List.forall_mem_singleton.mpr number⟩)
  have one : Agree (.int 1) (.int 1) := .number rfl rfl ⟨rfl, rfl⟩ rfl
  have lists : Lists (.list [.bool true, loneNumber]) loneNumber :=
    ⟨loneNumber, List.mem_cons_of_mem _ List.mem_cons_self, .list (.cons one .nil)⟩
  have each : ∀ item ∈ itemsOf (.list [.bool true, loneNumber]), item.Plain :=
    List.forall_mem_cons.mpr ⟨.inl rfl, List.forall_mem_singleton.mpr plain⟩
  have sorts := (allow_skip_sort (.inr number) data).2.2 (.inr ⟨plain, each⟩)
  exact ⟨number, plain, lists, sorts.skip_counted lists "skip" _⟩

/-- A truth value inside of a list passes for the number that is listed. -/
theorem allow_skip_sort_inner :
    ¬ Lists (.list [loneNumber]) (.list [.bool true]) ∧
      runSteps [.modifier "skip" (.list [loneNumber]) (some skip), .processor "missing" none]
        (.list [.bool true]) = .ok (.list [.bool true], true) ∧
      runSteps [.modifier "allow" (.list [loneNumber]) (some allow), .processor "missing" none]
        (.list [.bool true]) = .ok (.undefined, false) := by
  refine ⟨?_, rfl, rfl⟩
  rintro ⟨item, member, agree⟩
  cases List.mem_singleton.mp member
  obtain ⟨_, same, items⟩ := Agree.list_iff.mp agree
  cases same
  cases items with
  | cons first rest => cases Agree.bool_iff.mp first

end FieldMap.Modifier
