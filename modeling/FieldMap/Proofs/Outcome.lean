import Mathlib.Data.List.Forall2

/-!
Outcomes of steps that may fail, taken apart: a sequence of steps succeeds when every step does, and
fails with the fault of the first step that fails. So what holds of the faults of every step holds of
the faults of a sequence, and what holds of the result of a step can be used for the steps after it.
-/

namespace FieldMap.Outcome

universe u v

variable {ε : Type u} {α β : Type v}

@[simp] theorem ok_bind (a : α) (f : α → Except ε β) : (Except.ok a >>= f) = f a := rfl

@[simp] theorem error_bind (e : ε) (f : α → Except ε β) :
    (Except.error e >>= f) = Except.error e := rfl

@[simp] theorem pure_eq (a : α) : (pure a : Except ε α) = .ok a := rfl

@[simp] theorem throw_eq (e : ε) : (throw e : Except ε α) = .error e := rfl

theorem bind_eq_ok {x : Except ε α} {f : α → Except ε β} {b : β} :
    x >>= f = .ok b ↔ ∃ a, x = .ok a ∧ f a = .ok b := by
  cases x <;> simp

theorem bind_eq_error {x : Except ε α} {f : α → Except ε β} {e : ε} :
    x >>= f = .error e ↔ x = .error e ∨ ∃ a, x = .ok a ∧ f a = .error e := by
  cases x <;> simp

@[simp] theorem map_ok (f : α → β) (a : α) : (Except.ok a : Except ε α).map f = .ok (f a) := rfl

@[simp] theorem map_error (f : α → β) (e : ε) :
    (Except.error e : Except ε α).map f = .error e := rfl

@[simp] theorem isOk_ok (a : α) : (Except.ok a : Except ε α).isOk = true := rfl

@[simp] theorem isOk_error (e : ε) : (Except.error e : Except ε α).isOk = false := rfl

theorem map_eq_ok {f : α → β} {x : Except ε α} {b : β} :
    x.map f = .ok b ↔ ∃ a, x = .ok a ∧ f a = b := by
  cases x <;> simp

theorem map_eq_error {f : α → β} {x : Except ε α} {e : ε} : x.map f = .error e ↔ x = .error e := by
  cases x <;> simp

theorem isOk_bind {x : Except ε α} {f : α → Except ε β} (first : x.isOk = true)
    (second : ∀ a, (f a).isOk = true) : (x >>= f).isOk = true := by
  cases x with
  | ok a => exact second a
  | error e => exact first

theorem toOption_eq_some {x : Except ε α} {a : α} : x.toOption = some a ↔ x = .ok a := by
  cases x <;> simp [Except.toOption]

theorem exists_of_isOk {x : Except ε α} (returns : x.isOk = true) : ∃ a, x = .ok a := by
  cases x with
  | ok a => exact ⟨a, rfl⟩
  | error e => cases returns

@[simp] theorem mapError_ok {ε' : Type u} (f : ε → ε') (a : α) :
    (Except.ok a : Except ε α).mapError f = .ok a := rfl

@[simp] theorem mapError_error {ε' : Type u} (f : ε → ε') (e : ε) :
    (Except.error e : Except ε α).mapError f = .error (f e) := rfl

theorem mapError_eq_error {ε' : Type u} {f : ε → ε'} {x : Except ε α} {e : ε'} :
    x.mapError f = .error e ↔ ∃ cause, x = .error cause ∧ f cause = e := by
  cases x <;> simp

theorem mapM_eq_ok_map {γ : Type v} {f : γ → Except ε β} {g : γ → β} {xs : List γ}
    (each : ∀ x ∈ xs, f x = .ok (g x)) : xs.mapM f = .ok (xs.map g) := by
  induction xs with
  | nil => rfl
  | cons x xs ih =>
      have others := ih fun y member => each y (List.mem_cons_of_mem x member)
      simp [each x List.mem_cons_self, others]

theorem mapM_eq_ok_congr {γ : Type v} {f g : γ → Except ε β} {xs : List γ} {ys : List β}
    (same : ∀ x ∈ xs, ∀ y, f x = .ok y ↔ g x = .ok y) : xs.mapM f = .ok ys ↔ xs.mapM g = .ok ys := by
  induction xs generalizing ys with
  | nil => rfl
  | cons x xs ih =>
      have others (zs : List β) : xs.mapM f = .ok zs ↔ xs.mapM g = .ok zs :=
        ih fun y member => same y (List.mem_cons_of_mem x member)
      simp only [List.mapM_cons, bind_eq_ok, same x List.mem_cons_self, others]

theorem mapM_eq_ok_iff_forall₂ {γ : Type v} {f : γ → Except ε β} {xs : List γ} {ys : List β} :
    xs.mapM f = .ok ys ↔ List.Forall₂ (fun x y => f x = .ok y) xs ys := by
  induction xs generalizing ys with
  | nil => simp [eq_comm]
  | cons x xs ih =>
      simp only [List.mapM_cons, bind_eq_ok, pure_eq, Except.ok.injEq, List.forall₂_cons_left_iff, ih]
      constructor
      · rintro ⟨y, first, rest, others, rfl⟩
        exact ⟨y, rest, first, others, rfl⟩
      · rintro ⟨y, rest, first, others, rfl⟩
        exact ⟨y, first, rest, others, rfl⟩

theorem mapM_eq_error {γ : Type v} {f : γ → Except ε β} {xs : List γ} {e : ε} :
    xs.mapM f = .error e ↔ ∃ before x after, xs = before ++ x :: after ∧
      (∀ y ∈ before, ∃ b, f y = .ok b) ∧ f x = .error e := by
  induction xs with
  | nil => simp
  | cons x xs ih =>
      rw [List.mapM_cons, bind_eq_error]
      constructor
      · rintro (here | ⟨b, first, later⟩)
        · exact ⟨[], x, xs, rfl, by simp, here⟩
        · rcases bind_eq_error.mp later with fails | ⟨bs, -, absurd⟩
          · obtain ⟨before, y, after, rfl, good, fault⟩ := ih.mp fails
            refine ⟨x :: before, y, after, rfl, ?_, fault⟩
            intro z member
            rcases List.mem_cons.mp member with rfl | inside
            · exact ⟨b, first⟩
            · exact good z inside
          · cases absurd
      · rintro ⟨before, y, after, split, good, fault⟩
        cases before with
        | nil =>
            cases split
            exact .inl fault
        | cons z before =>
            cases split
            obtain ⟨b, first⟩ := good x List.mem_cons_self
            have others := fun z inside => good z (List.mem_cons_of_mem x inside)
            have fails := ih.mpr ⟨before, y, after, rfl, others, fault⟩
            exact .inr ⟨b, first, by rw [fails]; rfl⟩

section Questions

variable {γ : Type v} {f : γ → Except ε Bool} {xs : List γ}

theorem allM_eq_stop {answer : Except ε Bool} (stops : answer ≠ .ok true) :
    xs.allM f = answer ↔ ∃ before x after, xs = before ++ x :: after ∧
      (∀ y ∈ before, f y = .ok true) ∧ f x = answer := by
  induction xs with
  | nil => simp [stops.symm]
  | cons x xs ih =>
      rw [List.allM_cons]
      constructor
      · intro h
        by_cases first : f x = .ok true
        · rw [first] at h
          obtain ⟨before, y, after, rfl, trues, last⟩ := ih.mp h
          exact ⟨x :: before, y, after, rfl, List.forall_mem_cons.mpr ⟨first, trues⟩, last⟩
        · refine ⟨[], x, xs, rfl, by simp, ?_⟩
          cases here : f x with
          | error e => rwa [here] at h
          | ok b =>
              rw [here] at h first
              cases b
              · exact h
              · contradiction
      · rintro ⟨before, y, after, split, trues, last⟩
        cases before with
        | nil =>
            cases split
            rw [last]
            cases answer with
            | error e => rfl
            | ok b =>
                cases b
                · rfl
                · contradiction
        | cons z before =>
            cases split
            rw [trues x List.mem_cons_self]
            have others := fun z inside => trues z (List.mem_cons_of_mem x inside)
            exact ih.mpr ⟨before, y, after, rfl, others, last⟩

theorem anyM_eq_not_allM :
    xs.anyM f = (xs.allM fun x => (f x).map not).map not := by
  induction xs with
  | nil => rfl
  | cons x xs ih =>
      rw [List.anyM_cons, List.allM_cons, ih]
      cases f x with
      | error e => rfl
      | ok b => cases b <;> rfl

theorem map_not_eq {x y : Except ε Bool} : x.map not = y ↔ x = y.map not := by
  cases x <;> cases y <;> simp [Except.map, Bool.not_eq_eq_eq_not]

theorem anyM_eq_stop {answer : Except ε Bool} (stops : answer ≠ .ok false) :
    xs.anyM f = answer ↔ ∃ before x after, xs = before ++ x :: after ∧
      (∀ y ∈ before, f y = .ok false) ∧ f x = answer := by
  have stopped : answer.map not ≠ .ok true := fun same => stops (map_not_eq.mp same)
  have twice : (answer.map not).map not = answer := (map_not_eq.mp rfl).symm
  rw [anyM_eq_not_allM, map_not_eq, allM_eq_stop stopped]
  simp only [map_not_eq, twice]
  rfl

/-- An item that an answer depends on: the items before it in its list are true, and the lists before
that one are not. -/
def Asked {δ : Type v} (items : δ → List γ) (f : γ → Except ε Bool) (lists : List δ) (x : γ) :
    Prop :=
  ∃ before list after, lists = before ++ list :: after ∧
    (∀ other ∈ before, (items other).allM f = .ok false) ∧
    ∃ earlier later, items list = earlier ++ x :: later ∧ ∀ y ∈ earlier, f y = .ok true

theorem anyM_allM_eq_error {δ : Type v} {items : δ → List γ} {lists : List δ} {e : ε} :
    (lists.anyM fun list => (items list).allM f) = .error e ↔
      ∃ x, Asked items f lists x ∧ f x = .error e := by
  refine (anyM_eq_stop (by nofun)).trans ?_
  constructor
  · rintro ⟨before, list, after, split, fails, refuses⟩
    obtain ⟨earlier, x, later, items, hold, last⟩ := (allM_eq_stop (by nofun)).mp refuses
    exact ⟨x, ⟨before, list, after, split, fails, earlier, later, items, hold⟩, last⟩
  · rintro ⟨x, ⟨before, list, after, split, fails, earlier, later, items, hold⟩, last⟩
    have refuses := (allM_eq_stop (by nofun)).mpr ⟨earlier, x, later, items, hold, last⟩
    exact ⟨before, list, after, split, fails, refuses⟩

end Questions

def FailsOnly (P : ε → Prop) (x : Except ε α) : Prop :=
  ∀ e, x = .error e → P e

namespace FailsOnly

variable {P : ε → Prop}

theorem ok (a : α) : FailsOnly P (.ok a : Except ε α) := nofun

theorem error {e : ε} (holds : P e) : FailsOnly P (.error e : Except ε α) := by
  intro other h
  cases h
  exact holds

theorem bind {x : Except ε α} {f : α → Except ε β} (first : FailsOnly P x)
    (second : ∀ a, FailsOnly P (f a)) : FailsOnly P (x >>= f) := by
  intro e h
  rcases bind_eq_error.mp h with fails | ⟨a, -, fails⟩
  · exact first e fails
  · exact second a e fails

theorem mapM {γ : Type v} {f : γ → Except ε β} {xs : List γ} (each : ∀ x ∈ xs, FailsOnly P (f x)) :
    FailsOnly P (xs.mapM f) := by
  intro e h
  obtain ⟨before, x, after, rfl, -, fails⟩ := mapM_eq_error.mp h
  exact each x (List.mem_append_right before List.mem_cons_self) e fails

theorem mono {Q : ε → Prop} {x : Except ε α} (fails : FailsOnly P x) (implies : ∀ e, P e → Q e) :
    FailsOnly Q x :=
  fun e h => implies e (fails e h)

theorem map {x : Except ε α} (fails : FailsOnly P x) (f : α → β) : FailsOnly P (x.map f) :=
  fun e h => fails e (map_eq_error.mp h)

theorem foldlM {σ γ : Type v} {f : σ → γ → Except ε σ} (each : ∀ s x, FailsOnly P (f s x))
    (xs : List γ) (s : σ) : FailsOnly P (xs.foldlM f s) := by
  induction xs generalizing s with
  | nil => exact ok s
  | cons x xs ih =>
      rw [List.foldlM_cons]
      exact bind (each s x) ih

end FailsOnly

def ReturnsOnly (P : α → Prop) (x : Except ε α) : Prop :=
  ∀ a, x = .ok a → P a

namespace ReturnsOnly

variable {P : α → Prop} {Q : β → Prop}

theorem ok {a : α} (holds : P a) : ReturnsOnly P (.ok a : Except ε α) := by
  intro other h
  cases h
  exact holds

theorem error (e : ε) : ReturnsOnly P (.error e : Except ε α) := nofun

theorem bind {x : Except ε α} {f : α → Except ε β} (first : ReturnsOnly P x)
    (second : ∀ a, P a → ReturnsOnly Q (f a)) : ReturnsOnly Q (x >>= f) := by
  intro b h
  obtain ⟨a, returns, rest⟩ := bind_eq_ok.mp h
  exact second a (first a returns) b rest

theorem any (x : Except ε α) : ReturnsOnly (fun _ => True) x := fun _ _ => trivial

theorem mapM {γ : Type v} {f : γ → Except ε α} {xs : List γ}
    (each : ∀ x ∈ xs, ReturnsOnly P (f x)) : ReturnsOnly (fun as => ∀ a ∈ as, P a) (xs.mapM f) := by
  intro as h
  have pairs := mapM_eq_ok_iff_forall₂.mp h
  clear h
  induction pairs with
  | nil => exact nofun
  | cons first _ ih =>
      obtain ⟨here, later⟩ := List.forall_mem_cons.mp each
      exact List.forall_mem_cons.mpr ⟨here _ first, ih later⟩

end ReturnsOnly

end FieldMap.Outcome
