import FieldMap.Proofs.Model

/-!
Operations in place. An operation reads the model and writes to it, and what it has written when it
fails stays written. Every single operation writes once, after everything that can fail, so one that
fails leaves the model as it was. An operation on several entries performs single operations one
after another and ends with the first that fails.
-/

namespace FieldMap
open Outcome

/-- A change of a state in place. When it fails, what it has written stays. -/
abbrev Edit (σ : Type) := ExceptT Fault (StateM σ)

namespace Edit

variable {σ τ α β γ : Type} {s s' : σ} {fault : Fault}

def on (e : Edit σ α) (s : σ) : Except Fault α × σ := e.run.run s

@[simp] theorem on_throw (fault : Fault) (s : σ) :
    (throw fault : Edit σ α).on s = (.error fault, s) := rfl

@[simp] theorem on_lift (x : Except Fault α) (s : σ) : (liftM x : Edit σ α).on s = (x, s) := rfl

@[simp] theorem on_get (s : σ) : (get : Edit σ σ).on s = (.ok s, s) := rfl

@[simp] theorem on_modify (f : σ → σ) (s : σ) : (modify f : Edit σ Unit).on s = (.ok (), f s) := rfl

theorem on_bind (e : Edit σ α) (f : α → Edit σ β) (s : σ) :
    (e >>= f).on s =
      match (e.on s).1 with
      | .ok a => (f a).on (e.on s).2
      | .error fault => (.error fault, (e.on s).2) := by
  simp only [on, ExceptT.run_bind, StateT.run_bind]
  rcases e.run.run s with ⟨_ | a, t⟩ <;> rfl

theorem on_bind_eq_ok {e : Edit σ α} {f : α → Edit σ β} {b : β} :
    (e >>= f).on s = (.ok b, s') ↔ ∃ a t, e.on s = (.ok a, t) ∧ (f a).on t = (.ok b, s') := by
  rw [on_bind]
  rcases e.on s with ⟨_ | a, t⟩ <;> simp

theorem on_bind_eq_error {e : Edit σ α} {f : α → Edit σ β} :
    (e >>= f).on s = (.error fault, s') ↔
      e.on s = (.error fault, s') ∨
        ∃ a t, e.on s = (.ok a, t) ∧ (f a).on t = (.error fault, s') := by
  rw [on_bind]
  rcases e.on s with ⟨_ | a, t⟩ <;> simp

/-! ## Edits that write nothing unless they succeed -/

def ReadsOnly (e : Edit σ α) : Prop := ∀ s, (e.on s).2 = s

/-- An edit that fails has written nothing. -/
def Atomic (e : Edit σ α) : Prop := ∀ s fault s', e.on s = (.error fault, s') → s' = s

theorem readsOnly_pure (a : α) : (pure a : Edit σ α).ReadsOnly := fun _ => rfl

theorem readsOnly_get : (get : Edit σ σ).ReadsOnly := fun _ => rfl

theorem readsOnly_lift (x : Except Fault α) : (liftM x : Edit σ α).ReadsOnly := fun _ => rfl

theorem ReadsOnly.bind {e : Edit σ α} {f : α → Edit σ β} (first : e.ReadsOnly)
    (second : ∀ a, (f a).ReadsOnly) : (e >>= f).ReadsOnly := by
  intro s
  rw [on_bind, first s]
  cases (e.on s).1 with
  | error fault => rfl
  | ok a => exact second a s

theorem atomic_throw (fault : Fault) : (throw fault : Edit σ α).Atomic := by
  intro s other s' fails
  cases fails
  rfl

theorem atomic_modify (f : σ → σ) : (modify f : Edit σ Unit).Atomic := by
  intro s fault s' fails
  cases fails

theorem ReadsOnly.atomic_bind {e : Edit σ α} {f : α → Edit σ β} (first : e.ReadsOnly)
    (second : ∀ a, (f a).Atomic) : (e >>= f).Atomic := by
  intro s fault s' fails
  have stays := first s
  rcases on_bind_eq_error.mp fails with here | ⟨a, t, read, later⟩
  · rw [here] at stays
    exact stays
  · rw [read] at stays
    exact (second a t fault s' later).trans stays

/-! ## Parts of a state -/

structure Part (σ τ : Type) where
  get : σ → τ
  put : σ → τ → σ
  get_put (s : σ) (t : τ) : get (put s t) = t
  put_get (s : σ) : put s (get s) = s
  put_put (s : σ) (t t' : τ) : put (put s t) t' = put s t'

def within (p : Part σ τ) (e : Edit τ α) : Edit σ α :=
  ExceptT.mk fun s =>
    let (outcome, t) := e.on (p.get s)
    (outcome, p.put s t)

theorem on_within (p : Part σ τ) (e : Edit τ α) (s : σ) :
    (within p e).on s = ((e.on (p.get s)).1, p.put s (e.on (p.get s)).2) := rfl

theorem within_bind (p : Part σ τ) (e : Edit τ α) (f : α → Edit τ β) :
    within p (e >>= f) = within p e >>= fun a => within p (f a) := by
  funext s
  change (within p (e >>= f)).on s = (within p e >>= fun a => within p (f a)).on s
  rw [on_within, on_bind, on_bind, on_within]
  dsimp only
  cases (e.on (p.get s)).1 with
  | error fault => rfl
  | ok a => simp only [on_within, p.get_put, p.put_put]

theorem Atomic.within {e : Edit τ α} (atomic : e.Atomic) (p : Part σ τ) : (within p e).Atomic := by
  intro s fault s' fails
  rw [on_within, Prod.mk.injEq] at fails
  obtain ⟨refused, rfl⟩ := fails
  have kept : (e.on (p.get s)).2 = p.get s := atomic (p.get s) fault _ (Prod.ext refused rfl)
  exact (congrArg (p.put s) kept).trans (p.put_get s)

theorem within_forM (p : Part σ τ) (f : γ → Edit τ Unit) (xs : List γ) :
    within p (forM xs f) = forM xs fun x => within p (f x) := by
  induction xs with
  | nil =>
      funext s
      exact congrArg (Prod.mk (Except.ok ())) (p.put_get s)
  | cons x xs ih =>
      rw [List.forM_cons, List.forM_cons, within_bind, ih]

/-! ## One edit for each entry -/

theorem forM_map {δ : Type} (f : γ → δ) (g : δ → Edit σ Unit) (xs : List γ) :
    forM (xs.map f) g = forM xs fun x => g (f x) := by
  induction xs with
  | nil => rfl
  | cons x xs ih => rw [List.map_cons, List.forM_cons, List.forM_cons, ih]

theorem on_forM_eq_error {f : γ → Edit σ Unit} (atomic : ∀ x, (f x).Atomic) {xs : List γ} :
    (forM xs f).on s = (.error fault, s') ↔ ∃ before x after, xs = before ++ x :: after ∧
      (forM before f).on s = (.ok (), s') ∧ (f x).on s' = (.error fault, s') := by
  induction xs generalizing s with
  | nil =>
      constructor
      · nofun
      · rintro ⟨before, x, after, split, -⟩
        simp at split
  | cons x xs ih =>
      rw [List.forM_cons, on_bind_eq_error]
      constructor
      · rintro (fails | ⟨⟨⟩, t, first, later⟩)
        · -- The first edit fails, so the state is still the one before it.
          obtain rfl := atomic x s fault s' fails
          exact ⟨[], x, xs, rfl, rfl, fails⟩
        · obtain ⟨before, y, after, rfl, performed, fails⟩ := ih.mp later
          exact ⟨x :: before, y, after, rfl, on_bind_eq_ok.mpr ⟨(), t, first, performed⟩, fails⟩
      · rintro ⟨before, y, after, split, performed, fails⟩
        cases before with
        | nil =>
            cases split
            cases performed
            exact .inl fails
        | cons z before =>
            cases split
            obtain ⟨_, t, first, rest⟩ := on_bind_eq_ok.mp performed
            exact .inr ⟨(), t, first, ih.mpr ⟨before, y, after, rfl, rest, fails⟩⟩

end Edit

/-! ## Single operations -/

inductive Operation where
  | describe (clause : Value) (own : Except Fault Fields)
  | addContainer (clause : Value) (own : Except Fault Fields) (source : Value)
  | setSource (name : Value) (source : Value)
  | addProcessor (name : Value) (candidate : Candidate Processor)
  | addModifier (name : Value) (candidate : Candidate Modifier)

namespace Edit

def resolve (text : String) (own : Except Fault Fields) : Edit Model (String × Fields) := do
  let parsed := NameClause.parse text
  if parsed.isExtended then
    let inherited ← (← get).templates.overlay text parsed.templates
    let own ← own
    return (parsed.name, inherited.merge own)
  else
    let own ← own
    return (parsed.name, own)

def declaring (clause : Value) (own : Except Fault Fields) (unnamed : String → Fault)
    (write : String → Fields → Model → Model) : Edit Model Unit := do
  let text ← NameClause.textOf clause
  let (name, fields) ← resolve text own
  if name = "" then throw (unnamed text) else modify (write name fields)

def register {α : Type} (name : Value) (candidate : Candidate α) : Edit (Registry α) Unit := do
  let kind := (← get).kind
  if !name.truthy then throw (.incompleteRegistration kind)
  else match candidate with
    | .nothing => throw (.incompleteRegistration kind)
    | .other => do
      let text ← name.written
      throw (.notCallable kind text)
    | .callable f => do
      let key ← Registry.keyOf name
      modify fun r => r.put key f

def processors : Part Model (Registry Processor) where
  get := Model.processors
  put m processors := { m with processors }
  get_put _ _ := rfl
  put_get _ := rfl
  put_put _ _ _ := rfl

def modifiers : Part Model (Registry Modifier) where
  get := Model.modifiers
  put m modifiers := { m with modifiers }
  get_put _ _ := rfl
  put_get _ := rfl
  put_put _ _ _ := rfl

end Edit

namespace Operation
open Edit

def perform : Operation → Edit Model Unit
  | describe clause own =>
    declaring clause own .unnamedTemplate fun name fields m =>
      { m with templates := m.templates.put name fields }
  | addContainer clause own source =>
    declaring clause own .unnamedContainer fun name fields m =>
      { m with containers := m.containers.put name ⟨name, fields, Container.dataOf source⟩ }
  | setSource name source => do
    let name ← Model.containerName name
    match (← get).container? name with
    | none => throw (.unknownContainer name)
    | some c => modify fun m =>
      { m with containers := m.containers.put name (c.withSource source) }
  | addProcessor name candidate => within processors (register name candidate)
  | addModifier name candidate => within modifiers (register name candidate)

end Operation

namespace Edit

theorem readsOnly_resolve (text : String) (own : Except Fault Fields) :
    (resolve text own).ReadsOnly := by
  unfold resolve
  dsimp only
  split
  · exact readsOnly_get.bind fun m => (readsOnly_lift _).bind fun inherited =>
      (readsOnly_lift _).bind fun own => readsOnly_pure _
  · exact (readsOnly_lift _).bind fun own => readsOnly_pure _

theorem atomic_declaring (clause : Value) (own : Except Fault Fields) (unnamed : String → Fault)
    (write : String → Fields → Model → Model) : (declaring clause own unnamed write).Atomic := by
  refine (readsOnly_lift _).atomic_bind fun text => ?_
  refine (readsOnly_resolve text own).atomic_bind fun declared => ?_
  dsimp only
  split
  · exact atomic_throw _
  · exact atomic_modify _

theorem atomic_register {α : Type} (name : Value) (candidate : Candidate α) :
    (register name candidate).Atomic := by
  unfold register
  refine readsOnly_get.atomic_bind fun r => ?_
  dsimp only
  split
  · exact atomic_throw _
  · cases candidate with
    | nothing => exact atomic_throw _
    | other => exact (readsOnly_lift _).atomic_bind fun text => atomic_throw _
    | callable f => exact (readsOnly_lift _).atomic_bind fun key => atomic_modify _

end Edit

theorem Operation.atomic_perform (op : Operation) : op.perform.Atomic := by
  cases op with
  | describe clause own =>
      rw [perform]
      exact Edit.atomic_declaring clause own _ _
  | addContainer clause own source =>
      rw [perform]
      exact Edit.atomic_declaring clause own _ _
  | setSource name source =>
      refine (Edit.readsOnly_lift _).atomic_bind fun name => ?_
      refine Edit.readsOnly_get.atomic_bind fun m => ?_
      cases m.container? name with
      | none => exact Edit.atomic_throw _
      | some c => exact Edit.atomic_modify _
  | addProcessor name candidate =>
      exact (Edit.atomic_register name candidate).within Edit.processors
  | addModifier name candidate =>
      exact (Edit.atomic_register name candidate).within Edit.modifiers

/-! ## Operations on several entries -/

structure Body where
  fields : Except Fault Fields
  source : Value

structure Listed where
  name : Except Fault Value
  body : Except Fault Body

namespace Listed

def ofEntry (entry : Value × Except Fault Body) : Listed := ⟨.ok entry.1, entry.2⟩

def ofDeclaration (d : Declaration) : Listed where
  name :=
    match d.name with
    | some name => .ok name
    | none => .error (.missingKey "name")
  body := .ok ⟨.ok d.fields, d.source⟩

def operation (d : Listed) : Except Fault Operation := do
  let name ← d.name
  let body ← d.body
  return .addContainer name body.fields body.source

end Listed

namespace Edit

def declare (d : Listed) : Edit Model Unit := do
  let name ← d.name
  let body ← d.body
  (Operation.addContainer name body.fields body.source).perform

def addListed (ds : List Listed) : Edit Model Unit := forM ds declare

def declareEntry (entry : Value × Except Fault Body) : Edit Model Unit := do
  let body ← entry.2
  (Operation.addContainer entry.1 body.fields body.source).perform

def addMapped (entries : List (Value × Except Fault Body)) : Edit Model Unit :=
  forM entries declareEntry

def registerAll {α : Type} (offers : List (Value × Candidate α)) :
    Edit (Registry α) Unit :=
  forM offers fun offer => register offer.1 offer.2

def performRead (op : Except Fault Operation) : Edit Model Unit := do
  let op ← op
  op.perform

def performAll (ops : List (Except Fault Operation)) : Edit Model Unit := forM ops performRead

def StopsAt (m : Model) (ops : List (Except Fault Operation)) (fault : Fault) (m' : Model) : Prop :=
  ∃ (done : List Operation) (op : Except Fault Operation) (after : List (Except Fault Operation)),
    ops = done.map .ok ++ op :: after ∧
      (forM done Operation.perform).on m = (.ok (), m') ∧
      (op = .error fault ∨ ∃ next, op = .ok next ∧ next.perform.on m' = (.error fault, m'))

variable {m m' : Model} {fault : Fault}

theorem addListed_eq (ds : List Listed) : addListed ds = performAll (ds.map Listed.operation) := by
  rw [performAll, forM_map, addListed]
  congr 1
  funext ⟨name, body⟩
  cases name with
  | error fault => rfl
  | ok name => cases body <;> rfl

theorem addMapped_eq (entries : List (Value × Except Fault Body)) :
    addMapped entries = addListed (entries.map Listed.ofEntry) := by
  rw [addListed, forM_map, addMapped]
  rfl

theorem within_processors_registerAll (offers : List (Value × Candidate Processor)) :
    within processors (registerAll offers) =
      performAll (offers.map fun offer => .ok (.addProcessor offer.1 offer.2)) := by
  rw [performAll, forM_map, registerAll, within_forM]
  rfl

theorem within_modifiers_registerAll (offers : List (Value × Candidate Modifier)) :
    within modifiers (registerAll offers) =
      performAll (offers.map fun offer => .ok (.addModifier offer.1 offer.2)) := by
  rw [performAll, forM_map, registerAll, within_forM]
  rfl

theorem atomic_performRead (op : Except Fault Operation) : (performRead op).Atomic :=
  (readsOnly_lift op).atomic_bind Operation.atomic_perform

theorem performRead_ok (op : Operation) : performRead (.ok op) = op.perform := rfl

theorem on_performRead_error (fault : Fault) (m : Model) :
    (performRead (.error fault)).on m = (.error fault, m) := rfl

theorem on_performAll_eq_ok {ops : List (Except Fault Operation)} :
    (performAll ops).on m = (.ok (), m') ↔
      ∃ done : List Operation, ops = done.map .ok ∧
        (forM done Operation.perform).on m = (.ok (), m') := by
  induction ops generalizing m with
  | nil => simp [performAll]
  | cons op ops ih =>
      rw [performAll, List.forM_cons, on_bind_eq_ok]
      constructor
      · rintro ⟨⟨⟩, t, first, rest⟩
        obtain ⟨done, rfl, performed⟩ := ih.mp rest
        cases op with
        | error fault =>
            rw [on_performRead_error] at first
            cases first
        | ok op =>
            rw [performRead_ok] at first
            exact ⟨op :: done, rfl, on_bind_eq_ok.mpr ⟨(), t, first, performed⟩⟩
      · rintro ⟨done, split, performed⟩
        cases done with
        | nil => cases split
        | cons next done =>
            cases split
            obtain ⟨_, t, first, rest⟩ := on_bind_eq_ok.mp performed
            exact ⟨(), t, first, ih.mpr ⟨done, rfl, rest⟩⟩

theorem on_performRead_eq_error {op : Except Fault Operation} :
    (performRead op).on m = (.error fault, m) ↔
      op = .error fault ∨ ∃ next, op = .ok next ∧ next.perform.on m = (.error fault, m) := by
  cases op with
  | error other => simp [on_performRead_error]
  | ok op => simp [performRead_ok]

theorem on_performAll_eq_error {ops : List (Except Fault Operation)} :
    (performAll ops).on m = (.error fault, m') ↔ StopsAt m ops fault m' := by
  rw [performAll, on_forM_eq_error atomic_performRead]
  constructor
  · rintro ⟨before, op, after, rfl, good, fails⟩
    obtain ⟨done, rfl, performed⟩ := on_performAll_eq_ok.mp good
    exact ⟨done, op, after, rfl, performed, on_performRead_eq_error.mp fails⟩
  · rintro ⟨done, op, after, rfl, performed, fails⟩
    exact ⟨_, op, after, rfl, on_performAll_eq_ok.mpr ⟨done, rfl, performed⟩,
      on_performRead_eq_error.mpr fails⟩

/-! ## Operations in place and operations that give another model -/

def of (f : σ → Except Fault σ) : Edit σ Unit :=
  ExceptT.mk fun s =>
    match f s with
    | .ok s' => (.ok (), s')
    | .error fault => (.error fault, s)

theorem on_of {σ : Type} (f : σ → Except Fault σ) (s : σ) :
    (of f).on s = match f s with
      | .ok s' => (.ok (), s')
      | .error fault => (.error fault, s) := rfl

theorem ext {σ α : Type} {e e' : Edit σ α} (same : ∀ s, e.on s = e'.on s) : e = e' := funext same

theorem register_eq_of {α : Type} (name : Value) (candidate : Candidate α) :
    register name candidate = of fun r => r.registerUnder name candidate := by
  refine ext fun r => ?_
  unfold register Registry.registerUnder
  rw [on_bind, on_get, on_of]
  dsimp only
  split
  · rfl
  · cases candidate with
    | nothing => rfl
    | other =>
        simp only [on_bind, on_lift]
        cases name.written <;> rfl
    | callable f =>
        simp only [on_bind, on_lift]
        cases Registry.keyOf name <;> rfl

theorem on_resolve (text : String) (own : Fields) (m : Model) :
    (resolve text (.ok own)).on m = (m.templates.resolve text own, m) := by
  unfold resolve Templates.resolve
  dsimp only
  split
  · simp only [on_bind, on_get, on_lift]
    cases m.templates.overlay text (NameClause.parse text).templates <;> rfl
  · rfl

theorem declaring_eq_of (clause : Value) (own : Fields) (unnamed : String → Fault)
    (write : String → Fields → Model → Model) :
    declaring clause (.ok own) unnamed write = of fun m => do
      let text ← NameClause.textOf clause
      let (name, fields) ← m.templates.resolve text own
      if name = "" then throw (unnamed text) else return write name fields m := by
  refine ext fun m => ?_
  rw [declaring, on_of, on_bind, on_lift]
  cases NameClause.textOf clause with
  | error fault => rfl
  | ok text =>
      simp only [on_bind, on_resolve, ok_bind]
      rcases m.templates.resolve text own with fault | ⟨name, fields⟩
      · rfl
      · by_cases nameless : name = "" <;> simp [nameless]

theorem within_of (p : Part σ τ) (f : τ → Except Fault τ) :
    within p (of f) = of fun s => (f (p.get s)).map (p.put s) := by
  refine ext fun s => ?_
  rw [on_within, on_of, on_of]
  cases f (p.get s) with
  | error fault => exact congrArg (Prod.mk _) (p.put_get s)
  | ok t => rfl

end Edit

namespace Model

variable (m : Model)

theorem addProcessorUnder_eq (name : Value) (candidate : Candidate Processor) :
    m.addProcessorUnder name candidate =
      (m.processors.registerUnder name candidate).map (Edit.processors.put m) := by
  rw [addProcessorUnder]
  cases m.processors.registerUnder name candidate <;> rfl

theorem addModifierUnder_eq (name : Value) (candidate : Candidate Modifier) :
    m.addModifierUnder name candidate =
      (m.modifiers.registerUnder name candidate).map (Edit.modifiers.put m) := by
  rw [addModifierUnder]
  cases m.modifiers.registerUnder name candidate <;> rfl

end Model

def Operation.apply? : Operation → Option (Model → Except Fault Model)
  | describe clause own => own.toOption.map fun own m => do
    m.describe (← NameClause.textOf clause) own
  | addContainer clause own source => own.toOption.map fun own m => do
    m.addContainer (← NameClause.textOf clause) own source
  | setSource name source => some fun m => do m.setSource (← Model.containerName name) source
  | addProcessor name candidate => some fun m => m.addProcessorUnder name candidate
  | addModifier name candidate => some fun m => m.addModifierUnder name candidate

theorem Operation.perform_eq_of {op : Operation} {f : Model → Except Fault Model}
    (readable : op.apply? = some f) : op.perform = Edit.of f := by
  cases op with
  | describe clause own =>
      obtain ⟨own, given, rfl⟩ := Option.map_eq_some_iff.mp readable
      obtain rfl := toOption_eq_some.mp given
      rw [perform, Edit.declaring_eq_of]
      refine congrArg Edit.of (funext fun m => ?_)
      cases NameClause.textOf clause with
      | error fault => rfl
      | ok text => exact (m.describe_eq text own).symm
  | addContainer clause own source =>
      obtain ⟨own, given, rfl⟩ := Option.map_eq_some_iff.mp readable
      obtain rfl := toOption_eq_some.mp given
      rw [perform, Edit.declaring_eq_of]
      refine congrArg Edit.of (funext fun m => ?_)
      cases NameClause.textOf clause with
      | error fault => rfl
      | ok text => exact (m.addContainer_eq text own source).symm
  | setSource name source =>
      cases readable
      refine Edit.ext fun m => ?_
      rw [perform, Edit.on_of, Edit.on_bind, Edit.on_lift]
      cases Model.containerName name with
      | error fault => rfl
      | ok name =>
          simp only [Edit.on_bind, Edit.on_get, ok_bind, Model.setSource, Model.requireContainer]
          cases declared : m.container? name <;> simp
  | addProcessor name candidate =>
      cases readable
      rw [perform, Edit.register_eq_of, Edit.within_of]
      exact congrArg Edit.of (funext fun m => (m.addProcessorUnder_eq name candidate).symm)
  | addModifier name candidate =>
      cases readable
      rw [perform, Edit.register_eq_of, Edit.within_of]
      exact congrArg Edit.of (funext fun m => (m.addModifierUnder_eq name candidate).symm)

namespace Edit

def ofOffer {α : Type} (offer : Option String × Candidate α) : Value × Candidate α :=
  (Registry.nameOf offer.1, offer.2)

theorem swap_on_registerAll {α : Type} (r : Registry α)
    (offers : List (Option String × Candidate α)) :
    ((registerAll (offers.map ofOffer)).on r).swap = r.registerAll offers := by
  induction offers generalizing r with
  | nil => rfl
  | cons offer offers ih =>
      obtain ⟨name, candidate⟩ := offer
      rw [List.map_cons, registerAll, List.forM_cons, register_eq_of, on_bind, on_of,
        Registry.registerAll, ofOffer, Registry.register]
      cases r.registerUnder (Registry.nameOf name) candidate with
      | error fault => rfl
      | ok r' => exact ih r'

theorem declare_ofDeclaration (d : Declaration) :
    declare (.ofDeclaration d) = of fun m => m.declare d := by
  obtain ⟨name, fields, source⟩ := d
  refine ext fun m => ?_
  cases name with
  | none => rfl
  | some name =>
      have performed : (Operation.addContainer name (.ok fields) source).perform = of _ :=
        Operation.perform_eq_of rfl
      exact congrArg (on · m) performed

theorem swap_on_addListed (m : Model) (ds : List Declaration) :
    ((addListed (ds.map .ofDeclaration)).on m).swap = m.addContainers ds := by
  induction ds generalizing m with
  | nil => rfl
  | cons d ds ih =>
      rw [List.map_cons, addListed, List.forM_cons, declare_ofDeclaration, on_bind, on_of,
        Model.addContainers]
      cases m.declare d with
      | error fault => rfl
      | ok m' => exact ih m'

/-- A single operation that fails leaves the model as it was. An operation on several entries leaves
what the entries before the first that fails lead to, one by one; declarations may be given in a list
or as a mapping. What these operations do in place is what the operations on a model give. -/
theorem failed_unwritten :
    (∀ (op : Operation) (m : Model) fault m', op.perform.on m = (.error fault, m') → m' = m) ∧
    (∀ ds (m : Model) fault m', (addListed ds).on m = (.error fault, m') ↔
      StopsAt m (ds.map Listed.operation) fault m') ∧
    (∀ entries, addMapped entries = addListed (entries.map .ofEntry)) ∧
    (∀ offers (m : Model) fault m',
      (within processors (registerAll offers)).on m = (.error fault, m') ↔
        StopsAt m (offers.map fun offer => .ok (.addProcessor offer.1 offer.2)) fault m') ∧
    (∀ offers (m : Model) fault m',
      (within modifiers (registerAll offers)).on m = (.error fault, m') ↔
        StopsAt m (offers.map fun offer => .ok (.addModifier offer.1 offer.2)) fault m') ∧
    (∀ (op : Operation) f, op.apply? = some f → op.perform = of f) ∧
    (∀ (m : Model) ds, ((addListed (ds.map .ofDeclaration)).on m).swap = m.addContainers ds) ∧
    ∀ (α : Type) (r : Registry α) offers,
      ((registerAll (offers.map ofOffer)).on r).swap = r.registerAll offers := by
  refine ⟨Operation.atomic_perform, ?_, addMapped_eq, ?_, ?_, fun _ _ => Operation.perform_eq_of,
    swap_on_addListed, fun _ => swap_on_registerAll⟩
  · intro ds m fault m'
    rw [addListed_eq, on_performAll_eq_error]
  · intro offers m fault m'
    rw [within_processors_registerAll, on_performAll_eq_error]
  · intro offers m fault m'
    rw [within_modifiers_registerAll, on_performAll_eq_error]

def shelf : List Listed :=
  ["a", "b extends gone", "c"].map fun name =>
    .ofDeclaration ⟨some (.text name), .ofList [("x", some "int")], .null⟩

theorem failed_unwritten_shelf : ∃ m',
    (addListed shelf).on (.new (.apart .null)) = (.error (.unknownTemplate "gone" "b extends gone"), m') ∧
      StopsAt (.new (.apart .null)) (shelf.map Listed.operation)
        (.unknownTemplate "gone" "b extends gone") m' ∧
      m'.containers.names = ["a"] ∧
      (Operation.setSource (.text "b") .null).perform.on m' = (.error (.unknownContainer "b"), m') := by
  obtain ⟨single, listed, -⟩ := failed_unwritten
  have stops : ((addListed shelf).on (.new (.apart .null))).1 =
    .error (.unknownTemplate "gone" "b extends gone") := by decide +kernel
  have stopped := Prod.ext stops (Eq.refl ((addListed shelf).on (.new (.apart .null))).2)
  have names : ((addListed shelf).on (.new (.apart .null))).2.containers.names = ["a"] := by decide +kernel
  refine ⟨_, stopped, (listed _ _ _ _).mp stopped, names, ?_⟩
  have refused : ((Operation.setSource (.text "b") .null).perform.on
    ((addListed shelf).on (.new (.apart .null))).2).1 = .error (.unknownContainer "b") := by decide +kernel
  exact Prod.ext refused (single _ _ _ _ (Prod.ext refused rfl))

end Edit

end FieldMap
