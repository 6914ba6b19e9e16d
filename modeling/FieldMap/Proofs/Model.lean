import FieldMap.Model.Reading
import FieldMap.Proofs.Catalog
import FieldMap.Proofs.Outcome

/-!
What the operations of a model do: when they succeed, and what they leave as it was.
-/

namespace FieldMap
open Outcome

namespace Model

variable {m m' : Model} {clause : String} {own : Fields} {source : Value}

theorem describe_eq (m : Model) (clause : String) (own : Fields) :
    m.describe clause own = do
      let (name, fields) ← m.templates.resolve clause own
      if name = "" then throw (.unnamedTemplate clause)
      else return { m with templates := m.templates.put name fields } := by
  unfold describe Templates.describe
  rcases m.templates.resolve clause own with fault | ⟨name, fields⟩
  · rfl
  · by_cases nameless : name = "" <;> simp [nameless]

theorem addContainer_eq (m : Model) (clause : String) (own : Fields) (source : Value) :
    m.addContainer clause own source = do
      let (name, fields) ← m.templates.resolve clause own
      if name = "" then throw (.unnamedContainer clause)
      else return { m with
        containers := m.containers.put name ⟨name, fields, Container.dataOf source⟩ } := by
  unfold addContainer
  rcases m.templates.resolve clause own with fault | ⟨name, fields⟩
  · rfl
  · by_cases nameless : name = "" <;> simp [nameless]

theorem describe_eq_ok :
    m.describe clause own = .ok m' ↔ ∃ name fields,
      m.templates.resolve clause own = .ok (name, fields) ∧ name ≠ "" ∧
        m' = { m with templates := m.templates.put name fields } := by
  rw [describe_eq]
  rcases m.templates.resolve clause own with fault | ⟨name, fields⟩
  · simp
  · by_cases nameless : name = ""
    · simp [nameless]
    · simpa [nameless] using eq_comm

theorem addContainer_eq_ok :
    m.addContainer clause own source = .ok m' ↔ ∃ name fields,
      m.templates.resolve clause own = .ok (name, fields) ∧ name ≠ "" ∧
        m' = { m with
          containers := m.containers.put name ⟨name, fields, Container.dataOf source⟩ } := by
  rw [addContainer_eq]
  rcases m.templates.resolve clause own with fault | ⟨name, fields⟩
  · simp
  · by_cases nameless : name = ""
    · simp [nameless]
    · simpa [nameless] using eq_comm

theorem setSource_eq_ok {name : String} :
    m.setSource name source = .ok m' ↔ ∃ c, m.container? name = some c ∧
      m' = { m with containers := m.containers.put name (c.withSource source) } := by
  unfold setSource requireContainer
  cases m.container? name with
  | none => simp
  | some c => simpa using eq_comm

theorem setSource_again {name : String} (replaced : m.setSource name source = .ok m') :
    m'.setSource name = m.setSource name := by
  obtain ⟨c, declared, rfl⟩ := setSource_eq_ok.mp replaced
  have stands : (m.containers.put name (c.withSource source)).get? name =
      some (c.withSource source) := by
    rw [Catalog.get?_put, if_pos rfl]
  funext later
  simp only [setSource, requireContainer, container?, stands]
  rw [container?] at declared
  simp only [declared, ok_bind, Catalog.put_put]
  rfl

theorem container?_setSource_self {name : String} (replaced : m.setSource name source = .ok m') :
    m'.container? name = (m.container? name).map (·.withSource source) := by
  obtain ⟨c, declared, rfl⟩ := setSource_eq_ok.mp replaced
  rw [declared]
  exact (Catalog.get?_put ..).trans (if_pos rfl)

theorem container?_setSource {name key : String} (replaced : m.setSource name source = .ok m')
    (differ : key ≠ name) : m'.container? key = m.container? key := by
  obtain ⟨c, -, rfl⟩ := setSource_eq_ok.mp replaced
  exact (Catalog.get?_put ..).trans (if_neg differ)

theorem fieldsOf?_setSource {name : String} (replaced : m.setSource name source = .ok m') :
    m'.fieldsOf? = m.fieldsOf? := by
  funext key
  by_cases same : key = name
  · obtain ⟨c, declared, rfl⟩ := setSource_eq_ok.mp replaced
    have put := Catalog.get?_put m.containers name key (c.withSource source)
    rw [if_pos same] at put
    rw [fieldsOf?, fieldsOf?, container?, put, same, declared]
    rfl
  · rw [fieldsOf?, fieldsOf?, container?_setSource replaced same]

end Model

end FieldMap
