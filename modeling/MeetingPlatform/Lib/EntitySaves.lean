import Mathlib.Tactic.Common

/- The save of an entity: it loads the stored row first, and its UPDATE names the columns in which the
   entity differs from what was loaded. What others wrote before the load is taken for a change of the
   entity; what they wrote after it is written over in those columns only. -/
namespace EntitySaves
variable {α : Type} [DecidableEq α] {entity stored row : α}

/-- A column is written where the entity differs from the row that the save has loaded. -/
def savedColumn (entity stored row : α) : α := if entity = stored then row else entity

@[simp] theorem savedColumn_same : savedColumn stored stored row = row := if_pos rfl

theorem savedColumn_changed (changed : entity ≠ stored) : savedColumn entity stored row = entity :=
  if_neg changed

@[simp] theorem savedColumn_at_once : savedColumn entity stored stored = entity := by
  by_cases same : entity = stored
  · rw [same, savedColumn_same]
  · rw [savedColumn_changed same]

theorem savedColumn_cases (entity stored row : α) :
    savedColumn entity stored row = row ∨ savedColumn entity stored row = entity := by
  by_cases same : entity = stored
  · rw [same, savedColumn_same]
    exact Or.inl rfl
  · exact Or.inr (savedColumn_changed same)

end EntitySaves
