import RulesText.Effect

/-! Staged components: open for registration until their first use, and closed ever after. -/
namespace RulesText

/-- A table that is registered on and then frozen into the form in which it is used. -/
class Component (α : Type) where
  /-- What the component is called. -/
  name : String
  Frozen : Type
  /-- Freezes the table; there is no form if that breaks off in the middle. -/
  freeze : α → Option Frozen
  /-- What can be registered. -/
  Registration : Type
  /-- Enters a registration into the table. -/
  enter : Registration → Effect α Unit

/-- A component that is registered on until it is first used. -/
inductive Staged (α : Type) [Component α] where
  | building (table : α)
  | frozen (form : Component.Frozen α)
  /-- The table has been taken out to be frozen, and its form never came. -/
  | poisoned

namespace Staged

variable {α β : Type} [Component α]

/-- Whether the component has been used. -/
def isFrozen : Staged α → Bool
  | building _ => false
  | frozen _ | poisoned => true

/-- Registers something on an open component. -/
def register (what : String) (step : Effect α β) : Effect (Staged α) β := fun s =>
  match s with
  | building table =>
    let (o, table) := step.run table
    (o, building table)
  | frozen _ | poisoned => (fail (.frozen (Component.name α) what), s)

/-- Freezes a component that is still open. -/
def settle : Staged α → Staged α
  | building table =>
    match Component.freeze table with
    | some form => frozen form
    | none => poisoned
  | s => s

/-- What is there to be used, if the component has been frozen. -/
def form? : Staged α → Option (Component.Frozen α)
  | frozen form => some form
  | building _ | poisoned => none

/-- The form of the component; the first use freezes it. Nothing is given if that has broken off. -/
def use (s : Staged α) : Option (Component.Frozen α) × Staged α := (s.settle.form?, s.settle)

end Staged

end RulesText
