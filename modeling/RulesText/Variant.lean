/-! Variants: what a family of symbols looks like. -/
namespace RulesText

/-- How a symbol takes part in the structure of a tree. -/
inductive Shape where
  /-- Does nothing and gives no line. -/
  | noOp
  /-- An ordered list of children. -/
  | sequence
  /-- A condition and a result. -/
  | condition
  /-- Any other node. -/
  | plain
  deriving DecidableEq, Repr

/-- A family of symbols: its tag, its shape and the payload fields it declares, in order. -/
structure Variant where
  tag : String
  shape : Shape
  fields : List String
  deriving DecidableEq, Repr

/-- The field of a condition that holds what has to be met. -/
def conditionField : String := "condition"

/-- The field of a condition that holds what then happens. -/
def resultField : String := "result"

/-- The only field of a sequence. -/
def symbolsField : String := "symbols"

namespace Variant

/-- A variant without payload that does nothing. -/
def noOp (tag : String) : Variant := ⟨tag, .noOp, []⟩

/-- A variant whose one field lists the children. -/
def sequence (tag : String) : Variant := ⟨tag, .sequence, [symbolsField]⟩

/-- A variant that guards a result by a condition. -/
def condition (tag : String) (fields : List String) : Variant := ⟨tag, .condition, fields⟩

/-- A variant of ordinary nodes. -/
def plain (tag : String) (fields : List String) : Variant := ⟨tag, .plain, fields⟩

end Variant

end RulesText
