import RulesText.Variant

/-! The variants of the standard card grammar. -/
namespace RulesText.Cards

/-- The field that names who acts. -/
def subjectField : String := "subject"

def noOp : Variant := .noOp "NO_OP"

def seq : Variant := .sequence "SEQ"

def gain : Variant := .plain "GAIN" [subjectField, "resource"]

def quantity : Variant := .plain "QUANTITY" ["num", "type"]

def skill : Variant := .plain "SKILL" ["skill"]

/-- The investigator who resolves the card. -/
def currInvestigator : Variant := .plain "CURR_INVESTIGATOR" []

def spellEffects : Variant := .plain "SPELL_EFFECTS" []

def may : Variant := .condition "MAY" [subjectField, conditionField, resultField]

def whileResolving : Variant := .condition "WHILE_RESOLVING" [conditionField, resultField]

/-- Text that no rule understands. -/
def text : Variant := .plain "TEXT" []

def variants : List Variant :=
  [noOp, seq, gain, quantity, skill, currInvestigator, spellEffects, may, whileResolving, text]

/-- The standard variant with that tag. -/
def variant? (tag : String) : Option Variant := variants.find? (·.tag == tag)

end RulesText.Cards
