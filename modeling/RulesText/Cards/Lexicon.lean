import RulesText.Cards.Variants
import RulesText.Lexicon.Basic

/-! The rules of the standard card grammar. Clauses come before the phrases they are made of. -/
namespace RulesText.Cards

/-- "gain 2 clues" has no subject: it is the investigator who resolves the card. -/
def imperativeGain : Constructor := fun read groups text => do
  let subject ← currInvestigator.terminal none
  let resource ← read.value (groups.group? 1)
  some <$> gain.construct [.symbol subject, resource] (some text)

def noOpRule : Rule :=
  { variant := noOp, inclusion := .ofSource "^(?:-|none|no effect)\\.?$" }

def whileResolvingRule : Rule :=
  { variant := whileResolving
    inclusion := .ofSource "^while resolving ([^,]+),\\s*(.+?)\\.?$"
    captures := [.lex 1, .lex 2] }

def mayRule : Rule :=
  { variant := may
    inclusion := .ofSource "^(.+?) may (?:(.+?) to )?(.+?)\\.?$"
    captures := [.lex 1, .lex 2, .lex 3] }

def imperativeGainRule : Rule :=
  { variant := gain
    inclusion := .ofSource "^gains? (.+?)\\.?$"
    custom := some imperativeGain }

def gainRule : Rule :=
  { variant := gain
    inclusion := .ofSource "^(.+?) gains? (.+?)\\.?$"
    exclusions := [.ofSource "\\bmay\\b"]
    captures := [.lex 1, .lex 2] }

def quantityRule : Rule :=
  { variant := quantity
    inclusion := .ofSource "^(\\d+) (.+?)$"
    captures := [.lex 1, .lex 2] }

def skillRule : Rule :=
  { variant := skill
    inclusion := .ofSource "^(willpower|intellect|combat|agility)$"
    captures := [.text 1] }

def currInvestigatorRule : Rule :=
  { variant := currInvestigator, inclusion := .ofSource "^(?:you|your investigator)$" }

def spellEffectsRule : Rule :=
  { variant := spellEffects, inclusion := .ofSource "^(?:a )?spell effects?$" }

/-- The standard rules; text that none accepts is kept as text. -/
def lexicon : Lexicon :=
  { rules := [noOpRule, whileResolvingRule, mayRule, imperativeGainRule, gainRule, quantityRule,
      skillRule, currInvestigatorRule, spellEffectsRule]
    fallback := some text }

end RulesText.Cards
