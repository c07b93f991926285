import RulesText.Cards.Lexicon
import RulesText.Casebook.Basic

/-! The cases of the standard card grammar. -/
namespace RulesText.Cards

/-- The source of texts that are one clause spread over several lines. -/
def abilitySource : String := "ability"

/-- Reads each line and puts what is not blank into a sequence. -/
def sequence (l : Lexicon) (texts : List String) : Outcome (Option Symbol) := do
  let symbols ← l.lexAll texts
  some <$> seq.constructSequence (symbols.map .symbol) none

/-- A single line is its own root; several lines make a sequence. -/
def lineByLine : Logic
  | l, [text] => l.lex text
  | l, texts => sequence l texts

/-- Reads all lines as one clause. -/
def oneClause : Logic := fun l texts => l.lex (" ".intercalate texts)

/-- The rest of the first line and all further lines are what happens while the condition holds. -/
def whileResolvingLines : PatternLogic := fun l texts groups => do
  let condition ← l.lexValue (groups.group? 1)
  let result ← sequence l ((groups.group? 2).getD "" :: texts.drop 1)
  let text := Text.normalize (" ".intercalate texts)
  some <$> whileResolving.construct [condition, .ofSymbol? result] (some text)

/-- The standard cases over a lexicon. -/
def casebookOver (l : Lexicon) : Casebook :=
  { lexicon := l
    sources := [(abilitySource, oneClause)]
    patterns := [(.ofSource "^while resolving ([^,]+),\\s*(.*)$", whileResolvingLines)]
    fallback := some lineByLine }

/-- The standard cases over the standard rules. -/
def casebook : Casebook := casebookOver lexicon

end RulesText.Cards
