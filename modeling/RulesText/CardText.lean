import RulesText.Datum
import RulesText.Pattern.Matcher
import RulesText.Text.Normal

/-! The text of a card as it comes in. -/
namespace RulesText

/-- The text of a card. -/
inductive CardText where
  | absent
  /-- A placeholder that some sources put in place of a text. -/
  | flag (b : Bool)
  | lines (ls : List String)
  deriving DecidableEq, Repr

/-- The texts that say that a card has no rules. -/
def notApplicable : Matcher := .ofSource "^n\\s*/\\s*a$"

namespace CardText

def toLines : CardText → List String
  | lines ls => ls
  | absent | flag _ => []

/-- The first line in normal form. -/
def firstLine? (t : CardText) : Option String := t.toLines.head?.map Text.normalize

/-- The lines put together with spaces. -/
def joined (t : CardText) : String := " ".intercalate t.toLines

/-- Whether a card with this text has nothing to do. -/
def isNull : CardText → Bool
  | absent | flag _ => true
  | lines ls => ls.isEmpty || notApplicable.accepts (Text.normalize (" ".intercalate ls))

def datum : CardText → Datum
  | absent => .null
  | flag b => .bool b
  | lines ls => .ofTexts ls

end CardText

end RulesText
