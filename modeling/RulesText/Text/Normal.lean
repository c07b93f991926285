import RulesText.Text.Trim
import RulesText.Text.Case.Lower

/-! The normal form of a text: trimmed and in lower case. Rules only ever see normal texts. -/
namespace RulesText.Text

/-- Trims and lowers a list of characters. -/
def normalChars (cs : List Char) : List Char := Case.lower (trimChars cs)

/-- Trims and lowers a text. -/
def normalize (s : String) : String := String.ofList (normalChars s.toList)

end RulesText.Text
