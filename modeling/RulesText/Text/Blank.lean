import RulesText.Text.Ranges

/-!
White space: the characters that separate words and that trimming removes.
-/
namespace RulesText.Text

/-- The code points with the White_Space property. -/
def blankRanges : Ranges := [
  (0x9, 0xD), (0x20, 0x20), (0x85, 0x85), (0xA0, 0xA0), (0x1680, 0x1680),
  (0x2000, 0x200A), (0x2028, 0x2029), (0x202F, 0x202F), (0x205F, 0x205F), (0x3000, 0x3000)]

/-- Whether a character is white space. -/
def isBlank (c : Char) : Bool := blankRanges.holds c.toNat

end RulesText.Text
