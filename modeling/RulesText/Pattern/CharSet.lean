import RulesText.Text.Blank
import RulesText.Text.Digit
import RulesText.Text.Word
import RulesText.Text.Case.Fold

/-! Sets of characters, as patterns describe them. -/
namespace RulesText

/-- A set of characters. -/
inductive CharSet where
  | none
  | range (first last : Char)
  | digit
  | word
  | blank
  | compl (a : CharSet)
  | union (a b : CharSet)
  | inter (a b : CharSet)
  /-- With every character also those that differ from it in case only. -/
  | anyCase (a : CharSet)
  deriving DecidableEq, Repr

namespace CharSet

/-- Whether a character belongs to the set. -/
def holds : CharSet → Char → Bool
  | none, _ => false
  | range first last, c => first ≤ c && c ≤ last
  | digit, c => Text.isDigit c
  | word, c => Text.isWord c
  | blank, c => Text.isBlank c
  | compl a, c => !a.holds c
  | union a b, c => a.holds c || b.holds c
  | inter a b, c => a.holds c && b.holds c
  | anyCase a, c => (Text.Case.family c).any a.holds

/-- One character. -/
def one (c : Char) : CharSet := range c c

/-- Every character. -/
def all : CharSet := compl none

/-- The characters of `a` that are not in `b`. -/
def diff (a b : CharSet) : CharSet := inter a (compl b)

/-- The characters that are in exactly one of the two sets. -/
def symmDiff (a b : CharSet) : CharSet := union (diff a b) (diff b a)

/-- The union of a list of sets. -/
def join : List CharSet → CharSet
  | [] => none
  | [a] => a
  | a :: rest => union a (join rest)

end CharSet

end RulesText
