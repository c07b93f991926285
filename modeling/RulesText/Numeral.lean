import RulesText.Text.Digit

/-! Numerals: digit strings that denote a signed 64-bit integer. -/
namespace RulesText

/-- The number that a list of ASCII digits denotes in base ten. -/
def decimalValue (cs : List Char) : Nat := cs.foldl (fun n c => 10 * n + (c.toNat - 48)) 0

/-- The largest signed 64-bit integer. -/
def maxNumeral : Nat := 0x7fffffffffffffff

/-- The integer a text denotes: only a non-empty string of ASCII digits within the 64-bit range is
a numeral, whatever its length. -/
def numeral? (s : String) : Option Int64 :=
  let cs := s.toList
  if cs.isEmpty || !cs.all Text.isAsciiDigit then none
  else if decimalValue cs ≤ maxNumeral then some (Int64.ofNat (decimalValue cs)) else none

end RulesText
