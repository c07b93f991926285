import RulesText.Text.Blank

/-! Cutting text: trimming, splitting at a character, and taking a text apart into its lines. -/
namespace RulesText.Text

/-- Drops the trailing characters that satisfy `p`. -/
def dropEnd (p : Char → Bool) (cs : List Char) : List Char :=
  (cs.reverse.dropWhile p).reverse

/-- Removes white space from the end. -/
def trimEndChars (cs : List Char) : List Char := dropEnd isBlank cs

/-- Removes white space from both ends. -/
def trimChars (cs : List Char) : List Char := trimEndChars (cs.dropWhile isBlank)

/-- Removes white space from both ends. -/
def trim (s : String) : String := String.ofList (trimChars s.toList)

/-- Removes white space from the end. -/
def trimEnd (s : String) : String := String.ofList (trimEndChars s.toList)

/-- The pieces between the characters that satisfy `p`: always one more than there are such
characters. -/
def splitChars (p : Char → Bool) : List Char → List (List Char)
  | [] => [[]]
  | c :: rest =>
    match splitChars p rest with
    | [] => [[c]]
    | piece :: more => if p c then [] :: piece :: more else (c :: piece) :: more

/-- The pieces of a text between the characters that satisfy `p`. -/
def split (p : Char → Bool) (s : String) : List String :=
  (splitChars p s.toList).map String.ofList

/-- The lines of a text. A line ends at a line feed, together with one carriage return right before
it; what follows the last line feed counts as a line only if it is not empty. -/
def lines (s : String) : List String :=
  let pieces := splitChars (· == '\n') s.toList
  let closed := pieces.dropLast.map fun cs =>
    match cs.reverse with
    | '\r' :: rest => rest.reverse
    | _ => cs
  let tail := pieces.getLast?.getD []
  (closed ++ if tail.isEmpty then [] else [tail]).map String.ofList

/-- Splits at the first white space: what stands before it and what stands after it. -/
def cutAtBlank (s : String) : Option (String × String) :=
  match s.toList.span (!isBlank ·) with
  | (_, []) => none
  | (head, _ :: rest) => some (String.ofList head, String.ofList rest)

end RulesText.Text
