/-!
Ascending tables of code points. A table is a list of closed ranges in ascending order, so a search
stops at the first range that begins past the code point.
-/
namespace RulesText.Text

/-- Closed ranges of code points, in ascending order. -/
abbrev Ranges := List (Nat × Nat)

/-- Whether a code point lies in one of the ranges. -/
def Ranges.holds : Ranges → Nat → Bool
  | [], _ => false
  | (first, last) :: rest, n =>
    if n < first then false else if n ≤ last then true else Ranges.holds rest n

/-- A run of code points that all move by the same offset: every `step`-th one from `first` to
`last`. -/
structure Run where
  first : Nat
  last : Nat
  step : Nat
  offset : Int
  deriving DecidableEq

namespace Run

/-- Whether the run moves this code point. -/
def covers (r : Run) (n : Nat) : Bool :=
  r.first ≤ n && n ≤ r.last && (n - r.first) % r.step == 0

/-- Where the run sends a code point that it covers. -/
def image (r : Run) (n : Nat) : Nat := ((n : Int) + r.offset).toNat

end Run

/-- Moves a code point by the first run that covers it; runs are listed by ascending `first`. -/
def shift? : List Run → Nat → Option Nat
  | [], _ => none
  | r :: rest, n =>
    if n < r.first then none else if r.covers n then some (r.image n) else shift? rest n

/-- Moves a code point by a table of runs, and leaves it alone if no run covers it. -/
def shift (runs : List Run) (n : Nat) : Nat := (shift? runs n).getD n

/-- All code points that a table of runs sends to `n`. -/
def sources (runs : List Run) (n : Nat) : List Nat :=
  runs.filterMap fun r =>
    let m := ((n : Int) - r.offset).toNat
    if r.covers m && r.image m == n then some m else none

end RulesText.Text
