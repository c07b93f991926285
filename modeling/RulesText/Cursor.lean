import RulesText.Line

/-! Cursors: reading positions in a list of lines that can step over whole branches. -/
namespace RulesText

/-- Whether a node line and the line after it open a branch: the second is the condition marker of
the first. -/
def opensBranch (l next : Line) : Bool :=
  l.symbol?.isSome && next.tag == l.tag && next.marker? == some .conditionStart

/-- Whether the first of these lines opens a branch. -/
def startsBranch : List Line → Bool
  | l :: next :: _ => opensBranch l next
  | _ => false

/-- Counts the branches of a tag that are open from here on, starting with `depth` of them; the
number of lines up to the end that leaves none open. -/
def closingAfter (tag : String) : Nat → List Line → Option Nat
  | _, [] => none
  | depth, l :: rest =>
    if l.tag != tag then (closingAfter tag depth rest).map (· + 1)
    else if startsBranch (l :: rest) then (closingAfter tag (depth + 1) rest).map (· + 1)
    else if l.isEnd then
      if depth ≤ 1 then some 0 else (closingAfter tag (depth - 1) rest).map (· + 1)
    else (closingAfter tag depth rest).map (· + 1)

/-- The index of the line that closes the branch opened at an index. -/
def branchEnd? (ls : List Line) (start : Nat) : Option Nat :=
  match ls.drop start with
  | l :: rest => if startsBranch (l :: rest) then
      (closingAfter l.tag 0 (l :: rest)).map (start + ·) else none
  | [] => none

/-- A position in a list of lines. -/
structure Cursor where
  lines : List Line
  position : Nat := 0

namespace Cursor

def isDone (c : Cursor) : Bool := c.lines.length ≤ c.position

/-- The line at the position. -/
def peek? (c : Cursor) : Option Line := c.lines[c.position]?

/-- The line at the position, and the cursor past it. -/
def advance (c : Cursor) : Option Line × Cursor :=
  match c.peek? with
  | some l => (some l, { c with position := c.position + 1 })
  | none => (none, c)

/-- Moves to a position, but not past the end. -/
def seek (c : Cursor) (position : Nat) : Cursor :=
  { c with position := min position c.lines.length }

/-- The first line of the condition of the branch opened here. -/
def firstCondition? (c : Cursor) : Option Line :=
  if startsBranch (c.lines.drop c.position) then
    c.lines[c.position + 2]?.filter (·.marker? != some .resultStart)
  else none

/-- Steps over the branch opened here, if one is and it is closed. -/
def skipBranch (c : Cursor) : Bool × Cursor :=
  match branchEnd? c.lines c.position with
  | some i => (true, { c with position := i + 1 })
  | none => (false, c)

end Cursor

end RulesText
