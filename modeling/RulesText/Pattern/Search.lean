import RulesText.Pattern.Basic

/-!
Searching a text for a pattern. The first match in order of preference at the leftmost place wins.

A repetition or a joint leaves a mark when it is passed, and marks last until the next character is
taken: a search that comes back to a mark has gone round without progress and is given up.
-/
namespace RulesText

/-- The stretch of text from one offset up to another. -/
structure Span where
  start : Nat
  stop : Nat
  deriving DecidableEq, Repr

/-- The stretches noted for the groups of a pattern. -/
abbrev Groups := List (Nat × Span)

namespace Groups

/-- Notes a stretch for a group in place of an earlier one. -/
def put (gs : Groups) (index : Nat) (span : Span) : Groups :=
  (index, span) :: gs.filter (·.1 != index)

def get? (gs : Groups) (index : Nat) : Option Span := gs.lookup index

end Groups

/-- A place in a text during a search: the character before it, the text after it, its offset, the
marks passed since the last character, and the groups noted so far. -/
structure Spot where
  before : Option Char
  rest : List Char
  offset : Nat
  marks : List Nat := []
  groups : Groups := []

namespace Spot

/-- Takes the next character. -/
def step (s : Spot) (c : Char) (rest : List Char) : Spot :=
  ⟨some c, rest, s.offset + 1, [], s.groups⟩

/-- Leaves a mark, unless it has been left since the last character. -/
def mark (s : Spot) (m : Nat) : Option Spot :=
  if s.marks.contains m then none else some { s with marks := m :: s.marks }

/-- Notes the stretch from `start` to here for a group. -/
def note (s : Spot) (index start : Nat) : Spot :=
  { s with groups := s.groups.put index ⟨start, s.offset⟩ }

end Spot

/-- Whether a condition holds between two neighbouring characters. -/
def Edge.holds (e : Edge) (before after : Option Char) : Bool :=
  let left := before.any Text.isWord
  let right := after.any Text.isWord
  match e with
  | textStart => before.isNone
  | textEnd => after.isNone
  | lineStart => before.all (· == '\n')
  | lineEnd => after.all (· == '\n')
  | word => left != right
  | noWord => left == right
  | wordStart => !left && right
  | wordEnd => left && !right
  | wordStartHalf => !left
  | wordEndHalf => !right

/-- What is left to be matched after a part of a pattern. -/
abbrev Goal := Spot → Option Groups

namespace Pattern

/-- The two ways on from a repetition, in order of preference. -/
def prefer (greedy : Bool) (more enough : Unit → Option Groups) : Option Groups :=
  if greedy then (more ()).orElse enough else (enough ()).orElse more

/-- Zero or more of `body`. The first argument bounds how often it can still be matched. -/
def runStar (body : Goal → Goal) (loop : Nat) (greedy : Bool) (goal : Goal) : Nat → Goal
  | fuel, s =>
    match s.mark (2 * loop) with
    | none => none
    | some s =>
      match fuel with
      | 0 => goal s
      | fuel + 1 =>
        prefer greedy (fun _ => body (runStar body loop greedy goal fuel) s) (fun _ => goal s)

/-- One or more of `body`. The first argument bounds how often it can still be matched. -/
def runPlus (body : Goal → Goal) (loop : Nat) (greedy : Bool) (goal : Goal) : Nat → Goal
  | fuel, s =>
    match s.mark (2 * loop) with
    | none => none
    | some s =>
      body (fun s =>
        match s.mark (2 * loop + 1) with
        | none => none
        | some s =>
          match fuel with
          | 0 => goal s
          | fuel + 1 =>
            prefer greedy (fun _ => runPlus body loop greedy goal fuel s) (fun _ => goal s)) s

/-- Matches a pattern at a place and goes on to the goal, taking the first way that reaches it. -/
def run : Pattern → Goal → Goal
  | empty, goal, s => goal s
  | char set, goal, s =>
    match s.rest with
    | [] => none
    | c :: rest => if set.holds c then goal (s.step c rest) else none
  | edge e, goal, s => if e.holds s.before s.rest.head? then goal s else none
  | cat p q, goal, s => p.run (q.run goal) s
  | alt p q, goal, s => (p.run goal s).orElse fun _ => q.run goal s
  | group i p, goal, s => p.run (fun t => goal (t.note i s.offset)) s
  | opt greedy p, goal, s => prefer greedy (fun _ => p.run goal s) (fun _ => goal s)
  | star loop greedy p, goal, s => runStar p.run loop greedy goal s.rest.length s
  | plus loop greedy p, goal, s => runPlus p.run loop greedy goal s.rest.length s
  | joint m p, goal, s => p.run (fun t => (t.mark (2 * m)).bind goal) s

/-- The groups of the match at this very place; group 0 is the whole match. -/
def matchAt (p : Pattern) (before : Option Char) (rest : List Char) (offset : Nat) :
    Option Groups :=
  p.run (fun t => some (t.note 0 offset).groups) ⟨before, rest, offset, [], []⟩

/-- The groups of the match at the first place, from here on, that has one. -/
def searchFrom (p : Pattern) (before : Option Char) (offset : Nat) : List Char → Option Groups
  | [] => p.matchAt before [] offset
  | c :: rest => (p.matchAt before (c :: rest) offset).orElse fun _ =>
    p.searchFrom (some c) (offset + 1) rest

/-- The groups of the leftmost match. -/
def search (p : Pattern) (cs : List Char) : Option Groups := p.searchFrom none 0 cs

end Pattern

/-- The texts of the groups of a match. -/
structure Captures where
  text : List Char
  groups : Groups

namespace Captures

/-- The characters of a group that took part in the match. -/
def chars? (c : Captures) (index : Nat) : Option (List Char) :=
  (c.groups.get? index).map fun span => (c.text.drop span.start).take (span.stop - span.start)

/-- The text of a group that took part in the match; group 0 is the whole match. -/
def group? (c : Captures) (index : Nat) : Option String := (c.chars? index).map String.ofList

end Captures

end RulesText
