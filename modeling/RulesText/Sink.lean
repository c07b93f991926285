/-!
Sinks: output that can be held back. What is pushed goes to the innermost held frame, or to the
output if nothing is held; a splice closes the innermost frame into the one beneath it.
-/
namespace RulesText

variable {α : Type}

/-- The output so far and the held frames, the innermost first. -/
structure Sink (α : Type) where
  output : List α := []
  frames : List (List α) := []
  deriving DecidableEq, Repr

namespace Sink

/-- What is being written to: the innermost frame, or the output. -/
def target (s : Sink α) : List α := s.frames.headD s.output

/-- Replaces what is being written to. -/
def setTarget (s : Sink α) (xs : List α) : Sink α :=
  match s.frames with
  | [] => ⟨xs, []⟩
  | _ :: rest => ⟨s.output, xs :: rest⟩

def push (s : Sink α) (a : α) : Sink α := s.setTarget (s.target ++ [a])

/-- Opens a frame. -/
def hold (s : Sink α) : Sink α := ⟨s.output, [] :: s.frames⟩

/-- Closes the innermost frame right after an entry of the target beneath it; an index past the end
appends. Also gives how many entries moved, which is none if nothing was held. -/
def spliceAfter (s : Sink α) (index : Nat) : Nat × Sink α :=
  match s.frames with
  | [] => (0, s)
  | frame :: rest =>
    let beneath : Sink α := ⟨s.output, rest⟩
    let xs := beneath.target
    (frame.length, beneath.setTarget (xs.take (index + 1) ++ frame ++ xs.drop (index + 1)))

def isHolding (s : Sink α) : Bool := !s.frames.isEmpty

def depth (s : Sink α) : Nat := s.frames.length

/-- The innermost held frame. -/
def held (s : Sink α) : List α := s.frames.headD []

/-- The length of what is being written to. -/
def length (s : Sink α) : Nat := s.target.length

/-- Everything still held, the outermost frame first. -/
def leftover (s : Sink α) : List α := s.frames.reverse.flatten

/-- The output followed by everything still held. -/
def finish (s : Sink α) : List α := s.output ++ s.leftover

end Sink

end RulesText
