import RulesText.Effect
import RulesText.Line
import RulesText.Sink
import RulesText.TagSet

/-! Emitters: where the lines of one flattening are written. -/
namespace RulesText

/-- Whether conditions are framed by markers. -/
inductive Policy where
  /-- The node, its condition and its result, each set off by a marker. -/
  | expand
  /-- The node and its result only. -/
  | collapse
  deriving DecidableEq, Repr

/-- What a handler reports about its own run, for whoever looks into it. -/
inductive Note where
  | scalar (v : Option Scalar)
  | spliced (count : Nat)
  | probe (tag : String) (indent : Int) (length : Nat) (holding : Bool) (output : Nat)
      (policy : Policy)
  | debug (text : String)
  deriving DecidableEq

/-- The state of one flattening: its policy, its lines, the tags met if they are recorded, and the
notes of handlers. -/
structure Emitter where
  policy : Policy
  sink : Sink Line := {}
  tags : Option TagSet := none
  notes : List Note := []

/-- A step of a flattening. What was written before a fault stays written. -/
abbrev Emit := Effect Emitter

namespace Emit

def policy : Emit Policy := do return (← get).policy

def push (l : Line) : Emit Unit := modify fun e => { e with sink := e.sink.push l }

def node (s : Symbol) (indent : Int) : Emit Unit := push (.node s indent)

def marker (tag : String) (m : Marker) (indent : Int) : Emit Unit := push (.marker tag m indent)

def param (tag name : String) (value : Option Scalar) (indent : Int) : Emit Unit :=
  push (.param tag name value indent)

def hold : Emit Unit := modify fun e => { e with sink := e.sink.hold }

def spliceAfter (index : Nat) : Emit Nat := do
  let (count, sink) := (← get).sink.spliceAfter index
  modify ({ · with sink })
  return count

/-- The number of lines in what is being written to. -/
def length : Emit Nat := do return (← get).sink.length

/-- Notes a tag, if tags are recorded. -/
def record (tag : String) : Emit Unit :=
  modify fun e => { e with tags := e.tags.map (·.insert tag) }

def note (n : Note) : Emit Unit := modify fun e => { e with notes := e.notes ++ [n] }

def fail {β : Type} (c : Cause) : Emit β := throw ⟨c, none⟩

/-- Adds a frame to the fault of a step, if it has one. -/
def inFrame {β : Type} (frame : String) (step : Emit β) : Emit β :=
  ExceptT.mk ((Outcome.inFrame · frame) <$> step.run)

end Emit

end RulesText
