import RulesText.Inspect

/-! Scripts: handlers written as data. -/
namespace RulesText

/-- What a step of a script does. -/
inductive Action where
  /-- Writes the node without these fields. -/
  | node (strip : List String)
  /-- Writes another symbol, which may turn out not to be one. -/
  | emit (s : Outcome Symbol)
  | marker (m : Marker)
  /-- Writes one field as a parameter line. -/
  | param (field : String)
  | params
  /-- Flattens one field and notes the leaf it gives back. -/
  | flatten (field : String)
  | conditionRule
  /-- Remembers the length of what is being written to. -/
  | mark
  | hold
  /-- Closes the innermost frame after an index, or after the length remembered last. -/
  | splice (index : Option Nat)
  | probe
  | debug
  | fail (detail : String)

/-- A step of a script, with its depth below the node. -/
structure Step where
  action : Action
  inset : Int := 0

/-- Steps in order. -/
abbrev Script := List Step

/-- Does one step, with the lengths remembered so far, the last one first. -/
def Step.run (s : Site) (marks : List Nat) (step : Step) : Emit (List Nat) := do
  let indent := s.indent + step.inset
  match step.action with
  | .node strip => do Emit.node (s.node.withoutAll strip) indent; return marks
  | .emit (.ok symbol) => do Emit.node symbol indent; return marks
  | .emit (.error f) => throw f
  | .marker m => do Emit.marker s.tag m indent; return marks
  | .param field => do
    Emit.param s.tag field ((s.node.get? field).bind Value.scalar?) indent
    return marks
  | .params => do s.paramsRule indent; return marks
  | .flatten field => do
    let v ← s.flatten field indent
    Emit.note (.scalar v)
    return marks
  | .conditionRule => do s.conditionRule indent; return marks
  | .mark => return (← Emit.length) :: marks
  | .hold => do Emit.hold; return marks
  | .splice index => do
    let count ← Emit.spliceAfter (index.getD (marks.headD 0))
    Emit.note (.spliced count)
    return if index.isSome then marks else marks.drop 1
  | .probe => do
    let e ← get
    Emit.note (.probe s.tag s.indent e.sink.length e.sink.isHolding e.sink.output.length e.policy)
    return marks
  | .debug => do
    Emit.note (.debug (Inspect.emitter (← get)))
    return marks
  | .fail detail => Emit.fail (.malformed detail)

namespace Script

/-- Does the steps in order. -/
def run (s : Site) : List Nat → Script → Emit Unit
  | _, [] => pure ()
  | marks, step :: rest => do
    let marks ← step.run s marks
    run s marks rest

/-- The handler that follows a script. -/
def handler (script : Script) : Handler := fun s => run s [] script

end Script

end RulesText
