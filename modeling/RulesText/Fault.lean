import RulesText.Text.Quoted

/-! Faults: why a step of the work failed, and where. -/
namespace RulesText

/-- Why something failed. -/
inductive Cause where
  /-- Something was registered on a component that is already in use. -/
  | frozen (component what : String)
  /-- No rule accepts a text. -/
  | unrecognized (text : String)
  /-- A tree holds a value that cannot stand where it does. -/
  | malformed (detail : String)
  /-- A line carries nested structure. -/
  | nonFlat (detail : String)
  /-- A pattern cannot be read. -/
  | badPattern (pattern message : String)
  /-- A symbol was given the wrong number of values. -/
  | arity (tag : String) (expected actual : Nat)
  /-- An archive cannot be read. -/
  | badArchive (detail : String)
  /-- A file or the terminal cannot be used. -/
  | device (detail : String)
  /-- Reading a text comes back to a text that it has not cut shorter. -/
  | endless (text : String)
  deriving DecidableEq, Repr

namespace Cause

/-- What is said about a cause. -/
def message : Cause → String
  | frozen component what => "cannot register " ++ what ++ " on " ++ component ++ " after first use"
  | unrecognized text => "unrecognized input: " ++ Text.quoted text
  | malformed detail => "malformed symbol tree: " ++ detail
  | nonFlat detail => "non-flat symbol sequence: " ++ detail
  | badPattern pattern msg => "invalid pattern " ++ Text.quoted pattern ++ ": " ++ msg
  | arity tag expected actual =>
    "arity mismatch for " ++ tag ++ ": expected " ++ toString expected ++ " fields, got " ++
      toString actual
  | badArchive detail => "serialization error: " ++ detail
  | device detail => "I/O error: " ++ detail
  | endless text => "endless reading of " ++ Text.quoted text

/-- An unrecognized text concerns that text only; every other cause stops the whole work. -/
def isFatal : Cause → Bool
  | unrecognized _ => false
  | _ => true

end Cause

/-- Where something failed: the source and the text at work, and the frames that were open, from the
innermost to the outermost. -/
structure Context where
  source : Option String := none
  text : Option String := none
  stack : List String := []
  deriving DecidableEq, Repr

namespace Context

/-- What is said about a context. -/
def display (c : Context) : String :=
  (match c.source with | some s => "in source " ++ s | none => "") ++
  (match c.text with | some t => " for " ++ Text.quoted t | none => "") ++
  (if c.stack.isEmpty then ""
   else "\n" ++ String.join (c.stack.map fun frame => "  in " ++ frame ++ "\n"))

end Context

/-- A cause with what is known about its place. -/
structure Fault where
  cause : Cause
  context : Option Context := none
  deriving DecidableEq, Repr

namespace Fault

def message (f : Fault) : String := f.cause.message

def isFatal (f : Fault) : Bool := f.cause.isFatal

/-- Replaces the context. -/
def withContext (f : Fault) (c : Context) : Fault := ⟨f.cause, some c⟩

/-- Notes that the fault passed through a frame on its way out. -/
def inFrame (f : Fault) (frame : String) : Fault :=
  let c := f.context.getD {}
  f.withContext ⟨c.source, c.text, c.stack ++ [frame]⟩

/-- Notes the source and the text at work, unless an inner step has noted its own. -/
def located (f : Fault) (source text : String) : Fault :=
  let c := f.context.getD {}
  f.withContext ⟨c.source <|> some source, c.text <|> some text, c.stack⟩

end Fault

/-- The outcome of work that may fail. -/
abbrev Outcome (α : Type) := Except Fault α

/-- Fails without a context. -/
def fail {α : Type} (c : Cause) : Outcome α := .error ⟨c, none⟩

/-- Adds a frame to the fault, if there is one. -/
def Outcome.inFrame {α : Type} (o : Outcome α) (frame : String) : Outcome α :=
  o.mapError (·.inFrame frame)

theorem Outcome.of_bind_ok {α β : Type} {o : Outcome α} {f : α → Outcome β} {b : β}
    (h : o >>= f = .ok b) : ∃ a, o = .ok a ∧ f a = .ok b := by
  cases o with
  | error e => cases h
  | ok a => exact ⟨a, rfl, h⟩

theorem Outcome.of_map_ok {α β : Type} {o : Outcome α} {f : α → β} {b : β}
    (h : f <$> o = .ok b) : ∃ a, o = .ok a ∧ f a = b := by
  cases o with
  | error e => cases h
  | ok a => exact ⟨a, rfl, Except.ok.inj h⟩

end RulesText
