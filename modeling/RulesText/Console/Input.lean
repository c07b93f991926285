import RulesText.Text.Trim
import RulesText.Fault

/-! Inputs: what is typed, put together where a line ends in a backslash. -/
namespace RulesText

/-- What one reading from the terminal gives. -/
inductive Event where
  | line (s : String)
  | interrupted
  | ended
  | failed (f : Fault)
  deriving DecidableEq, Repr

/-- A complete input. -/
inductive Input where
  | lines (ls : List String)
  /-- An interruption; `begun` tells whether lines were thrown away. -/
  | cancelled (begun : Bool)
  | fault (f : Fault)
  | ended
  deriving DecidableEq, Repr

/-- An input and how many readings it took. -/
structure Gathered where
  input : Input
  readings : Nat
  deriving DecidableEq, Repr

namespace Input

/-- Whether a line asks for another one. -/
def isOpen (cs : List Char) : Bool := (Text.trimEndChars cs).getLast? == some '\\'

/-- A line without trailing blanks and backslashes. -/
def clean (cs : List Char) : List Char :=
  Text.trimEndChars (Text.dropEnd (· == '\\') (Text.trimEndChars cs))

/-- The lines in what was read at once, and whether the last of them asks for another. -/
def parts (s : String) : List String × Bool :=
  let pieces := Text.splitChars (· == '\n') s.toList
  (pieces.map (String.ofList <| clean ·), (pieces.getLast?.map isOpen).getD false)

/-- The fault of an input that ends in the middle. -/
def unfinished : Fault := ⟨.device "unexpected EOF in continued input", none⟩

/-- Puts readings together into inputs, with the lines and the number of readings of the input that
is being put together. -/
def gather (pending : List String) (readings : Nat) : List Event → List Gathered
  | [] =>
    if pending.isEmpty then [⟨.ended, readings + 1⟩]
    else [⟨.fault unfinished, readings + 1⟩, ⟨.ended, 1⟩]
  | .line s :: rest =>
    let (ls, more) := parts s
    if more then gather (pending ++ ls) (readings + 1) rest
    else ⟨.lines (pending ++ ls), readings + 1⟩ :: gather [] 0 rest
  | .interrupted :: rest => ⟨.cancelled (!pending.isEmpty), readings + 1⟩ :: gather [] 0 rest
  | .ended :: rest =>
    if pending.isEmpty then [⟨.ended, readings + 1⟩]
    else ⟨.fault unfinished, readings + 1⟩ :: gather [] 0 rest
  | .failed f :: rest => ⟨.fault f, readings + 1⟩ :: gather [] 0 rest

/-- The inputs in a series of readings; the series is taken to end after its last one. -/
def all (events : List Event) : List Gathered := gather [] 0 events

/-- What is kept of an input so that it can be typed again. -/
def retyped (ls : List String) : String := "\\\n".intercalate ls

end Input

/-- The readings from text that is not typed but piped in: a line, or several of them while they end
in a backslash. What is left open at the end is dropped. -/
def pipedEvents (s : String) : List Event :=
  let rec go (pending : Option String) : List String → List Event
    | [] => [.ended]
    | line :: rest =>
      let text := match pending with
        | none => line
        | some t => t ++ "\n" ++ line
      if Input.isOpen text.toList then go (some text) rest else .line text :: go none rest
  go none (Text.lines s)

end RulesText
