import RulesText.Console.Basic
import RulesText.Console.Input

/-! Runs of the console: what is printed while inputs come in. -/
namespace RulesText

/-- What a run has printed, what it keeps for recall, and how it asked for input. -/
structure Transcript where
  stdout : String := ""
  stderr : String := ""
  recalled : List String := []
  prompts : List String := []
  deriving DecidableEq, Repr

namespace Transcript

def print (t : Transcript) (s : String) : Transcript := { t with stdout := t.stdout ++ s ++ "\n" }

/-- Text in a colour. -/
def coloured (code s : String) : String := "\x1b[" ++ code ++ "m" ++ s ++ "\x1b[0m"

/-- Reports a fault with its context. -/
def report (t : Transcript) (f : Fault) : Transcript :=
  { t with stderr := t.stderr ++ coloured "31" ("Error: " ++ f.message) ++ "\n" ++
      match f.context with
      | some c => coloured "2" c.display ++ "\n"
      | none => "" }

end Transcript

/-- The words of the console. -/
structure Phrases where
  prompt : String := "minilex> "
  continuation : String := "      .. "
  banner : Bool := true

/-- What is printed when a run begins. -/
def bannerText : String :=
  Transcript.coloured "1;36" "minilex" ++ " v0.1.0\n" ++
    "Type card text to flatten it, :help for commands, Ctrl+D to exit.\n\n"

/-- What is printed when a run ends. -/
def farewell : String := "\nGoodbye!"

namespace Console

/-- Takes complete lines: the console, what is printed, and whether to go on. -/
def take (c : Console) (t : Transcript) (ls : List String) : Console × Transcript × Bool :=
  if ls.all fun l => (Text.trim l).isEmpty then (c, t, true)
  else
    let t := { t with recalled := t.recalled ++ [Input.retyped ls] }
    match (evalLines ls).run c with
    | (.ok .quit, c) => (c, t, false)
    | (.ok (.text s), c) => (c, if s.isEmpty then t else t.print s, true)
    | (.error f, c) => (c, t.report f, true)

/-- Takes inputs until the user leaves or there are no more. -/
def loop (phrases : Phrases) (c : Console) (t : Transcript) : List Gathered → Console × Transcript
  | [] => (c, t)
  | g :: rest =>
    let asked := phrases.prompt :: List.replicate (g.readings - 1) phrases.continuation
    let t := { t with prompts := t.prompts ++ asked }
    match g.input with
    | .ended => (c, t)
    | .fault f => loop phrases c (t.report f) rest
    | .cancelled begun => loop phrases c (if begun then t.print "\nInput cancelled." else t) rest
    | .lines ls =>
      match c.take t ls with
      | (c, t, true) => loop phrases c t rest
      | (c, t, false) => (c, t)

/-- A whole run over a series of readings. -/
def run (c : Console) (phrases : Phrases) (t : Transcript) (events : List Event) :
    Console × Transcript :=
  let t := if phrases.banner then { t with stdout := t.stdout ++ bannerText } else t
  let (c, t) := loop phrases c t (Input.all events)
  (c, t.print farewell)

end Console

end RulesText
