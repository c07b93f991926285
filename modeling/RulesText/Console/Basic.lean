import RulesText.Archive.File
import RulesText.Console.Command
import RulesText.Session

/-! The console: card texts and commands, one after the other. -/
namespace RulesText

/-- A session and the files it can see. -/
structure Console where
  session : Session
  files : Files := {}

/-- What an input leads to. -/
inductive Reply where
  | text (s : String)
  /-- The user wants to leave. -/
  | quit
  deriving DecidableEq, Repr

/-- How a processed text is shown. -/
def Settings.render (s : Settings) (tree : Tree) (sequence : Sequence) : String :=
  (if s.showTree then "tree: " ++ tree.display ++ "\n" else "") ++
    if s.showExport then sequence.datum.display
    else if sequence.isEmpty then "(empty)"
    else Text.trimEnd sequence.display

/-- How an archive is listed. -/
def Archive.listing (a : Archive) (path : String) : String :=
  toString a.entries.length ++ " entries in " ++ path ++
    String.join (a.entries.mapIdx fun i e =>
      "\n[" ++ toString i ++ "] " ++ e.source ++ ": " ++ " / ".intercalate e.text ++ "\n    " ++
        e.sequence.display)

namespace Console

def onOff (b : Bool) : String := if b then "on" else "off"

/-- Works on the session. -/
def onSession {α : Type} (step : Effect Session α) : Effect Console α := fun c =>
  let (o, session) := step.run c.session
  (o, { c with session })

/-- Changes the session and says something. -/
def saying (s : String) (change : Session → Session) : Effect Console Reply := do
  onSession (modify change)
  return .text s

/-- Carries out a command. -/
def obey : Command → Effect Console Reply
  | .quit => return .quit
  | .help => return .text Command.helpText
  | .source name => do
    if name.isEmpty then return .text ("source: " ++ (← get).session.settings.source)
    else saying ("source set to " ++ name) (·.setSource name)
  | .extract tags =>
    saying (if tags.isEmpty then "extraction off" else "extracting " ++ ", ".intercalate tags)
      (·.setExtractionTags tags)
  | .collapseTags tags =>
    saying ("collapse tags: " ++ ", ".intercalate tags) (·.setCollapseTags tags)
  | .collapse => saying "condition markers off" (·.setPolicy .collapse)
  | .expand => saying "condition markers on" (·.setPolicy .expand)
  | .toggleTree => do
    let b := !(← get).session.settings.showTree
    saying ("tree display " ++ onOff b) (·.setShowTree b)
  | .toggleExport => do
    let b := !(← get).session.settings.showExport
    saying ("export display " ++ onOff b) (·.setShowExport b)
  | .save path => do
    let c ← get
    let archive := c.session.archive
    let files ← archive.save c.files path
    modify ({ · with files })
    return .text ("saved " ++ toString archive.entries.length ++ " entries to " ++ path)
  | .load path => do
    let archive ← Archive.load (← get).files path
    return .text (archive.listing path)

/-- Processes lines as one card text. -/
def process (lines : List String) : Effect Console String := do
  let (tree, sequence) ← onSession (Session.process (.lines lines))
  return (← get).session.settings.render tree sequence

/-- Takes an input: a single line that starts with a colon is a command, and anything else is a card
text. -/
def evalLines (lines : List String) : Effect Console Reply :=
  match Command.ofLines? lines with
  | some command => do obey (← command)
  | none => do return .text (← process lines)

/-- Takes one line as input. -/
def eval (line : String) : Effect Console Reply := evalLines [line]

/-- Processes a file as one card text, whatever its first line looks like. -/
def evalFile (path : String) : Effect Console String := do
  let text ← (← get).files.readText path
  process (Text.lines text)

end Console

end RulesText
