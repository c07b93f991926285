import RulesText.Archive.Basic
import RulesText.Cards.Grammar

/-! Sessions: settings, the grammar made for them, and what was processed lately. -/
namespace RulesText

/-- How texts are processed and shown. -/
structure Settings where
  source : String := "card"
  policy : Policy := .expand
  extractionTags : List String := []
  collapseTags : List String := []
  showTree : Bool := false
  showExport : Bool := false
  /-- How many processed texts are kept. -/
  historySize : Nat := 100
  deriving DecidableEq, Repr

namespace Settings

/-- Settings that show everything. -/
def debug : Settings := { showTree := true, showExport := true, historySize := 200 }

def isExtracting (s : Settings) : Bool := !s.extractionTags.isEmpty

/-- The standard grammar with the tags of the settings. -/
def grammar (s : Settings) : Grammar :=
  .withLayout ((Cards.layout.addExtractionTags s.extractionTags).addCollapseTags s.collapseTags)

end Settings

/-- Settings, their grammar, and the texts processed lately, the oldest first. -/
structure Session where
  settings : Settings
  grammar : Grammar
  history : List Entry := []

namespace Session

/-- A session in which nothing has been processed. -/
def new (settings : Settings) : Session := ⟨settings, settings.grammar, []⟩

def setSource (s : Session) (source : String) : Session :=
  { s with settings := { s.settings with source } }

def setPolicy (s : Session) (policy : Policy) : Session :=
  { s with settings := { s.settings with policy } }

/-- Changes the settings and makes the grammar anew. -/
def rebuild (s : Session) (settings : Settings) : Session :=
  { s with settings, grammar := settings.grammar }

/-- Sets the tags to extract; none of them switches back to lines. -/
def setExtractionTags (s : Session) (extractionTags : List String) : Session :=
  s.rebuild { s.settings with extractionTags }

def setCollapseTags (s : Session) (collapseTags : List String) : Session :=
  s.rebuild { s.settings with collapseTags }

def setShowTree (s : Session) (showTree : Bool) : Session :=
  { s with settings := { s.settings with showTree } }

def setShowExport (s : Session) (showExport : Bool) : Session :=
  { s with settings := { s.settings with showExport } }

/-- Appends to a history of bounded length; the oldest entries give way. -/
def remember (size : Nat) (history : List Entry) (e : Entry) : List Entry :=
  if size = 0 then history else history.drop (history.length + 1 - size) ++ [e]

/-- The session with one more entry in its history. -/
def record (s : Session) (e : Entry) : Session :=
  { s with history := remember s.settings.historySize s.history e }

/-- Processes a text and remembers it. -/
def process (text : CardText) : Effect Session (Tree × Sequence) := do
  let s ← get
  let (tree, sequence) ← s.grammar.process text s.settings.source s.settings.policy
  modify (·.record sequence.entry)
  return (tree, sequence)

/-- The remembered texts. -/
def archive (s : Session) : Archive := { entries := s.history }

end Session

end RulesText
