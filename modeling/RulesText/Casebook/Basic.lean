import RulesText.Lexicon.Basic
import RulesText.Tree

/-! Casebooks: which logic governs a card text, by its source or by how it begins. -/
namespace RulesText

/-- Reads the lines of a card into its root symbol. -/
abbrev Logic := Lexicon → List String → Outcome (Option Symbol)

/-- Like `Logic`, but also given the match of the first line. -/
abbrev PatternLogic := Lexicon → List String → Captures → Outcome (Option Symbol)

/-- The cases over a lexicon, each kind in the order in which they are tried. -/
structure Casebook where
  lexicon : Lexicon
  sources : List (String × Logic) := []
  patterns : List (Matcher × PatternLogic) := []
  fallback : Option Logic := none

namespace Casebook

/-- Adds a case for the texts of a source. -/
def registerSource (b : Casebook) (source : String) (logic : Logic) : Casebook :=
  { b with sources := b.sources ++ [(source, logic)] }

/-- Adds a case for the texts whose first line has a match. -/
def addPattern (b : Casebook) (m : Matcher) (logic : PatternLogic) : Casebook :=
  { b with patterns := b.patterns ++ [(m, logic)] }

/-- Reads a pattern and adds a case for the texts whose first line matches it. -/
def registerPattern (pattern : String) (logic : PatternLogic) : Effect Casebook Unit := do
  let m ← Matcher.compile pattern
  modify (·.addPattern m logic)

/-- Sets the case for the texts that no other case covers. -/
def registerFallback (b : Casebook) (logic : Logic) : Casebook :=
  { b with fallback := some logic }

/-- What can be registered on a casebook. -/
inductive Registration where
  | source (source : String) (logic : Logic)
  | pattern (pattern : String) (logic : PatternLogic)
  | fallback (logic : Logic)

instance : Component Casebook where
  name := "tree builder"
  Frozen := Casebook
  freeze := some
  Registration := Registration
  enter
    | .source source logic => modify (·.registerSource source logic)
    | .pattern pattern logic => registerPattern pattern logic
    | .fallback logic => modify (·.registerFallback logic)

/-- The first pattern case that covers a first line, with its match. -/
def patternCase? (b : Casebook) (first : String) : Option (PatternLogic × Captures) :=
  b.patterns.findSome? fun (m, logic) => (m.captures? first).map (logic, ·)

/-- Reads a card text: nothing to do comes first, then the source, then the first line, and last the
fallback. -/
def dispatch (b : Casebook) (text : CardText) (source : String) : Outcome (Option Symbol) :=
  if text.isNull then .ok none
  else
    match b.sources.lookup source with
    | some logic => logic b.lexicon text.toLines
    | none =>
      match text.firstLine?.bind b.patternCase? with
      | some (logic, groups) => logic b.lexicon text.toLines groups
      | none =>
        match b.fallback with
        | some logic => logic b.lexicon text.toLines
        | none => fail (.unrecognized text.joined)

/-- Builds the tree of a card text. A fault is told where it arose. -/
def build (b : Casebook) (text : CardText) (source : String) : Outcome Tree :=
  match b.dispatch text source with
  | .ok logic => .ok ⟨text, source, logic⟩
  | .error f => .error (f.located source text.joined)

end Casebook

end RulesText
