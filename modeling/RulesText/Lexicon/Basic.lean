import RulesText.Pattern.Matcher
import RulesText.Staged
import RulesText.Symbol
import RulesText.Text.Normal

/-!
Lexicons: ordered tables of rules that read a text into a symbol. The first rule that accepts the
text wins, and the fragments it captures are read by the same table.
-/
namespace RulesText

/-- How a captured group becomes a value. -/
inductive Capture where
  /-- The group is read by the table; a numeral becomes an integer. -/
  | lex (group : Nat)
  /-- The group stays a leaf; a numeral becomes an integer. -/
  | text (group : Nat)
  deriving DecidableEq, Repr

/-- Reads a text into a symbol; a blank text has none. -/
abbrev TextReader := String → Outcome (Option Symbol)

/-- Builds a symbol by hand from the match and the normal text, with a reader for fragments. -/
abbrev Constructor := TextReader → Captures → String → Outcome (Option Symbol)

/-- A rule: a text that matches `inclusion` and no exclusion becomes a symbol of `variant`, built
from its captures or by hand. -/
structure Rule where
  variant : Variant
  inclusion : Matcher
  exclusions : List Matcher := []
  captures : List Capture := []
  custom : Option Constructor := none

/-- A rule whose patterns have not been read yet. -/
structure RuleDraft where
  variant : Variant
  pattern : String
  exclusions : List String := []
  captures : List Capture := []
  custom : Option Constructor := none

/-- Reads the patterns of a rule, the inclusion first. -/
def RuleDraft.compile (d : RuleDraft) : Outcome Rule := do
  let inclusion ← Matcher.compile d.pattern
  let exclusions ← d.exclusions.mapM Matcher.compile
  return { d with inclusion, exclusions }

namespace TextReader

/-- Reads a fragment into a value: no fragment and a blank one are nil, a numeral is an integer, and
anything else is read into a symbol. -/
def value (read : TextReader) : Option String → Outcome Value
  | none => .ok .nil
  | some fragment =>
    match numeral? (Text.trim fragment) with
    | some n => .ok (.int n)
    | none => (read fragment).map Value.ofSymbol?

/-- The value of a captured group; a group that did not take part is nil. -/
def captured (read : TextReader) (groups : Captures) : Capture → Outcome Value
  | .lex i => read.value (groups.group? i)
  | .text i => .ok (((groups.group? i).map fun g => Value.ofText (Text.trim g)).getD .nil)

end TextReader

namespace Rule

/-- The groups of the match, if the rule accepts the normal text. -/
def accept? (r : Rule) (text : String) : Option Captures :=
  match r.inclusion.captures? text with
  | none => none
  | some groups => if r.exclusions.any (·.accepts text) then none else some groups

/-- Builds the symbol of an accepted text. A fault inside a capture passes through the frame of this
rule; one of the construction itself does not. -/
def build (r : Rule) (read : TextReader) (groups : Captures) (text : String) :
    Outcome (Option Symbol) :=
  match r.custom with
  | some construct => (construct read groups text).inFrame r.variant.tag
  | none => do
    let args ← Outcome.inFrame (r.captures.mapM (read.captured groups)) r.variant.tag
    some <$> r.variant.construct args (some text)

end Rule

/-- Rules in the order in which they are tried, and the variant of a text that none accepts. -/
structure Lexicon where
  rules : List Rule := []
  fallback : Option Variant := none

namespace Lexicon

/-- Appends a rule whose patterns have been read. -/
def addRule (l : Lexicon) (r : Rule) : Lexicon := { l with rules := l.rules ++ [r] }

/-- Reads the patterns of a rule and appends it. -/
def register (d : RuleDraft) : Effect Lexicon Unit := do
  let rule ← d.compile
  modify (·.addRule rule)

/-- Sets the variant of a text that no rule accepts. -/
def registerFallback (l : Lexicon) (v : Variant) : Lexicon := { l with fallback := some v }

/-- What can be registered on a lexicon. -/
inductive Registration where
  | rule (draft : RuleDraft)
  | fallback (variant : Variant)

instance : Component Lexicon where
  name := "lexer"
  Frozen := Lexicon
  freeze := some
  Registration := Registration
  enter
    | .rule draft => register draft
    | .fallback variant => modify (·.registerFallback variant)

/-- The first rule that accepts a normal text, with the groups of its match. -/
def firstRule? (l : Lexicon) (text : String) : Option (Rule × Captures) :=
  l.rules.findSome? fun r => (r.accept? text).map (r, ·)

/-- Reads a normal text that is not blank. -/
def lexNormal (l : Lexicon) (read : TextReader) (text : String) : Outcome (Option Symbol) :=
  match l.firstRule? text with
  | some (rule, groups) => rule.build read groups text
  | none =>
    match l.fallback with
    | some v => some <$> v.terminal (some text)
    | none => fail (.unrecognized text)

/-- Reads a text with at most `depth` readings one inside the other. -/
def lexWithin (l : Lexicon) : Nat → TextReader
  | 0, text => fail (.endless (Text.normalize text))
  | depth + 1, text =>
    let normal := Text.normalize text
    if normal.isEmpty then .ok none else l.lexNormal (l.lexWithin depth) normal

/-- How deep readings may be nested beyond the length of the text. A captured fragment is never
longer than the text it comes from, so only rules that put fragments together by hand need it. -/
def spareDepth : Nat := 1000

/-- Reads a text into a symbol. Each nested reading has to end within as many steps as the normal
text has characters, unless some rule gets its own text back as a fragment. -/
def lex (l : Lexicon) : TextReader := fun text =>
  l.lexWithin ((Text.normalize text).length + spareDepth) text

/-- Reads a fragment into a value. -/
def lexValue (l : Lexicon) (fragment : Option String) : Outcome Value :=
  TextReader.value l.lex fragment

/-- Reads each of the texts and leaves out the blank ones. -/
def lexAll (l : Lexicon) (texts : List String) : Outcome (List Symbol) := do
  return (← texts.mapM l.lex).filterMap id

end Lexicon

end RulesText
