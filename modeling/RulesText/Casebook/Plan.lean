import RulesText.Casebook.Basic

/-! Plans: the logic of cases written as data. -/
namespace RulesText

/-- What a case does with the lines of a card. -/
inductive Plan where
  /-- Reads all lines as one text. -/
  | join
  /-- Reads every line and collects what is not blank. -/
  | lines (variant : Variant)
  /-- Reads every line but the first and collects what is not blank. -/
  | rest (variant : Variant)
  /-- Collects the value of every line, nil included. -/
  | values (variant : Variant)
  /-- Builds a symbol from the groups of the first line. -/
  | groups (variant : Variant) (indices : List Nat)
  | terminal (variant : Variant)
  | nothing
  | fail (detail : String)

namespace Plan

/-- Collects what the lines are read into. -/
def collect (variant : Variant) (l : Lexicon) (texts : List String) : Outcome (Option Symbol) := do
  let symbols ← l.lexAll texts
  some <$> variant.constructSequence (symbols.map .symbol) none

/-- The logic of a plan for a case that has no match to look at: every group is missing. -/
def run (plan : Plan) (l : Lexicon) (texts : List String) (groups : Option Captures) :
    Outcome (Option Symbol) :=
  match plan with
  | .join => l.lex (" ".intercalate texts)
  | .lines v => collect v l texts
  | .rest v => collect v l (texts.drop 1)
  | .values v => do
    let values ← texts.mapM fun t => l.lexValue (some t)
    some <$> v.constructSequence values none
  | .groups v indices => do
    let values ← indices.mapM fun i => l.lexValue (groups.bind (·.group? i))
    some <$> v.construct values (groups.bind (·.group? 0))
  | .terminal v => some <$> v.terminal none
  | .nothing => .ok none
  | .fail detail => RulesText.fail (.malformed detail)

def logic (plan : Plan) : Logic := fun l texts => plan.run l texts none

def patternLogic (plan : Plan) : PatternLogic :=
  fun l texts groups => plan.run l texts (some groups)

end Plan

end RulesText
