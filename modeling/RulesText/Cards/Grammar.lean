import RulesText.Cards.Casebook
import RulesText.Cards.Layout

/-! Grammars: from a card text to its sequence. -/
namespace RulesText

/-- The cases that build a tree and the layout that flattens it. -/
structure Grammar where
  casebook : Casebook
  layout : Layout

namespace Grammar

/-- The standard card grammar. -/
def standard : Grammar := ⟨Cards.casebook, Cards.layout⟩

/-- The standard cases with another layout. -/
def withLayout (layout : Layout) : Grammar := ⟨Cards.casebook, layout⟩

def parse (g : Grammar) (text : CardText) (source : String) : Outcome Tree :=
  g.casebook.build text source

/-- The tree and the sequence of a card text. -/
def process (g : Grammar) (text : CardText) (source : String) (policy : Policy := .expand) :
    Outcome (Tree × Sequence) := do
  let tree ← g.parse text source
  let sequence ← g.layout.flatten tree policy
  return (tree, sequence)

end Grammar

end RulesText
