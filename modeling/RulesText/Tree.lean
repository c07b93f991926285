import RulesText.CardText
import RulesText.Symbol

/-! Trees: card texts with the symbol they were read into. -/
namespace RulesText

/-- A card text, the source it comes from and its root symbol, if it has any. -/
structure Tree where
  text : CardText
  source : String
  logic : Option Symbol

namespace Tree

def isNull (t : Tree) : Bool := t.logic.isNone

def display (t : Tree) : String :=
  match t.logic with
  | some s => s.display
  | none => "None"

def datum (t : Tree) : Datum :=
  .map [("text", t.text.datum), ("source", .str t.source),
    ("logic", .ofOption Symbol.datum t.logic)]

end Tree

end RulesText
