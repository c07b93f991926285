import RulesText.Line
import RulesText.TagSet
import RulesText.Tree

/-! Sequences: what flattening makes of a tree. -/
namespace RulesText

/-- The body of a sequence. -/
inductive Body where
  /-- The whole tree as indented lines. -/
  | linear (ls : List Line)
  /-- The symbols that were asked for. -/
  | extracted (items : List Symbol)
  deriving DecidableEq

/-- A flattened card text, with the tags met on the way if they were recorded. -/
structure Sequence where
  text : CardText
  source : String
  body : Body
  tags : Option TagSet
  deriving DecidableEq

namespace Sequence

def linear? (s : Sequence) : Option (List Line) :=
  match s.body with
  | .linear ls => some ls
  | .extracted _ => none

def extracted? (s : Sequence) : Option (List Symbol) :=
  match s.body with
  | .extracted items => some items
  | .linear _ => none

def length (s : Sequence) : Nat :=
  match s.body with
  | .linear ls => ls.length
  | .extracted items => items.length

def isEmpty (s : Sequence) : Bool := s.length == 0

/-- The word for how the tree was flattened. -/
def mode (s : Sequence) : String :=
  match s.body with
  | .linear _ => "linear"
  | .extracted _ => "extracted"

/-- One entry after the other, each closed by a line feed. -/
def display (s : Sequence) : String :=
  let rows := match s.body with
    | .linear ls => ls.map Line.display
    | .extracted items => items.map Symbol.display
  String.join (rows.map (· ++ "\n"))

def datum (s : Sequence) : Datum :=
  let rows := match s.body with
    | .linear ls => ls.map Line.datum
    | .extracted items => items.map Symbol.datum
  let tags := match s.tags with
    | some ts => [("tags", Datum.ofTexts ts)]
    | none => []
  .map ([("text", s.text.datum), ("source", .str s.source), ("mode", .str s.mode),
    ("lines", .list rows)] ++ tags)

end Sequence

end RulesText
