import RulesText.Datum
import RulesText.Symbol

/-! Lines: the entries of a flattened tree. -/
namespace RulesText

/-- The signs that frame the branches of a condition. -/
inductive Marker where
  | conditionStart
  | resultStart
  | sequenceEnd
  deriving DecidableEq, Repr

namespace Marker

def label : Marker → String
  | conditionStart => "CONDITION"
  | resultStart => "RESULT"
  | sequenceEnd => "END"

end Marker

/-- What a line carries. -/
inductive Content where
  | node (s : Symbol)
  /-- A field of the node, with its value if that is a leaf. -/
  | param (name : String) (value : Option Scalar)
  | marker (m : Marker)
  deriving DecidableEq

/-- A tag, what belongs to it, and how deep it stands. -/
structure Line where
  tag : String
  content : Content
  indent : Int
  deriving DecidableEq

namespace Line

/-- The line of a node. -/
def node (s : Symbol) (indent : Int) : Line := ⟨s.tag, .node s, indent⟩

/-- A marker of the node with that tag. -/
def marker (tag : String) (m : Marker) (indent : Int) : Line := ⟨tag, .marker m, indent⟩

/-- A field of the node with that tag. -/
def param (tag name : String) (value : Option Scalar) (indent : Int) : Line :=
  ⟨tag, .param name value, indent⟩

def symbol? (l : Line) : Option Symbol :=
  match l.content with
  | .node s => some s
  | .param .. | .marker _ => none

def marker? (l : Line) : Option Marker :=
  match l.content with
  | .marker m => some m
  | .node _ | .param .. => none

/-- Whether the line closes a condition. -/
def isEnd (l : Line) : Bool := l.marker? == some .sequenceEnd

/-- What stands after the tag. -/
def contentText : Content → String
  | .node s => s.display
  | .param name none => name
  | .param name (some v) => name ++ " = " ++ v.display
  | .marker m => m.label

/-- A line as text: one tab per level, and none above the outermost one. -/
def display (l : Line) : String :=
  String.ofList (List.replicate l.indent.toNat '\t') ++
    "(" ++ l.tag ++ ", " ++ contentText l.content ++ ")"

def contentDatum : Content → Datum
  | .node s => s.datum
  | .param name v => .map [("param", .str name), ("value", .ofOption Scalar.datum v)]
  | .marker m => .str m.label

def datum (l : Line) : Datum :=
  .map [("tag", .str l.tag), ("content", contentDatum l.content),
    ("indent", .int (Int64.ofInt l.indent))]

end Line

end RulesText
