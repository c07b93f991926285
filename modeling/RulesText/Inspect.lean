import RulesText.Casebook.Basic
import RulesText.Flatten.Layout

/-! Inspection: the full written form of the parts of the machinery, for diagnosis. -/
namespace RulesText

namespace Inspect

/-- A name followed by named parts in braces; `more` tells that some parts are not shown. -/
def record (name : String) (parts : List (String × String)) (more : Bool := false) : String :=
  let shown := parts.map fun (k, v) => k ++ ": " ++ v
  name ++ " \x7b " ++ ", ".intercalate (shown ++ if more then [".."] else []) ++ " \x7d"

/-- A name followed by one part in parentheses. -/
def tuple (name part : String) : String := name ++ "(" ++ part ++ ")"

def list (items : List String) : String := "[" ++ ", ".intercalate items ++ "]"

def set (items : List String) : String := "\x7b" ++ ", ".intercalate items ++ "\x7d"

def texts (ts : List String) : String := list (ts.map Text.quoted)

def option : Option String → String
  | none => "None"
  | some s => tuple "Some" s

def nat (n : Nat) : String := toString n

def shape : Shape → String
  | .noOp => "NoOp"
  | .sequence => "Sequence"
  | .condition => "Condition"
  | .plain => "Plain"

def variant (v : Variant) : String :=
  record "Variant" [("tag", Text.quoted v.tag), ("shape", shape v.shape),
    ("fields", texts v.fields)]

def scalar : Scalar → String
  | .bool b => tuple "Bool" (boolText b)
  | .int n => tuple "Int" (intText n)
  | .str s => tuple "Str" (Text.quoted s)

mutual

def value : Value → String
  | .nil => "Nil"
  | .bool b => tuple "Bool" (boolText b)
  | .int n => tuple "Int" (intText n)
  | .str s => tuple "Str" (Text.quoted s)
  | .symbol s => tuple "Symbol" (symbol s)
  | .list vs => tuple "List" (list (values vs))

def symbol : Symbol → String
  | ⟨v, p, t, s⟩ =>
    record "Symbol" [("variant", variant v), ("params", tuple "Params" (list (payload p))),
      ("original_text", option (t.map Text.quoted)), ("stripped", texts s)]

def values : List Value → List String
  | [] => []
  | v :: vs => value v :: values vs

def payload : List (String × Value) → List String
  | [] => []
  | (name, v) :: rest => ("(" ++ Text.quoted name ++ ", " ++ value v ++ ")") :: payload rest

end

def marker : Marker → String
  | .conditionStart => "ConditionStart"
  | .resultStart => "ResultStart"
  | .sequenceEnd => "SequenceEnd"

def content : Content → String
  | .node s => tuple "Node" (symbol s)
  | .param name v =>
    record "Param" [("name", Text.quoted name), ("value", option (v.map scalar))]
  | .marker m => tuple "Marker" (marker m)

def line (l : Line) : String :=
  record "SymbolLine" [("tag", Text.quoted l.tag), ("content", content l.content),
    ("indent", toString l.indent)]

def lines (ls : List Line) : String := list (ls.map line)

def sink (s : Sink Line) : String :=
  record "LineSink" [("lines", lines s.output), ("frames", list (s.frames.reverse.map lines))]

def policy : Policy → String
  | .expand => "Expand"
  | .collapse => "Collapse"

def emitter (e : Emitter) : String :=
  record "Emitter" [("policy", policy e.policy), ("sink", sink e.sink)] true

def capture : Capture → String
  | .lex i => tuple "Lex" (nat i)
  | .text i => tuple "Text" (nat i)

def captures (cs : List Capture) : String := list (cs.map capture)

def ruleDraft (r : RuleDraft) : String :=
  record "Rule" [("variant", Text.quoted r.variant.tag), ("pattern", Text.quoted r.pattern),
    ("exclusions", texts r.exclusions), ("captures", captures r.captures),
    ("custom", boolText r.custom.isSome)]

def rule (r : Rule) : String :=
  record "CompiledRule" [("variant", Text.quoted r.variant.tag),
    ("inclusion", Text.quoted r.inclusion.source), ("exclusions", nat r.exclusions.length),
    ("captures", captures r.captures)] true

/-- A lexicon under the name of the stage it is in. -/
def lexicon (name : String) (l : Lexicon) : String :=
  record name [("rules", list (l.rules.map rule)), ("default", option (l.fallback.map variant))]

/-- A lexicon that is open for registration. -/
def openLexicon (l : Lexicon) : String := lexicon "LexerRules" l

/-- A lexicon in use. -/
def closedLexicon (l : Lexicon) : String := lexicon "Lexer" l

def casebook (b : Casebook) : String :=
  record "TreeBuilder" [("lexer", closedLexicon b.lexicon),
    ("sources", texts (b.sources.map (·.1))),
    ("patterns", texts (b.patterns.map (·.1.source))), ("default", boolText b.fallback.isSome)]

/-- A layout under the name of the stage it is in. -/
def layout (name : String) (l : Layout) : String :=
  record name [("collapse_tags", set (l.collapseTags.map Text.quoted)),
    ("extraction_tags", set (l.extractionTags.map Text.quoted)),
    ("handlers", texts (TagSet.ofList (l.handlers.map (·.1)))),
    ("record_tags", boolText l.recordTags)]

/-- A layout that is open for registration. -/
def openLayout (l : Layout) : String := layout "FlattenerConfig" l

/-- A layout in use. -/
def closedLayout (l : Layout) : String := layout "Flattener" l

end Inspect

end RulesText
