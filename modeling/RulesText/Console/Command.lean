import RulesText.Text.Case.Upper
import RulesText.Text.Trim
import RulesText.Fault

/-! Commands: what can be typed after a colon. -/
namespace RulesText

/-- A command with its argument. -/
inductive Command where
  | quit
  | help
  | source (name : String)
  | extract (tags : List String)
  | collapseTags (tags : List String)
  | collapse
  | expand
  | toggleTree
  | toggleExport
  | save (path : String)
  | load (path : String)
  deriving DecidableEq, Repr

namespace Command

/-- Tags between commas or blanks, in upper case. -/
def tags (s : String) : List String :=
  ((Text.split (fun c => c == ',' || Text.isBlank c) s).filter (!·.isEmpty)).map Text.Case.upper

/-- A path, which may not be missing. -/
def path (name arg : String) : Outcome String :=
  if arg.isEmpty then fail (.unrecognized (":" ++ name ++ " needs a path")) else .ok arg

/-- Reads what stands after the colon: a name, and after the first blank an argument. -/
def read (s : String) : Outcome Command :=
  let (name, arg) := match Text.cutAtBlank s with
    | some (name, rest) => (name, Text.trim rest)
    | none => (s, "")
  match name with
  | "quit" | "q" => .ok quit
  | "help" | "h" => .ok help
  | "source" => .ok (source arg)
  | "extract" => .ok (extract (tags arg))
  | "collapse-tags" => .ok (collapseTags (tags arg))
  | "collapse" => .ok collapse
  | "expand" => .ok expand
  | "tree" => .ok toggleTree
  | "export" => .ok toggleExport
  | "save" => save <$> path name arg
  | "load" => load <$> path name arg
  | other => fail (.unrecognized (":" ++ other ++ " (try :help)"))

/-- The command in a line that starts with a colon, blanks aside. -/
def ofLine? (line : String) : Option (Outcome Command) :=
  match Text.trimChars line.toList with
  | ':' :: rest => some (read (String.ofList rest))
  | _ => none

/-- The command in an input; only a single line can be one. -/
def ofLines? : List String → Option (Outcome Command)
  | [line] => ofLine? line
  | _ => none

/-- The list of commands. -/
def helpText : String := "\n".intercalate
  ["Commands:",
    "  :source [NAME]        show or set the source tag",
    "  :extract [TAGS]       extract nodes with these tags; no tags turns it off",
    "  :collapse-tags TAGS   strip results from these extracted tags",
    "  :collapse             drop condition markers",
    "  :expand               keep condition markers",
    "  :tree                 toggle printing the symbol tree",
    "  :export               toggle printing the export instead of lines",
    "  :save PATH            save processed inputs as MessagePack",
    "  :load PATH            list the entries of a saved archive",
    "  :help                 show this help",
    "  :quit                 leave",
    "End a line with \\ to continue the card text on the next line."]

end Command

end RulesText
