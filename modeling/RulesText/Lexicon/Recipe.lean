import RulesText.Lexicon.Basic

/-! Recipes: constructors of rules written as data. -/
namespace RulesText

/-- One value of a recipe. -/
inductive Ingredient where
  /-- A group, read by the table. -/
  | lex (group : Nat)
  /-- A group as a leaf, just as it stands. -/
  | raw (group : Nat)
  /-- Several groups put together with spaces, read by the table. -/
  | join (groups : List Nat)
  | const (v : Value)

/-- What a rule does instead of building its variant from captures. -/
inductive Recipe where
  /-- Gives no symbol. -/
  | nothing
  /-- Fails as a malformed tree. -/
  | fail (detail : String)
  /-- Reads one group in place of the whole text. -/
  | reread (group : Nat)
  /-- Builds the variant of the rule from these values. -/
  | make (args : List Ingredient)

namespace Ingredient

/-- The value of an ingredient. -/
def value (read : TextReader) (groups : Captures) : Ingredient → Outcome Value
  | lex i => read.value (groups.group? i)
  | raw i => .ok (((groups.group? i).map Value.ofText).getD .nil)
  | join is => read.value (some (" ".intercalate (is.map fun i => (groups.group? i).getD "")))
  | const v => .ok v

end Ingredient

namespace Recipe

/-- The constructor that follows a recipe for a variant. -/
def constructor (variant : Variant) : Recipe → Constructor
  | nothing, _, _, _ => .ok none
  | .fail detail, _, _, _ => RulesText.fail (.malformed detail)
  | reread i, read, groups, _ => read ((groups.group? i).getD "")
  | make args, read, groups, text => do
    let values ← args.mapM (·.value read groups)
    some <$> variant.construct values (some text)

end Recipe

end RulesText
