/-! Sets of tags, kept in ascending order. -/
namespace RulesText

/-- Tags in ascending order, each once. -/
abbrev TagSet := List String

namespace TagSet

/-- Adds a tag. -/
def insert : TagSet → String → TagSet
  | [], tag => [tag]
  | t :: rest, tag =>
    if tag < t then tag :: t :: rest else if tag = t then t :: rest else t :: insert rest tag

/-- Adds all of these tags. -/
def insertAll (s : TagSet) (tags : List String) : TagSet := tags.foldl insert s

/-- The set of these tags. -/
def ofList (tags : List String) : TagSet := insertAll [] tags

end TagSet

end RulesText
