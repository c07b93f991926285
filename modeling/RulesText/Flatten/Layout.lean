import RulesText.Flatten.Handler
import RulesText.Flatten.Extraction
import RulesText.Flatten.Flatness
import RulesText.Flatten.Sequence
import RulesText.Staged

/-! Layouts: how trees are flattened into sequences. -/
namespace RulesText

/-- The settings of a flattening. With an extraction tag the tree is searched for symbols, without
any it is written out as lines. -/
structure Layout where
  collapseTags : TagSet := []
  extractionTags : TagSet := []
  handlers : List (String × Handler) := []
  recordTags : Bool := false

namespace Layout

def addCollapseTags (l : Layout) (tags : List String) : Layout :=
  { l with collapseTags := l.collapseTags.insertAll tags }

def addExtractionTags (l : Layout) (tags : List String) : Layout :=
  { l with extractionTags := l.extractionTags.insertAll tags }

/-- Sets the handler of a tag in place of an earlier one. -/
def register (l : Layout) (tag : String) (h : Handler) : Layout :=
  { l with handlers := (tag, h) :: l.handlers.filter (·.1 != tag) }

/-- What can be registered on a layout. -/
inductive Registration where
  | handler (tag : String) (h : Handler)
  | extractionTag (tag : String)
  | collapseTag (tag : String)

instance : Component Layout where
  name := "flattener"
  Frozen := Layout
  freeze := some
  Registration := Registration
  enter
    | .handler tag h => modify (·.register tag h)
    | .extractionTag tag => modify (·.addExtractionTags [tag])
    | .collapseTag tag => modify (·.addCollapseTags [tag])

def handler? (l : Layout) (tag : String) : Option Handler := l.handlers.lookup tag

def isExtracting (l : Layout) : Bool := !l.extractionTags.isEmpty

/-- A fresh emitter. -/
def emitter (l : Layout) (policy : Policy) : Emitter :=
  { policy, tags := if l.recordTags then some [] else none }

/-- Writes out a tree from the level above the outermost one. -/
def emit (l : Layout) (tree : Tree) (policy : Policy) : Except Fault Unit × Emitter :=
  match tree.logic with
  | none => (.ok (), l.emitter policy)
  | some root => (root.flatten l.handler? (-1)).run (l.emitter policy)

/-- The lines of a tree, and the notes of its handlers. Lines still held at the end come last. -/
def linearize (l : Layout) (tree : Tree) (policy : Policy) : Outcome Sequence × List Note :=
  match l.emit tree policy with
  | (.error f, e) => (.error (f.located tree.source tree.text.joined), e.notes)
  | (.ok (), e) =>
    match checkLines e.sink.finish with
    | .error f => (.error (f.located tree.source tree.text.joined), e.notes)
    | .ok () => (.ok ⟨tree.text, tree.source, .linear e.sink.finish, e.tags⟩, e.notes)

/-- The symbols of a tree that have an extraction tag. -/
def extract (l : Layout) (tree : Tree) : Sequence :=
  let items := match tree.logic with
    | none => []
    | some root => root.extract l.extractionTags l.collapseTags
  let tags := match tree.logic with
    | none => []
    | some root => root.tags
  ⟨tree.text, tree.source, .extracted items, if l.recordTags then some (.ofList tags) else none⟩

/-- Flattens a tree, and gives the notes of its handlers. -/
def run (l : Layout) (tree : Tree) (policy : Policy) : Outcome Sequence × List Note :=
  if l.isExtracting then (.ok (l.extract tree), []) else l.linearize tree policy

/-- Flattens a tree. -/
def flatten (l : Layout) (tree : Tree) (policy : Policy := .expand) : Outcome Sequence :=
  (l.run tree policy).1

end Layout

end RulesText
