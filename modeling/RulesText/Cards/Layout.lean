import RulesText.Cards.Variants
import RulesText.Flatten.Layout

/-!
The layout of the standard card grammar. Who may choose is bound right after the result marker, and
the result follows that binding.
-/
namespace RulesText.Cards

/-- Writes a choice. The result is held and put after the binding of the subject, so that it stands
before the end marker. -/
def layOutMay : Handler := fun s => do
  Emit.node (s.node.withoutAll [conditionField, resultField]) s.indent
  let policy ← Emit.policy
  if policy = .expand then
    Emit.marker s.tag .conditionStart s.indent
    discard (s.flatten conditionField (s.indent + 1))
    Emit.marker s.tag .resultStart s.indent
  Emit.param s.tag subjectField (s.node.getD subjectField).scalar? s.indent
  discard (s.flatten subjectField (s.indent + 1))
  let binding := (← Emit.length) - 1
  if policy = .expand then
    Emit.marker s.tag .sequenceEnd s.indent
  Emit.hold
  discard (s.flatten resultField (s.indent + 1))
  discard (Emit.spliceAfter binding)

/-- The standard layout: only choices are written in a way of their own. -/
def layout : Layout := Layout.register {} may.tag layOutMay

end RulesText.Cards
