import RulesText.Pattern.Search
import RulesText.Pattern.Reader
import RulesText.Fault

/-! Matchers: patterns together with the text they were written as. -/
namespace RulesText

/-- A pattern and its written form. -/
structure Matcher where
  source : String
  pattern : Pattern
  deriving DecidableEq, Repr

namespace Matcher

/-- Reads a written pattern. -/
def compile (source : String) : Outcome Matcher :=
  match Pattern.read source with
  | .ok pattern => .ok ⟨source, pattern⟩
  | .error message => fail (.badPattern source message)

/-- A matcher that is known to be well written; one that is not matches nothing. -/
def ofSource (source : String) : Matcher :=
  match Pattern.read source with
  | .ok pattern => ⟨source, pattern⟩
  | .error _ => ⟨source, .char .none⟩

theorem source_ofSource (source : String) : (ofSource source).source = source := by
  unfold ofSource
  split <;> rfl

/-- A pattern that can be read stays what it was written as. -/
theorem compile_ofSource {source : String} (h : (compile source).isOk = true) :
    compile (ofSource source).source = .ok (ofSource source) := by
  rw [source_ofSource]
  unfold compile at h ⊢
  unfold ofSource
  split
  · rfl
  · next hread =>
    rw [hread] at h
    cases h

/-- The groups of the leftmost match in a text. -/
def captures? (m : Matcher) (text : String) : Option Captures :=
  (m.pattern.search text.toList).map (Captures.mk text.toList)

/-- Whether there is a match anywhere in a text. -/
def accepts (m : Matcher) (text : String) : Bool := (m.pattern.search text.toList).isSome

end Matcher

end RulesText
