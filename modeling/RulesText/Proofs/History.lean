import Mathlib.Data.List.DropRight
import RulesText.Session

/-!
Histories: what a session remembers of a processed text, and that it remembers the last texts in
order.
-/
namespace RulesText

variable {l : Layout} {g : Grammar} {s : Session} {tree : Tree} {policy : Policy} {q : Sequence}
  {text : CardText} {source : String}

/-- A sequence names the text and the source of its tree. -/
theorem Layout.flatten_origin (h : l.flatten tree policy = .ok q) :
    q.text = tree.text ∧ q.source = tree.source := by
  unfold Layout.flatten Layout.run at h
  split at h
  · obtain rfl := Except.ok.inj h
    exact ⟨rfl, rfl⟩
  · unfold Layout.linearize at h
    split at h
    · cases h
    · split at h
      · cases h
      · obtain rfl := Except.ok.inj h
        exact ⟨rfl, rfl⟩

theorem Casebook.build_origin {b : Casebook} (h : b.build text source = .ok tree) :
    tree.text = text ∧ tree.source = source := by
  unfold Casebook.build at h
  split at h
  · obtain rfl := Except.ok.inj h
    exact ⟨rfl, rfl⟩
  · cases h

theorem Grammar.process_origin (h : g.process text source policy = .ok (tree, q)) :
    q.text = text ∧ q.source = source := by
  obtain ⟨tree', hparse, h⟩ := Outcome.of_bind_ok h
  obtain ⟨q', hflatten, h⟩ := Outcome.of_bind_ok h
  obtain ⟨htext, hsource⟩ := Layout.flatten_origin hflatten
  obtain ⟨htext', hsource'⟩ := Casebook.build_origin hparse
  cases h
  exact ⟨htext.trans htext', hsource.trans hsource'⟩

namespace Session

/-- A text that the grammar takes is remembered with its source and its lines. -/
theorem process_of_ok
    (h : s.grammar.process text s.settings.source s.settings.policy = .ok (tree, q)) :
    (process text).run s =
      (.ok (tree, q), s.record ⟨s.settings.source, text.toLines, q.datum⟩) := by
  obtain ⟨htext, hsource⟩ := Grammar.process_origin h
  have hentry : q.entry = ⟨s.settings.source, text.toLines, q.datum⟩ := by
    rw [Sequence.entry, htext, hsource]
  have hgrammar : (liftM (s.grammar.process text s.settings.source s.settings.policy) :
      Effect Session (Tree × Sequence)).run s = (.ok (tree, q), s) := by
    rw [Effect.run_outcome, h]
  rw [process, Effect.run_get_bind, Effect.run_bind_of_ok hgrammar, ← hentry]
  rfl

/-- A text that the grammar does not take changes nothing. -/
theorem process_of_error {f : Fault}
    (h : s.grammar.process text s.settings.source s.settings.policy = .error f) :
    (process text).run s = (.error f, s) := by
  rw [process, Effect.run_get_bind, Effect.run_bind_of_fault]
  rw [Effect.run_outcome, h]

/-- Remembering an entry after the last ones of a list leaves the last ones of the longer list. -/
theorem remember_rtake (size : Nat) (es : List Entry) (e : Entry) :
    remember size (es.rtake size) e = (es ++ [e]).rtake size := by
  unfold remember
  cases size with
  | zero => simp
  | succ n =>
    have hdrop :
        (es.rtake (n + 1)).drop ((es.rtake (n + 1)).length + 1 - (n + 1)) = es.rtake n := by
      simp only [List.rtake, List.length_drop, List.drop_drop]
      congr 1
      omega
    rw [if_neg (Nat.succ_ne_zero n), hdrop, List.rtake_concat_succ]

/-- The session with these entries in its history, as far as they are not too many. -/
def remembering (s : Session) (es : List Entry) : Session :=
  { s with history := es.rtake s.settings.historySize }

theorem record_remembering (s : Session) (es : List Entry) (e : Entry) :
    (s.remembering es).record e = s.remembering (es ++ [e]) := by
  rw [remembering, remembering, record, remember_rtake]

end Session

end RulesText
