import RulesText.Proofs.History

/-!
Runs of a session: texts are processed and settings are changed in any order. The history holds the
last texts that could be processed, each as it came out under the settings of its time.
-/
namespace RulesText

namespace Session

/-- What can be done with a session. -/
inductive Op where
  | process (text : CardText)
  | setSource (source : String)
  | setPolicy (policy : Policy)
  | setExtractionTags (tags : List String)
  | setCollapseTags (tags : List String)
  | setShowTree (showTree : Bool)
  | setShowExport (showExport : Bool)

/-- The session after an operation, whether it has failed or not. -/
def Op.apply (s : Session) : Op → Session
  | process text => ((Session.process text).run s).2
  | setSource source => s.setSource source
  | setPolicy policy => s.setPolicy policy
  | setExtractionTags tags => s.setExtractionTags tags
  | setCollapseTags tags => s.setCollapseTags tags
  | setShowTree showTree => s.setShowTree showTree
  | setShowExport showExport => s.setShowExport showExport

/-- The session after these operations. -/
def after (s : Session) (ops : List Op) : Session := ops.foldl Op.apply s

/-- Whether an operation is to process a text, and succeeds. -/
def succeeds (s : Session) : Op → Bool
  | .process text => ((process text).run s).1.isOk
  | .setSource _ | .setPolicy _ | .setExtractionTags _ | .setCollapseTags _ | .setShowTree _
  | .setShowExport _ => false

/-- How many texts are processed by these operations. -/
def successes (s : Session) : List Op → Nat
  | [] => 0
  | op :: ops => (s.succeeds op).toNat + (op.apply s).successes ops

end Session

namespace Settings

/-- The settings that an operation leaves. -/
def revise (s : Settings) : Session.Op → Settings
  | .process _ => s
  | .setSource source => { s with source }
  | .setPolicy policy => { s with policy }
  | .setExtractionTags extractionTags => { s with extractionTags }
  | .setCollapseTags collapseTags => { s with collapseTags }
  | .setShowTree showTree => { s with showTree }
  | .setShowExport showExport => { s with showExport }

/-- The settings that these operations leave. -/
def after (s : Settings) (ops : List Session.Op) : Settings := ops.foldl revise s

/-- What becomes of a text under the settings. -/
def produce (s : Settings) (text : CardText) : Outcome (Tree × Sequence) :=
  s.grammar.process text s.source s.policy

/-- The entry of an operation that processes a text: the source, its lines and what it is flattened
into under the settings. -/
def entry? (s : Settings) : Session.Op → Option Entry
  | .process text =>
    match s.produce text with
    | .ok (_, q) => some ⟨s.source, text.toLines, q.datum⟩
    | .error _ => none
  | .setSource _ | .setPolicy _ | .setExtractionTags _ | .setCollapseTags _ | .setShowTree _
  | .setShowExport _ => none

/-- The entries of these operations, each under the settings left by those before it. -/
def entries (s : Settings) : List Session.Op → List Entry
  | [] => []
  | op :: ops => (s.entry? op).toList ++ (s.revise op).entries ops

theorem historySize_revise (s : Settings) (op : Session.Op) :
    (s.revise op).historySize = s.historySize := by
  cases op <;> rfl

end Settings

namespace Session

variable {now : Settings} {es : List Entry}

/-- A session of these settings that remembers these entries. -/
def standing (now : Settings) (es : List Entry) : Session := (new now).remembering es

/-- What is processed comes out as the settings say, and adds its entry if it has one. -/
theorem run_process_standing (text : CardText) :
    (process text).run (standing now es) =
      (now.produce text, standing now (es ++ (now.entry? (.process text)).toList)) := by
  cases hproduce : now.produce text with
  | ok r =>
    have hentry : now.entry? (.process text) = some ⟨now.source, text.toLines, r.2.datum⟩ := by
      simp only [Settings.entry?, hproduce]
    rw [process_of_ok (s := standing now es) hproduce, hentry, Option.toList_some, standing,
      record_remembering]
    rfl
  | error f =>
    have hentry : now.entry? (.process text) = none := by
      simp only [Settings.entry?, hproduce]
    rw [process_of_error (s := standing now es) hproduce, hentry, Option.toList_none,
      List.append_nil]

/-- One operation changes the settings or adds its entry. -/
theorem apply_standing (op : Op) :
    op.apply (standing now es) = standing (now.revise op) (es ++ (now.entry? op).toList) := by
  cases op with
  | process text => rw [Op.apply, run_process_standing]; rfl
  | setSource source | setPolicy policy | setExtractionTags tags | setCollapseTags tags
  | setShowTree showTree | setShowExport showExport =>
    rw [Settings.entry?, Option.toList_none, List.append_nil]
    rfl

theorem after_standing (ops : List Op) :
    (standing now es).after ops = standing (now.after ops) (es ++ now.entries ops) := by
  induction ops generalizing now es with
  | nil =>
    rw [Settings.entries, List.append_nil]
    rfl
  | cons op ops ih =>
    rw [Settings.entries, ← List.append_assoc]
    change (op.apply (standing now es)).after ops = _
    rw [apply_standing, ih]
    rfl

theorem length_entry?_toList (op : Op) :
    (now.entry? op).toList.length = ((standing now es).succeeds op).toNat := by
  cases op with
  | process text =>
    rw [succeeds, run_process_standing, Settings.entry?]
    cases now.produce text <;> rfl
  | setSource source | setPolicy policy | setExtractionTags tags | setCollapseTags tags
  | setShowTree showTree | setShowExport showExport => rfl

/-- There is an entry for each text that is processed, and for nothing else. -/
theorem length_entries (ops : List Op) :
    (now.entries ops).length = (standing now es).successes ops := by
  induction ops generalizing now es with
  | nil => rfl
  | cons op ops ih =>
    rw [Settings.entries, successes, List.length_append, apply_standing, length_entry?_toList, ih]

theorem historySize_after (ops : List Op) : (now.after ops).historySize = now.historySize := by
  induction ops generalizing now with
  | nil => rfl
  | cons op ops ih => exact ih.trans (now.historySize_revise op)

theorem length_rtake (n : Nat) : (es.rtake n).length = min n es.length := by
  rw [List.rtake, List.length_drop]
  omega

/-- The history and the archive hold the last entries of what was processed, the oldest first and as
many as the settings allow. Every text comes out as the settings in force say, and what is not a
text that can be processed leaves the history as it is. -/
theorem history_after_ops (settings : Settings) (ops : List Op) :
    let s := (new settings).after ops
    let now := settings.after ops
    s.settings = now ∧
    s.history = (settings.entries ops).rtake settings.historySize ∧
    s.archive.entries = (settings.entries ops).rtake settings.historySize ∧
    (settings.entries ops).length = (new settings).successes ops ∧
    s.history.length = min settings.historySize ((new settings).successes ops) ∧
    (∀ text, ((process text).run s).1 = now.grammar.process text now.source now.policy) ∧
    ∀ op, s.succeeds op = false → (op.apply s).history = s.history := by
  intro s now
  have hnew : new settings = standing settings [] := by
    rw [standing, remembering, List.rtake_nil]
    rfl
  have hs : s = standing now (settings.entries ops) := by
    rw [← List.nil_append (settings.entries ops), ← after_standing, ← hnew]
  have hhistory : s.history = (settings.entries ops).rtake settings.historySize := by
    rw [hs, ← historySize_after ops]
    rfl
  have hlength : (settings.entries ops).length = (new settings).successes ops := by
    rw [hnew]
    exact length_entries ops
  refine ⟨by rw [hs]; rfl, hhistory, hhistory, hlength, ?_, ?_, ?_⟩
  · rw [hhistory, length_rtake, hlength]
  · intro text
    rw [hs, run_process_standing]
    rfl
  · intro op hop
    rw [hs] at hop ⊢
    have hnone : now.entry? op = none := by
      have hlen : (now.entry? op).toList.length =
          ((standing now (settings.entries ops)).succeeds op).toNat := length_entry?_toList op
      rw [hop] at hlen
      simpa using hlen
    rw [apply_standing, hnone, Option.toList_none, List.append_nil]
    change List.rtake _ (now.revise op).historySize = List.rtake _ now.historySize
    rw [Settings.historySize_revise]

end Session

end RulesText
