import RulesText.Console.Run
import RulesText.Proofs.Effects
import RulesText.Proofs.Emission
import RulesText.Proofs.History

/-!
Turns at the console: inputs and files, one after the other. An input that fails leaves the session
as it was, and after every turn the grammar is the one that the settings ask for.
-/
namespace RulesText

theorem Settings.mem_extractionTags {s : Settings} {tag : String} :
    tag ∈ s.grammar.layout.extractionTags ↔ tag ∈ s.extractionTags :=
  TagSet.mem_insertAll.trans (by simp [Cards.layout, Layout.register])

theorem Settings.mem_collapseTags {s : Settings} {tag : String} :
    tag ∈ s.grammar.layout.collapseTags ↔ tag ∈ s.collapseTags :=
  TagSet.mem_insertAll.trans (by simp [Layout.addExtractionTags, Cards.layout, Layout.register])

theorem Settings.isExtracting_grammar {s : Settings} :
    s.grammar.layout.isExtracting = s.isExtracting := by
  have hnone : s.grammar.layout.extractionTags = [] ↔ s.extractionTags = [] := by
    simp only [List.eq_nil_iff_forall_not_mem, mem_extractionTags]
  rw [Layout.isExtracting, isExtracting, Bool.eq_iff_iff]
  simp [hnone]

namespace Session

/-- The grammar is the one that the settings ask for. -/
def Consistent (s : Session) : Prop := s.grammar = s.settings.grammar

theorem process_atomic (text : CardText) : Effect.Atomic id (process text) := by
  refine Effect.quiet_get.bind fun s => ?_
  refine (Effect.quiet_outcome _).bind fun r => ?_
  exact ((Effect.sure_modify _).bind fun _ => Effect.sure_pure _).atomic

theorem process_consistent (text : CardText) : Effect.Keeps Consistent (process text) := by
  refine Effect.keeps_get.bind fun s => ?_
  refine (Effect.keeps_outcome _).bind fun r => ?_
  have hrecord : ∀ s : Session, s.Consistent → (s.record r.2.entry).Consistent := fun _ h => h
  exact (Effect.keeps_modify hrecord).bind fun _ => Effect.keeps_pure _

end Session

namespace Console

variable {α : Type} {c : Console} {step : Effect Session α} {change : Session → Session}

theorem run_onSession {o : Outcome α} {s : Session} (h : step.run c.session = (o, s)) :
    (onSession step).run c = (o, { c with session := s }) := by
  change ((step.run c.session).1, ({ c with session := (step.run c.session).2 } : Console)) = _
  rw [h]

/-- What the session keeps under some work is kept by that work at the console. -/
theorem keeps_onSession {I : Session → Prop} (h : Effect.Keeps I step) :
    Effect.Keeps (I ·.session) (onSession step) :=
  fun c hc => h c.session hc

theorem sure_onSession (h : Effect.Sure step) : Effect.Sure (onSession step) := by
  intro c
  obtain ⟨a, s, hrun⟩ := h c.session
  exact ⟨a, { c with session := s }, run_onSession hrun⟩

theorem atomic_onSession (h : Effect.Atomic id step) : Effect.Atomic session (onSession step) := by
  intro c f c' hfault
  cases hrun : step.run c.session with
  | mk o s =>
    rw [run_onSession hrun] at hfault
    cases hfault
    exact h c.session f s hrun

theorem sure_saying (s : String) : Effect.Sure (saying s change) :=
  (sure_onSession (Effect.sure_modify change)).bind fun _ => Effect.sure_pure _

theorem saying_consistent (s : String) (h : ∀ s, Session.Consistent s → (change s).Consistent) :
    Effect.Keeps (·.session.Consistent) (saying s change) :=
  (keeps_onSession (Effect.keeps_modify h)).bind fun _ => Effect.keeps_pure _

/-- A command that fails has not changed the session: what can fail is looked at before anything is
done. -/
theorem obey_atomic (command : Command) : Effect.Atomic session (obey command) := by
  cases command with
  | quit | help => exact (Effect.sure_pure _).atomic
  | source name =>
    simp only [obey]
    split
    · exact Effect.quiet_get.bind fun _ => (Effect.sure_pure _).atomic
    · exact (sure_saying _).atomic
  | extract tags | collapseTags tags | collapse | expand => exact (sure_saying _).atomic
  | toggleTree | toggleExport => exact Effect.quiet_get.bind fun _ => (sure_saying _).atomic
  | save path =>
    refine Effect.quiet_get.bind fun c => ?_
    refine (Effect.quiet_outcome _).bind fun files => ?_
    exact ((Effect.sure_modify _).bind fun _ => Effect.sure_pure _).atomic
  | load path =>
    refine Effect.quiet_get.bind fun c => ?_
    exact (Effect.quiet_outcome _).bind fun archive => (Effect.sure_pure _).atomic

theorem obey_consistent (command : Command) :
    Effect.Keeps (·.session.Consistent) (obey command) := by
  cases command with
  | quit | help => exact Effect.keeps_pure _
  | source name =>
    simp only [obey]
    split
    · exact Effect.keeps_get.bind fun _ => Effect.keeps_pure _
    · exact saying_consistent _ fun _ h => h
  | extract tags | collapseTags tags => exact saying_consistent _ fun _ _ => rfl
  | collapse | expand => exact saying_consistent _ fun _ h => h
  | toggleTree | toggleExport =>
    exact Effect.keeps_get.bind fun _ => saying_consistent _ fun _ h => h
  | save path =>
    refine Effect.keeps_get.bind fun c => ?_
    refine (Effect.keeps_outcome _).bind fun files => ?_
    have hfiles : ∀ c : Console, c.session.Consistent →
        ({ c with files } : Console).session.Consistent := fun _ h => h
    exact (Effect.keeps_modify hfiles).bind fun _ => Effect.keeps_pure _
  | load path =>
    refine Effect.keeps_get.bind fun c => ?_
    exact (Effect.keeps_outcome _).bind fun archive => Effect.keeps_pure _

theorem process_of_ok {lines : List String} {tree : Tree} {q : Sequence} {s : Session}
    (h : (Session.process (.lines lines)).run c.session = (.ok (tree, q), s)) :
    (process lines).run c = (.ok (s.settings.render tree q), { c with session := s }) := by
  rw [process, Effect.run_bind_of_ok (run_onSession h)]
  rfl

theorem process_atomic (lines : List String) : Effect.Atomic session (process lines) := by
  refine (atomic_onSession (Session.process_atomic _)).bind fun r => ?_
  exact fun c => ⟨_, c, rfl⟩

theorem process_consistent (lines : List String) :
    Effect.Keeps (·.session.Consistent) (process lines) := by
  refine (keeps_onSession (Session.process_consistent _)).bind fun r => ?_
  exact Effect.keeps_get.bind fun c => Effect.keeps_pure _

theorem evalLines_atomic (lines : List String) : Effect.Atomic session (evalLines lines) := by
  unfold evalLines
  split
  · exact (Effect.quiet_outcome _).bind obey_atomic
  · exact (process_atomic lines).bind fun _ => Effect.sure_pure _

theorem evalLines_consistent (lines : List String) :
    Effect.Keeps (·.session.Consistent) (evalLines lines) := by
  unfold evalLines
  split
  · exact (Effect.keeps_outcome _).bind obey_consistent
  · exact (process_consistent lines).bind fun _ => Effect.keeps_pure _

theorem evalFile_of_ok {path text : String} (h : c.files.readText path = .ok text) :
    (evalFile path).run c = (process (Text.lines text)).run c := by
  have hread : (liftM (c.files.readText path) : Effect Console String).run c = (.ok text, c) := by
    rw [Effect.run_outcome, h]
  rw [evalFile, Effect.run_get_bind, Effect.run_bind_of_ok hread]

theorem evalFile_atomic (path : String) : Effect.Atomic session (evalFile path) :=
  Effect.quiet_get.bind fun _ => (Effect.quiet_outcome _).bind fun _ => process_atomic _

theorem evalFile_consistent (path : String) :
    Effect.Keeps (·.session.Consistent) (evalFile path) :=
  Effect.keeps_get.bind fun _ => (Effect.keeps_outcome _).bind fun _ => process_consistent _

/-- What can happen at a console: lines are typed, a card file is given, or the files are changed by
someone else. -/
inductive Turn where
  | lines (ls : List String)
  | file (path : String)
  | elsewhere (files : Files)

/-- The console after a turn, whether it has failed or not. -/
def Turn.apply (c : Console) : Turn → Console
  | lines ls => ((evalLines ls).run c).2
  | file path => ((evalFile path).run c).2
  | elsewhere files => { c with files }

/-- The console after these turns. -/
def after (c : Console) (turns : List Turn) : Console := turns.foldl Turn.apply c

theorem Turn.apply_consistent (turn : Turn) (h : c.session.Consistent) :
    (turn.apply c).session.Consistent := by
  cases turn with
  | lines ls => exact evalLines_consistent ls c h
  | file path => exact evalFile_consistent path c h
  | elsewhere files => exact h

theorem after_consistent (turns : List Turn) (h : c.session.Consistent) :
    (c.after turns).session.Consistent := by
  induction turns generalizing c with
  | nil => exact h
  | cons turn turns ih => exact ih (turn.apply_consistent h)

theorem after_append {turns more : List Turn} :
    c.after (turns ++ more) = (c.after turns).after more := List.foldl_append

/-- Lines that are not blank are a turn. -/
theorem take_eq_after (c : Console) (t : Transcript) (ls : List String) :
    ∃ turns, (c.take t ls).1 = c.after turns := by
  unfold take
  split
  · exact ⟨[], rfl⟩
  · refine ⟨[.lines ls], ?_⟩
    change _ = ((evalLines ls).run c).2
    split <;> next hrun => rw [hrun]

theorem loop_eq_after (phrases : Phrases) (c : Console) (t : Transcript) (inputs : List Gathered) :
    ∃ turns, (loop phrases c t inputs).1 = c.after turns := by
  induction inputs generalizing c t with
  | nil => exact ⟨[], rfl⟩
  | cons g rest ih =>
    unfold loop
    simp only
    generalize { t with prompts := t.prompts ++ _ } = t
    split
    · exact ⟨[], rfl⟩
    · exact ih c _
    · exact ih c _
    · next ls _ =>
      obtain ⟨turns, hturns⟩ := take_eq_after c t ls
      generalize c.take t ls = r at hturns ⊢
      obtain ⟨c', t', goesOn⟩ := r
      cases goesOn with
      | false => exact ⟨turns, hturns⟩
      | true =>
        obtain ⟨more, hmore⟩ := ih c' t'
        refine ⟨turns ++ more, ?_⟩
        rw [after_append, ← hturns]
        exact hmore

/-- Whatever has happened at a console, an input or a file that fails leaves the settings, the
grammar and the history as they were, and the grammar extracts and collapses the tags of the
settings. A whole run of the console is made of such turns. -/
theorem turns_atomic_consistent (settings : Settings) (files : Files) (turns : List Turn) :
    let c := (Console.mk (.new settings) files).after turns
    (∀ line f c', (eval line).run c = (.error f, c') → c'.session = c.session) ∧
    (∀ lines f c', (evalLines lines).run c = (.error f, c') → c'.session = c.session) ∧
    (∀ path f c', (evalFile path).run c = (.error f, c') → c'.session = c.session) ∧
    (∀ tag, tag ∈ c.session.grammar.layout.extractionTags ↔
      tag ∈ c.session.settings.extractionTags) ∧
    (∀ tag, tag ∈ c.session.grammar.layout.collapseTags ↔ tag ∈ c.session.settings.collapseTags) ∧
    c.session.grammar.layout.isExtracting = c.session.settings.isExtracting ∧
    ∀ phrases t events, ∃ more, (c.run phrases t events).1 = c.after more := by
  intro c
  have hc : c.session.grammar = c.session.settings.grammar :=
    after_consistent (c := ⟨.new settings, files⟩) turns rfl
  refine ⟨fun line => evalLines_atomic [line] c, fun lines => evalLines_atomic lines c,
    fun path => evalFile_atomic path c, ?_, ?_, ?_, ?_⟩
  · intro tag
    rw [hc]
    exact Settings.mem_extractionTags
  · intro tag
    rw [hc]
    exact Settings.mem_collapseTags
  · rw [hc]
    exact Settings.isExtracting_grammar
  · intro phrases t events
    exact loop_eq_after phrases c _ (Input.all events)

end Console

end RulesText
