import RulesText.Flatten.Script
import RulesText.Proofs.Linearization
import RulesText.Proofs.Occurrence
import RulesText.Proofs.SinkRuns

/-!
Conservation of lines. A handler reaches the sink through its operations only, but may use them in
any way: hold and never splice, splice where nothing is held, or go on after a fault. What is
written in the end is what was pushed on the way, each line once.
-/
namespace RulesText

namespace Emit

variable {α β : Type} {x : Emit α} {g : α → Emit β} {a : α} {e e' : Emitter} {fault : Fault}
  {log log' : List (Sink.Op Line)}

/-- The operations that a run of a step does on the sink, in order. -/
inductive Logs : {α : Type} → Emit α → Emitter → List (Sink.Op Line) → Prop where
  /-- A step may look at the state, note something or fail without touching the sink. -/
  | quiet {α : Type} {x : Emit α} {e : Emitter} (h : (x.run e).2.sink = e.sink) : Logs x e []
  | push {l : Line} {e : Emitter} : Logs (Emit.push l) e [.push l]
  | hold {e : Emitter} : Logs Emit.hold e [.hold]
  | spliceAfter {index : Nat} {e : Emitter} : Logs (Emit.spliceAfter index) e [.spliceAfter index]
  | bind {α β : Type} {x : Emit α} {g : α → Emit β} {a : α} {e e' : Emitter}
      {log log' : List (Sink.Op Line)} (hx : Logs x e log) (hr : x.run e = (.ok a, e'))
      (hg : Logs (g a) e' log') : Logs (x >>= g) e (log ++ log')
  | bindFault {α β : Type} {x : Emit α} {g : α → Emit β} {f : Fault} {e e' : Emitter}
      {log : List (Sink.Op Line)} (hx : Logs x e log) (hr : x.run e = (.error f, e')) :
      Logs (x >>= g) e log
  | caught {α : Type} {x : Emit α} {g : Fault → Emit α} {f : Fault} {e e' : Emitter}
      {log log' : List (Sink.Op Line)} (hx : Logs x e log) (hr : x.run e = (.error f, e'))
      (hg : Logs (g f) e' log') : Logs (tryCatch x g) e (log ++ log')
  | uncaught {α : Type} {x : Emit α} {g : Fault → Emit α} {a : α} {e e' : Emitter}
      {log : List (Sink.Op Line)} (hx : Logs x e log) (hr : x.run e = (.ok a, e')) :
      Logs (tryCatch x g) e log
  | inFrame {α : Type} {x : Emit α} {frame : String} {e : Emitter} {log : List (Sink.Op Line)}
      (hx : Logs x e log) : Logs (Emit.inFrame frame x) e log

theorem run_tryCatch_of_fault {g : Fault → Emit α} (h : x.run e = (.error fault, e')) :
    (tryCatch x g).run e = (g fault).run e' := by
  have hx : x e = (.error fault, e') := h
  simp only [tryCatch, tryCatchThe, MonadExceptOf.tryCatch, ExceptT.tryCatch, ExceptT.run,
    ExceptT.mk, Bind.bind, StateT.bind, hx]

theorem run_tryCatch_of_ok {g : Fault → Emit α} (h : x.run e = (.ok a, e')) :
    (tryCatch x g).run e = (.ok a, e') := by
  have hx : x e = (.ok a, e') := h
  simp only [tryCatch, tryCatchThe, MonadExceptOf.tryCatch, ExceptT.tryCatch, ExceptT.run,
    ExceptT.mk, Bind.bind, StateT.bind, hx]
  rfl

/-- The log says all that a run does to the sink. -/
theorem Logs.sink_eq (h : Logs x e log) : (x.run e).2.sink = e.sink.after log := by
  induction h with
  | quiet h => exact h
  | push => rfl
  | hold => rfl
  | spliceAfter => rfl
  | bind _ hr _ ihx ihg =>
    rw [hr] at ihx
    rw [Effect.run_bind_of_ok hr, ihg, Sink.after_append, ← ihx]
  | bindFault _ hr ihx =>
    rw [Effect.run_bind_of_fault hr, ← ihx, hr]
  | caught _ hr _ ihx ihg =>
    rw [hr] at ihx
    rw [run_tryCatch_of_fault hr, ihg, Sink.after_append, ← ihx]
  | uncaught _ hr ihx =>
    rw [run_tryCatch_of_ok hr, ← ihx, hr]
  | inFrame _ ihx => exact ihx

/-- Every run of the step has a log: it reaches the sink through its operations only. -/
def Confined (x : Emit α) : Prop := ∀ e, ∃ log, Logs x e log

namespace Confined

theorem quiet (h : ∀ e, (x.run e).2.sink = e.sink) : Confined x := fun e => ⟨[], .quiet (h e)⟩

theorem pure : Confined (Pure.pure a) := quiet fun _ => rfl

theorem push {l : Line} : Confined (Emit.push l) := fun _ => ⟨_, .push⟩

theorem hold : Confined Emit.hold := fun _ => ⟨_, .hold⟩

theorem spliceAfter {index : Nat} : Confined (Emit.spliceAfter index) := fun _ => ⟨_, .spliceAfter⟩

theorem note {n : Note} : Confined (Emit.note n) := quiet fun _ => rfl

theorem bind (hx : Confined x) (hg : ∀ a, Confined (g a)) : Confined (x >>= g) := by
  intro e
  obtain ⟨log, hlog⟩ := hx e
  cases hr : x.run e with
  | mk o e' =>
    cases o with
    | error f => exact ⟨log, hlog.bindFault hr⟩
    | ok a =>
      obtain ⟨log', hlog'⟩ := hg a e'
      exact ⟨log ++ log', hlog.bind hr hlog'⟩

theorem inFrame {frame : String} (hx : Confined x) : Confined (Emit.inFrame frame x) := by
  intro e
  obtain ⟨log, hlog⟩ := hx e
  exact ⟨log, hlog.inFrame⟩

theorem discarded (hx : Confined x) : Confined (discard x) := by
  rw [discard_eq_bind]
  exact hx.bind fun _ => pure

theorem each {steps : List (Emit Unit)} (h : ∀ step ∈ steps, Confined step) :
    Confined (Emit.each steps) := by
  induction steps with
  | nil => exact pure
  | cons step steps ih =>
    exact (h step (.head _)).bind fun _ => ih fun other ho => h other (.tail _ ho)

end Confined

end Emit

open Emit

/-- All ways to write the fields of the node reach the sink through its operations only. -/
def Site.Confined (s : Site) : Prop :=
  ∀ b ∈ s.branches, (∀ n, (b.flatten n).Confined) ∧ ∀ item ∈ b.items, ∀ n, (item n).Confined

/-- A handler that reaches the sink through its operations only. -/
def Handler.Confined (h : Handler) : Prop := ∀ s : Site, s.Confined → (h s).Confined

namespace Site

variable {s : Site} {name : String} {n : Int}

theorem Confined.flatten (h : s.Confined) : (s.flatten name n).Confined := by
  unfold Site.flatten
  split
  · next b hb => exact (h b (List.mem_of_find?_eq_some hb)).1 n
  · exact .pure

theorem Confined.flattenFramed (h : s.Confined) : (s.flattenFramed name n).Confined :=
  h.flatten.discarded.inFrame

theorem Confined.items {b : Branch} {frame : String} (h : s.Confined) (hb : b ∈ s.branches) :
    (Emit.each (b.items.map fun item => Emit.inFrame frame (discard (item n)))).Confined := by
  apply Emit.Confined.each
  intro step hstep
  obtain ⟨item, hitem, rfl⟩ := List.mem_map.mp hstep
  exact ((h b hb).2 item hitem n).discarded.inFrame

theorem Confined.sequenceRule (h : s.Confined) : s.sequenceRule.Confined := by
  unfold Site.sequenceRule
  split
  · next b hb => exact h.items (List.mem_of_find?_eq_some hb)
  · exact .pure

theorem Confined.conditionRule (h : s.Confined) : (s.conditionRule n).Confined := by
  refine .bind .push fun _ => .bind (.quiet fun _ => rfl) fun policy => ?_
  cases policy with
  | expand =>
    exact .bind .push fun _ => .bind h.flattenFramed fun _ => .bind .push fun _ =>
      .bind h.flattenFramed fun _ => .push
  | collapse => exact h.flattenFramed

theorem Confined.paramsRule (h : s.Confined) : (s.paramsRule n).Confined := by
  apply Emit.Confined.each
  intro step hstep
  obtain ⟨b, hb, rfl⟩ := List.mem_map.mp hstep
  refine .bind .push fun _ => ?_
  cases b.value with
  | symbol v => exact ((h b hb).1 _).discarded.inFrame
  | list vs => exact h.items hb
  | _ => exact .pure

/-- Writing a node is confined if its handler is; the rules of the shapes always are. -/
theorem Confined.write {handler : Option Handler} (h : s.Confined)
    (hh : ∀ f, handler = some f → f.Confined) : (s.write handler).Confined := by
  refine .bind (.quiet fun _ => rfl) fun _ => ?_
  cases s.node.shape with
  | noOp => exact .pure
  | sequence => exact h.sequenceRule
  | condition =>
    cases handler with
    | none => exact h.conditionRule
    | some f => exact (hh f rfl s h).inFrame
  | plain =>
    cases handler with
    | none => exact .push
    | some f => exact (hh f rfl s h).inFrame

end Site

theorem Step.run_confined {s : Site} (h : s.Confined) (marks : List Nat) (step : Step) :
    (step.run s marks).Confined := by
  obtain ⟨action, inset⟩ := step
  cases action with
  | node strip => exact .bind .push fun _ => .pure
  | emit o =>
    cases o with
    | ok symbol => exact .bind .push fun _ => .pure
    | error f => exact .quiet fun _ => rfl
  | marker m => exact .bind .push fun _ => .pure
  | param field => exact .bind .push fun _ => .pure
  | params => exact .bind h.paramsRule fun _ => .pure
  | flatten field => exact .bind h.flatten fun _ => .bind .note fun _ => .pure
  | conditionRule => exact .bind h.conditionRule fun _ => .pure
  | mark => exact .quiet fun _ => rfl
  | hold => exact .bind .hold fun _ => .pure
  | splice index => exact .bind .spliceAfter fun _ => .bind .note fun _ => .pure
  | probe => exact .quiet fun _ => rfl
  | debug => exact .quiet fun _ => rfl
  | fail detail => exact .quiet fun _ => rfl

/-- Whatever a script says, it only works on the sink through its operations. -/
theorem Script.handler_confined (script : Script) : (Script.handler script).Confined := by
  intro s h
  have hrun : ∀ marks, (Script.run s marks script).Confined := by
    induction script with
    | nil => exact fun _ => .pure
    | cons step rest ih => exact fun marks => .bind (step.run_confined h marks) ih
  exact hrun []

section

variable {handlers : String → Option Handler}

theorem Value.mem_branches {p : Payload} {b : Branch} (h : b ∈ Value.branches handlers p) :
    ∃ k : Nat, p[k]? = some (b.name, b.value) ∧ b.flatten = b.value.flatten handlers ∧
      b.items = b.value.itemsOf handlers := by
  induction p with
  | nil => cases h
  | cons field rest ih =>
    obtain ⟨name, v⟩ := field
    rcases List.mem_cons.mp h with rfl | h
    · exact ⟨0, rfl, rfl, rfl⟩
    · obtain ⟨k, hk, hb⟩ := ih h
      exact ⟨k + 1, hk, hb⟩

/-- Flattening is confined if all handlers are. -/
theorem Value.flatten_confined (hh : ∀ tag h, handlers tag = some h → h.Confined) (v : Value) :
    (∀ n, (v.flatten handlers n).Confined) ∧
      ∀ item ∈ v.itemsOf handlers, ∀ n, (item n).Confined := by
  induction v using Value.inner_induction with
  | value v ih =>
    cases v with
    | symbol s =>
      refine ⟨fun n => ?_, fun item hitem => (List.not_mem_nil hitem).elim⟩
      have hsite : (s.site handlers n).Confined := by
        intro b hb
        obtain ⟨k, hk, hf, hi⟩ := Value.mem_branches hb
        rw [hf, hi]
        exact ih k b.value (Value.inner?_symbol.mpr ⟨b.name, hk⟩)
      rw [Value.flatten, Symbol.flatten_eq_write]
      exact .bind (hsite.write fun f hf => hh s.tag f hf) fun _ => .pure
    | list vs =>
      refine ⟨fun n => .quiet fun _ => rfl, ?_⟩
      intro item hitem
      rw [Value.itemsOf, Value.flattens_eq_map] at hitem
      obtain ⟨w, hw, rfl⟩ := List.mem_map.mp hitem
      obtain ⟨k, hk⟩ := List.mem_iff_getElem?.mp hw
      exact (ih k w hk).1
    | _ => exact ⟨fun n => .quiet fun _ => rfl, fun item hitem => (List.not_mem_nil hitem).elim⟩

end

/-- What is promised of any operations on a new sink. Entries are told apart by their stamps. -/
structure Sink.Conserved {α : Type} (ops : List (Op α)) : Prop where
  each_once : (({} : Sink α).after ops).finish.Perm (pushes ops)
  stamps_erase : (({} : Sink (Pushed α)).after (stamp 1 [] ops)).map Pushed.entry =
    ({} : Sink α).after ops
  stamps_differ : (pushes (stamp 1 [] ops)).Pairwise (·.time < ·.time)
  each_stamp_once :
    (({} : Sink (Pushed α)).after (stamp 1 [] ops)).finish.Perm (pushes (stamp 1 [] ops))
  frames_in_order : (({} : Sink (Pushed α)).after (stamp 1 [] ops)).finish.Pairwise
    fun x y => x.frame = y.frame → x.time < y.time
  /-- A splice gives the number of entries that it moves. -/
  splices_count : ∀ (first rest : List (Op α)) (index : Nat),
    ops = first ++ .spliceAfter index :: rest →
      let s := ({} : Sink α).after first
      (s.frames = [] ∧ s.spliceAfter index = (0, s)) ∨
      ∃ (below : Sink α) (moved before behind : List α),
        s = ⟨below.output, moved :: below.frames⟩ ∧ below.target = before ++ behind ∧
        before.length = min (index + 1) below.length ∧
        s.spliceAfter index = (moved.length, below.setTarget (before ++ moved ++ behind))

namespace Layout

variable {l : Layout} {tree : Tree} {policy : Policy}

/-- Writing out a tree is flattening its root; without a root nothing is done. -/
theorem emit_state : (l.emit tree policy).2 =
    (((Value.ofSymbol? tree.logic).flatten l.handler? (-1)).run (l.emitter policy)).2 := by
  rw [emit_eq_discard, Emit.discard_eq_bind]
  generalize hr : ((Value.ofSymbol? tree.logic).flatten l.handler? (-1)).run (l.emitter policy) = r
  obtain ⟨o, e⟩ := r
  cases o with
  | error f => rw [Effect.run_bind_of_fault hr]
  | ok u =>
    rw [Effect.run_bind_of_ok hr]
    rfl

/-- No entry of a sink is lost, doubled or moved before an earlier one of its frame, so what a
layout writes out is what its handlers and the rules of the shapes push, each line once. -/
theorem emit_conserves_lines {α : Type} (ops : List (Sink.Op α))
    (hl : ∀ tag h, l.handler? tag = some h → h.Confined) (tree : Tree) (policy : Policy) :
    Sink.Conserved ops ∧
    (∃ log, Logs ((Value.ofSymbol? tree.logic).flatten l.handler? (-1)) (l.emitter policy) log) ∧
    ∀ log, Logs ((Value.ofSymbol? tree.logic).flatten l.handler? (-1)) (l.emitter policy) log →
      (l.emit tree policy).2.sink.finish.Perm (Sink.pushes log) := by
  refine ⟨?_, (Value.flatten_confined hl _).1 (-1) _, ?_⟩
  · exact {
      each_once := Sink.finish_after_perm ops
      stamps_erase := Sink.map_entry_after_stamp ops
      stamps_differ := Sink.pairwise_time_stamp ops
      each_stamp_once := Sink.finish_after_perm _
      frames_in_order := Sink.pairwise_finish_stamp ops
      splices_count := fun first _ index _ => Sink.spliceAfter_cases _ index }
  · intro log hlog
    rw [emit_state, hlog.sink_eq]
    exact Sink.finish_after_perm log

/-- Holds twice, closes only the inner frame, and that past the end. -/
def unclosedScript : Script :=
  [⟨.hold, 0⟩, ⟨.node [resultField], 0⟩, ⟨.hold, 0⟩, ⟨.conditionRule, 1⟩, ⟨.splice (some 99), 0⟩]

theorem unclosed_conserves_lines :
    let l : Layout := register {} Cards.may.tag (Script.handler unclosedScript)
    let ops : List (Sink.Op Nat) := [.spliceAfter 3, .push 1, .push 2, .hold, .push 3, .hold,
      .push 4, .spliceAfter 18446744073709551615, .push 5, .spliceAfter 0, .hold, .push 6]
    (({} : Sink Nat).after ops).finish = [1, 3, 4, 5, 2, 6] ∧ Sink.Conserved ops ∧
    (∀ tag h, l.handler? tag = some h → h.Confined) ∧
    (l.emit nestedChoicesCard .expand).2.sink.frames.length = 2 ∧
    ∃ log, Logs ((Value.ofSymbol? nestedChoicesCard.logic).flatten l.handler? (-1))
        (l.emitter .expand) log ∧
      (l.emit nestedChoicesCard .expand).2.sink.finish.Perm (Sink.pushes log) := by
  intro l ops
  have hl : ∀ tag h, l.handler? tag = some h → h.Confined := by
    intro tag h hh
    by_cases ht : tag = Cards.may.tag
    · subst ht
      obtain rfl := Option.some.inj hh
      exact Script.handler_confined _
    · have ht' : (tag == Cards.may.tag) = false := by simpa using ht
      simp [l, register, handler?, List.lookup_cons, ht'] at hh
  obtain ⟨hops, ⟨log, hlog⟩, hperm⟩ := emit_conserves_lines ops hl nestedChoicesCard .expand
  exact ⟨by decide, hops, hl, by decide +kernel, log, hlog, hperm log hlog⟩

end Layout

end RulesText
