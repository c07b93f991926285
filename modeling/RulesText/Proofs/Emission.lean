import RulesText.Proofs.Sink
import RulesText.Flatten.Handler

/-!
What steps of a flattening write. A step is described by the fault it ends in, if any, what it gives
back, its lines and the tags it records, from every state at once; the descriptions are composed the
way the steps are.
-/
namespace RulesText

namespace TagSet

variable {s : TagSet} {tag other : String} {ts us : List String}

theorem insertAll_nil : s.insertAll [] = s := rfl

theorem insertAll_append : s.insertAll (ts ++ us) = (s.insertAll ts).insertAll us :=
  List.foldl_append

theorem mem_insert : tag ∈ s.insert other ↔ tag = other ∨ tag ∈ s := by
  induction s with
  | nil => simp [insert]
  | cons t rest ih =>
    unfold insert
    split
    · exact List.mem_cons
    · split
      · next heq => simp [heq]
      · rw [List.mem_cons, ih, List.mem_cons]
        exact or_left_comm

theorem mem_insertAll : tag ∈ s.insertAll ts ↔ tag ∈ s ∨ tag ∈ ts := by
  induction ts generalizing s with
  | nil => simp [insertAll]
  | cons t ts ih =>
    have hstep : s.insertAll (t :: ts) = (s.insert t).insertAll ts := rfl
    rw [hstep, ih, mem_insert, List.mem_cons, or_comm (a := tag = t), or_assoc]

theorem mem_ofList : tag ∈ ofList ts ↔ tag ∈ ts := by
  rw [ofList, mem_insertAll, or_iff_right List.not_mem_nil]

end TagSet

namespace Emitter

variable {e : Emitter} {ls ks : List Line} {ts us : List String}

/-- The state after these lines and tags. -/
def extend (e : Emitter) (ls : List Line) (ts : List String) : Emitter :=
  { e with sink := e.sink.append ls, tags := e.tags.map (·.insertAll ts) }

theorem extend_nil : e.extend [] [] = e := by
  cases e
  simp [extend, Sink.append_nil, TagSet.insertAll]

theorem extend_extend : (e.extend ls ts).extend ks us = e.extend (ls ++ ks) (ts ++ us) := by
  simp [extend, Sink.append_append, Function.comp_def, TagSet.insertAll_append]

/-- The state with another frame open. -/
def hold (e : Emitter) : Emitter := { e with sink := e.sink.hold }

/-- The state with the innermost frame closed after a line. -/
def splice (e : Emitter) (index : Nat) : Emitter :=
  { e with sink := (e.sink.spliceAfter index).2 }

theorem splice_before (h : 0 < e.sink.length) :
    ((e.extend ks []).hold.extend ls ts).splice (e.sink.length - 1) = e.extend (ls ++ ks) ts := by
  simp only [splice, extend, hold, Sink.spliceAfter_before h, Option.map_map]
  rfl

end Emitter

namespace Emit

variable {α β : Type} {policy : Policy} {least : Nat} {a : α} {b : β} {f f' : Option Fault}
  {ls ks : List Line} {ts us : List String}

/-- From every state of that policy whose target has at least so many lines: the step either ends in
the fault, or gives the value back and adds exactly these lines and tags. -/
def Writes (policy : Policy) (least : Nat) (step : Emit α) (fault : Option Fault) (value : α)
    (ls : List Line) (ts : List String) : Prop :=
  ∀ e : Emitter, e.policy = policy → least ≤ e.sink.length →
    match fault with
    | none => step.run e = (.ok value, e.extend ls ts)
    | some f => (step.run e).1 = .error f

theorem run_bind_of_error {x : Emit α} {g : α → Emit β} {e : Emitter} {fault : Fault}
    (h : (x.run e).1 = .error fault) : ((x >>= g).run e).1 = .error fault := by
  change (match x.run e with | (o, e') => ExceptT.bindCont g o e').1 = _
  generalize x.run e = r at h ⊢
  obtain ⟨o, e'⟩ := r
  cases h
  rfl

theorem run_inFrame {x : Emit α} {frame : String} {e : Emitter} :
    (inFrame frame x).run e = (Outcome.inFrame (x.run e).1 frame, (x.run e).2) := rfl

theorem discard_eq_bind {x : Emit α} : discard x = x >>= fun _ => pure () := by
  rw [Functor.discard, map_const]
  exact map_eq_pure_bind _ _

theorem Writes.bind {x : Emit α} {g : α → Emit β} (hx : Writes policy least x f a ls ts)
    (hg : Writes policy (least + ls.length) (g a) f' b ks us) :
    Writes policy least (x >>= g) (f.or f') b (ls ++ ks) (ts ++ us) := by
  intro e he hl
  cases f with
  | some fault => exact run_bind_of_error (hx e he hl)
  | none =>
    have hx : x.run e = (.ok a, e.extend ls ts) := hx e he hl
    have hl' : least + ls.length ≤ (e.extend ls ts).sink.length := by
      rw [Emitter.extend, Sink.length_append]
      omega
    have hg := hg (e.extend ls ts) he hl'
    rw [Emitter.extend_extend] at hg
    rw [Effect.run_bind_of_ok hx]
    exact hg

/-- A run that gives a value back met no fault, and has added the lines and tags. -/
theorem Writes.of_ok {step : Emit α} {e e' : Emitter} {r : α}
    (h : Writes policy least step f a ls ts) (he : e.policy = policy)
    (hl : least ≤ e.sink.length) (hr : step.run e = (.ok r, e')) :
    f = none ∧ r = a ∧ e' = e.extend ls ts := by
  cases f with
  | some fault =>
    have h : (step.run e).1 = .error fault := h e he hl
    rw [hr] at h
    cases h
  | none =>
    have h : step.run e = (.ok a, e.extend ls ts) := h e he hl
    rw [hr] at h
    cases h
    exact ⟨rfl, rfl, rfl⟩

theorem Writes.outcome {step : Emit α} {e : Emitter} (h : Writes policy least step f a ls ts)
    (he : e.policy = policy) (hl : least ≤ e.sink.length) :
    (step.run e).1 = f.elim (.ok a) .error := by
  have h := h e he hl
  cases f with
  | some fault => exact h
  | none => exact congrArg Prod.fst h

theorem Writes.mono {step : Emit α} {more : Nat} (h : Writes policy least step f a ls ts)
    (hl : least ≤ more) : Writes policy more step f a ls ts :=
  fun e he hm => h e he (Nat.le_trans hl hm)

theorem Writes.inFrame {step : Emit α} (frame : String) (h : Writes policy least step f a ls ts) :
    Writes policy least (inFrame frame step) (f.map (·.inFrame frame)) a ls ts := by
  intro e he hl
  rw [run_inFrame]
  cases f with
  | some fault =>
    have h : (step.run e).1 = .error fault := h e he hl
    rw [h]
    rfl
  | none =>
    have h : step.run e = (.ok a, e.extend ls ts) := h e he hl
    rw [h]
    rfl

theorem writes_pure : Writes policy least (pure a) none a [] [] := by
  intro e _ _
  rw [Emitter.extend_nil]
  rfl

theorem Writes.discarded {step : Emit α} (h : Writes policy least step f a ls ts) :
    Writes policy least (discard step) f () ls ts := by
  have hw : Writes policy least (step >>= fun _ => pure ()) _ () _ _ := h.bind writes_pure
  rwa [← discard_eq_bind, Option.or_none, List.append_nil, List.append_nil] at hw

theorem findSome?_cons_or {γ δ : Type} (g : γ → Option δ) (x : γ) (xs : List γ) :
    (x :: xs).findSome? g = (g x).or (xs.findSome? g) := by
  rw [List.findSome?_cons]
  cases g x <;> rfl

/-- Steps run one after the other end in the first fault of any. -/
theorem writes_each {γ : Type} {xs : List γ} {step : γ → Emit Unit} {fault : γ → Option Fault}
    {lines : γ → List Line} {tags : γ → List String}
    (h : ∀ x ∈ xs, Writes policy 0 (step x) (fault x) () (lines x) (tags x)) :
    Writes policy least (each (xs.map step)) (xs.findSome? fault) () (xs.flatMap lines)
      (xs.flatMap tags) := by
  induction xs generalizing least with
  | nil => exact writes_pure
  | cons x xs ih =>
    have hx := (h x (.head _)).mono (Nat.zero_le least)
    rw [findSome?_cons_or]
    exact hx.bind (ih fun y hy => h y (.tail _ hy))

theorem writes_fail {c : Cause} : Writes policy least (fail c) (some ⟨c, none⟩) a ls ts :=
  fun _ _ _ => rfl

theorem writes_policy : Writes policy least Emit.policy none policy [] [] := by
  intro e he _
  rw [Emitter.extend_nil, ← he]
  rfl

theorem writes_push {l : Line} : Writes policy least (push l) none () [l] [] := by
  intro e _ _
  change (_, { e with sink := e.sink.push l }) = _
  simp only [Emitter.extend, Sink.push_eq_append, TagSet.insertAll_nil, Option.map_id']

theorem writes_record {tag : String} : Writes policy least (record tag) none () [] [tag] := by
  intro e _ _
  change (_, { e with tags := e.tags.map (TagSet.insert · tag) }) = _
  simp only [Emitter.extend, Sink.append_nil]
  rfl

theorem run_length {e : Emitter} : Emit.length.run e = (.ok e.sink.length, e) := rfl

theorem run_hold {e : Emitter} : hold.run e = (.ok (), e.hold) := rfl

theorem run_discard_spliceAfter {e : Emitter} {index : Nat} :
    (discard (spliceAfter index)).run e = (.ok (), e.splice index) := rfl

/-- What a step writes while held comes right after the last line that was there, whatever was
written in between. -/
theorem writes_spliced {closing : Emit Unit} {step : Emit α} (hl : 1 ≤ least)
    (hc : Writes policy least closing none () ks []) (h : Writes policy 0 step f a ls ts) :
    Writes policy least (do
      let n ← Emit.length
      closing
      hold
      discard step
      discard (spliceAfter (n - 1))) f () (ls ++ ks) ts := by
  intro e he hn
  have hc : closing.run e = (.ok (), e.extend ks []) := hc e he hn
  have h := h.discarded (e.extend ks []).hold he (Nat.zero_le _)
  rw [Effect.run_bind_of_ok run_length, Effect.run_bind_of_ok hc, Effect.run_bind_of_ok run_hold]
  cases f with
  | some fault => exact run_bind_of_error h
  | none =>
    have h : (discard step).run (e.extend ks []).hold =
      (.ok (), (e.extend ks []).hold.extend ls ts) := h
    rw [Effect.run_bind_of_ok h, run_discard_spliceAfter, Emitter.splice_before (by omega)]

end Emit

end RulesText
