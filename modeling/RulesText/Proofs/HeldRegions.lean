import RulesText.Proofs.SinkRuns

/-!
Held regions: operations that close all frames they open, and no others, between a hold and the
splice that closes it. They work as on a sink of their own, and the splice puts what comes of them
into the target beneath.
-/
namespace RulesText.Sink

variable {α : Type} {s base : Sink α} {ops ops' : List (Op α)} {index n m : Nat}

/-- How many frames are open after these operations if `n` are open before. There is no answer if
they close a frame that is none of these and that they did not open. -/
def openAfter : Nat → List (Op α) → Option Nat
  | n, [] => some n
  | n, .push _ :: ops => openAfter n ops
  | n, .hold :: ops => openAfter (n + 1) ops
  | 0, .spliceAfter _ :: _ => none
  | n + 1, .spliceAfter _ :: ops => openAfter n ops

/-- Operations that close every frame they open and no other. -/
def Balanced (ops : List (Op α)) : Prop := openAfter 0 ops = some 0

instance : Decidable (Balanced ops) := inferInstanceAs (Decidable (_ = _))

theorem openAfter_append :
    openAfter n (ops ++ ops') = (openAfter n ops).bind (openAfter · ops') := by
  induction ops generalizing n with
  | nil => rfl
  | cons op ops ih =>
    cases op with
    | push a => exact ih
    | hold => exact ih
    | spliceAfter index =>
      cases n with
      | zero => rfl
      | succ n => exact ih

/-- A sink on top of another one: what is the output of the first is the innermost frame of the
second. -/
def atop (s base : Sink α) : Sink α := ⟨base.output, s.frames ++ s.output :: base.frames⟩

theorem atop_empty : ({} : Sink α).atop base = base.hold := rfl

theorem atop_of_depth_eq_zero (h : s.depth = 0) : s.atop base = base.hold.append s.output := by
  have hframes : s.frames = [] := List.eq_nil_of_length_eq_zero h
  simp [atop, hframes, append, hold, setTarget, target]

theorem push_atop (a : α) : (s.atop base).push a = (s.push a).atop base := by
  obtain ⟨output, _ | ⟨frame, rest⟩⟩ := s <;> rfl

theorem depth_push (a : α) : (s.push a).depth = s.depth := by
  obtain ⟨output, _ | ⟨frame, rest⟩⟩ := s <;> rfl

/-- A splice that has a frame to close does not reach down to the sink beneath. -/
theorem spliceAfter_atop (base : Sink α) (index : Nat) (h : s.depth = n + 1) :
    ((s.atop base).spliceAfter index).2 = (s.spliceAfter index).2.atop base ∧
      (s.spliceAfter index).2.depth = n := by
  obtain ⟨output, _ | ⟨frame, rest⟩⟩ := s
  · cases h
  · obtain rfl : rest.length = n := Nat.succ.inj h
    cases rest <;> exact ⟨rfl, rfl⟩

/-- As long as no frame is closed that was open before, operations work on the sink on top alone. -/
theorem after_atop (base : Sink α) (h : openAfter s.depth ops = some m) :
    (s.atop base).after ops = (s.after ops).atop base ∧ (s.after ops).depth = m := by
  induction ops generalizing s with
  | nil => exact ⟨rfl, Option.some.inj h⟩
  | cons op ops ih =>
    cases op with
    | push a =>
      have hop : openAfter (s.push a).depth ops = some m := by
        rw [depth_push]
        exact h
      obtain ⟨hatop, hdepth⟩ := ih hop
      refine ⟨?_, hdepth⟩
      change ((s.atop base).push a).after ops = _
      rw [push_atop]
      exact hatop
    | hold => exact ih (s := s.hold) h
    | spliceAfter index =>
      cases hd : s.depth with
      | zero =>
        rw [hd] at h
        cases h
      | succ n =>
        rw [hd] at h
        obtain ⟨hsplice, hn⟩ := spliceAfter_atop base index hd
        obtain ⟨hatop, hdepth⟩ := ih (s := (s.spliceAfter index).2) (hn.symm ▸ h)
        refine ⟨?_, hdepth⟩
        change ((s.atop base).spliceAfter index).2.after ops = _
        rw [hsplice]
        exact hatop

theorem Balanced.openAfter_of_prefix (h : Balanced ops) (hp : ops' <+: ops) :
    ∃ n, openAfter 0 ops' = some n := by
  obtain ⟨rest, rfl⟩ := hp
  rw [Balanced, openAfter_append] at h
  obtain ⟨n, hn, -⟩ := Option.bind_eq_some_iff.mp h
  exact ⟨n, hn⟩

/-- Up to any point of a balanced run, what was there before is as it was, and what is held on top
of it is what the same operations make of a new sink. -/
theorem Balanced.hold_after (h : Balanced ops) (hp : ops' <+: ops) (s : Sink α) :
    s.hold.after ops' = (({} : Sink α).after ops').atop s := by
  obtain ⟨n, hn⟩ := h.openAfter_of_prefix hp
  rw [← atop_empty]
  exact (after_atop (s := {}) s hn).1

theorem Balanced.depth_after (h : Balanced ops) : (({} : Sink α).after ops).depth = 0 :=
  (after_atop (s := {}) {} h).2

/-- The second sink differs from the first in its target at most. -/
structure AgreesBeneath (s t : Sink α) : Prop where
  depth : t.depth = s.depth
  frames : t.frames.tail = s.frames.tail
  output : s.isHolding → t.output = s.output

theorem agreesBeneath_setTarget (s : Sink α) (xs : List α) : s.AgreesBeneath (s.setTarget xs) := by
  obtain ⟨output, _ | ⟨frame, rest⟩⟩ := s
  · exact ⟨rfl, rfl, fun h => nomatch h⟩
  · exact ⟨rfl, rfl, fun _ => rfl⟩

/-- A held region puts its own output right after an entry of the target beneath it and leaves
everything else. On the way nothing outside is touched or looked at. -/
theorem spliceAfter_held_region (s : Sink α) (ops : List (Op α)) (h : Balanced ops) (index : Nat) :
    let out := (({} : Sink α).after ops).output
    let place := min (index + 1) s.target.length
    ∃ t, (s.hold.after ops).spliceAfter index = (out.length, t) ∧
      t.target = s.target.take place ++ out ++ s.target.drop place ∧
      s.AgreesBeneath t ∧
      ∀ ops', ops' <+: ops → s.hold.after ops' = (({} : Sink α).after ops').atop s := by
  intro out place
  have hrun : s.hold.after ops = s.hold.append out := by
    rw [h.hold_after (List.prefix_refl ops)]
    exact atop_of_depth_eq_zero h.depth_after
  have htake : s.target.take (index + 1) = s.target.take place := by
    rw [List.take_eq_take_min]
  have hdrop : s.target.drop (index + 1) = s.target.drop place := by
    rw [List.drop_eq_drop_min]
  refine ⟨s.setTarget (s.target.take place ++ out ++ s.target.drop place), ?_, target_setTarget,
    agreesBeneath_setTarget s _, fun ops' hp => h.hold_after hp s⟩
  rw [hrun, spliceAfter_hold_append, htake, hdrop]

/-- Regions inside a region, with places in range and past the end. -/
theorem spliceAfter_nested_regions :
    let s : Sink Nat := ⟨[0], [[1, 2], [9]]⟩
    let ops : List (Op Nat) := [.push 3, .hold, .push 4, .hold, .push 5, .spliceAfter 7,
      .spliceAfter 0, .push 6]
    Balanced ops ∧ ∃ t, (s.hold.after ops).spliceAfter 0 = (4, t) ∧ t.target = [1, 3, 4, 5, 6, 2] ∧
      s.AgreesBeneath t := by
  intro s ops
  have hbalanced : Balanced ops := by decide
  obtain ⟨t, ht, htarget, hbeneath, -⟩ := spliceAfter_held_region s ops hbalanced 0
  exact ⟨hbalanced, t, ht, htarget, hbeneath⟩

end RulesText.Sink
