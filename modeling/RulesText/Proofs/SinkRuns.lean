import RulesText.Proofs.Sink

/-!
Runs of a sink: its operations in any order. Nothing that is pushed is lost or doubled, and entries
pushed to one frame stay in order, wherever that frame is closed into.
-/
namespace RulesText.Sink

variable {α β : Type} {s : Sink α} {a : α} {xs : List α} {index time bound : Nat}
  {opened : List Nat}

/-- What can be done to a sink. -/
inductive Op (α : Type) where
  | push (a : α)
  | hold
  | spliceAfter (index : Nat)

namespace Op

def apply (s : Sink α) : Op α → Sink α
  | push a => s.push a
  | hold => s.hold
  | spliceAfter index => (s.spliceAfter index).2

/-- What the operation pushes, if it is a push. -/
def pushed? : Op α → Option α
  | push a => some a
  | hold | spliceAfter _ => none

def map (f : α → β) : Op α → Op β
  | push a => push (f a)
  | hold => hold
  | spliceAfter index => spliceAfter index

end Op

/-- The sink after these operations. -/
def after (s : Sink α) (ops : List (Op α)) : Sink α := ops.foldl Op.apply s

/-- What these operations push, in order. -/
def pushes (ops : List (Op α)) : List α := ops.filterMap Op.pushed?

theorem after_append {ops ops' : List (Op α)} : s.after (ops ++ ops') = (s.after ops).after ops' :=
  List.foldl_append

/-- Everything under what is being written to, the output first. -/
def beneath (s : Sink α) : List α :=
  match s.frames with
  | [] => []
  | _ :: rest => s.output ++ rest.reverse.flatten

theorem finish_setTarget : (s.setTarget xs).finish = s.beneath ++ xs := by
  obtain ⟨output, _ | ⟨frame, rest⟩⟩ := s
  · simp [setTarget, finish, leftover, beneath]
  · simp [setTarget, finish, leftover, beneath]

theorem finish_eq : s.finish = s.beneath ++ s.target := by
  rw [← finish_setTarget, setTarget_target]

theorem finish_push : (s.push a).finish = s.finish ++ [a] := by
  rw [push, finish_setTarget, finish_eq, List.append_assoc]

theorem finish_hold : s.hold.finish = s.finish := by
  simp [hold, finish, leftover]

theorem finish_held (output frame : List α) (rest : List (List α)) :
    finish ⟨output, frame :: rest⟩ = finish ⟨output, rest⟩ ++ frame := by
  simp [finish, leftover]

/-- All that a splice can do: nothing if nothing is held, and else the innermost frame is put whole
between two parts of the target beneath it. -/
theorem spliceAfter_cases (s : Sink α) (index : Nat) :
    (s.frames = [] ∧ s.spliceAfter index = (0, s)) ∨
    ∃ (below : Sink α) (frame before behind : List α),
      s = ⟨below.output, frame :: below.frames⟩ ∧ below.target = before ++ behind ∧
      before.length = min (index + 1) below.length ∧
      s.spliceAfter index = (frame.length, below.setTarget (before ++ frame ++ behind)) := by
  obtain ⟨output, _ | ⟨frame, rest⟩⟩ := s
  · exact .inl ⟨rfl, rfl⟩
  · exact .inr ⟨⟨output, rest⟩, frame, _, _, rfl, (List.take_append_drop (index + 1) _).symm,
      List.length_take, rfl⟩

/-- One operation adds what it pushes and moves the rest. -/
theorem finish_apply_perm (op : Op α) :
    (op.apply s).finish.Perm (s.finish ++ op.pushed?.toList) := by
  cases op with
  | push a => exact .of_eq finish_push
  | hold => simp [Op.apply, Op.pushed?, finish_hold]
  | spliceAfter index =>
    rcases s.spliceAfter_cases index with ⟨-, hs⟩ | ⟨below, frame, before, behind, rfl, ht, -, hs⟩
    · simp [Op.apply, Op.pushed?, hs]
    · have hmove : (before ++ frame ++ behind).Perm (before ++ behind ++ frame) := by
        rw [List.append_assoc, List.append_assoc]
        exact List.perm_append_comm.append_left before
      simp only [Op.apply, Op.pushed?, hs, finish_setTarget, finish_held, finish_eq (s := below),
        ht, Option.toList_none, List.append_nil, List.append_assoc below.beneath]
      exact hmove.append_left below.beneath

theorem finish_after_perm (ops : List (Op α)) :
    (s.after ops).finish.Perm (s.finish ++ pushes ops) := by
  induction ops generalizing s with
  | nil => simp [after, pushes]
  | cons op ops ih =>
    have hp : pushes (op :: ops) = op.pushed?.toList ++ pushes ops := by
      cases op <;> rfl
    have hop : ((op.apply s).finish ++ pushes ops).Perm
        (s.finish ++ op.pushed?.toList ++ pushes ops) := (finish_apply_perm op).append_right _
    rw [hp, ← List.append_assoc]
    exact ih.trans hop

/-! Entries with a stamp that tells them apart. -/

/-- An entry as it was pushed: when, and which frame was being written to. -/
structure Pushed (α : Type) where
  entry : α
  time : Nat
  frame : Nat

/-- Stamps what is pushed, given the time and the open frames, the innermost first. A frame goes by
the time of the hold that opens it, and the output is frame 0. -/
def stamp (time : Nat) (opened : List Nat) : List (Op α) → List (Op (Pushed α))
  | [] => []
  | .push a :: ops => .push ⟨a, time, opened.headD 0⟩ :: stamp (time + 1) opened ops
  | .hold :: ops => .hold :: stamp (time + 1) (time :: opened) ops
  | .spliceAfter index :: ops => .spliceAfter index :: stamp (time + 1) opened.tail ops

theorem map_entry_stamp (ops : List (Op α)) :
    (stamp time opened ops).map (Op.map Pushed.entry) = ops := by
  induction ops generalizing time opened with
  | nil => rfl
  | cons op ops ih => cases op <;> simp [stamp, Op.map, ih]

theorem time_le_of_mem_stamp {ops : List (Op α)} {x : Pushed α}
    (hx : x ∈ pushes (stamp time opened ops)) : time ≤ x.time := by
  induction ops generalizing time opened with
  | nil => cases hx
  | cons op ops ih =>
    cases op with
    | push a =>
      rcases List.mem_cons.mp hx with rfl | hx
      · exact Nat.le_refl _
      · exact Nat.le_of_succ_le (ih hx)
    | hold => exact Nat.le_of_succ_le (ih hx)
    | spliceAfter index => exact Nat.le_of_succ_le (ih hx)

/-- No two pushes have the same stamp. -/
theorem pairwise_time_stamp (ops : List (Op α)) :
    (pushes (stamp time opened ops)).Pairwise (·.time < ·.time) := by
  induction ops generalizing time opened with
  | nil => exact .nil
  | cons op ops ih =>
    cases op with
    | push a => exact .cons (fun x hx => time_le_of_mem_stamp hx) ih
    | hold => exact ih
    | spliceAfter index => exact ih

def map (f : α → β) (s : Sink α) : Sink β := ⟨s.output.map f, s.frames.map (List.map f)⟩

theorem target_map (f : α → β) : (s.map f).target = s.target.map f := by
  obtain ⟨output, _ | ⟨frame, rest⟩⟩ := s <;> rfl

theorem setTarget_map (f : α → β) : (s.map f).setTarget (xs.map f) = (s.setTarget xs).map f := by
  obtain ⟨output, _ | ⟨frame, rest⟩⟩ := s <;> rfl

theorem apply_map (f : α → β) (op : Op α) : (op.map f).apply (s.map f) = (op.apply s).map f := by
  cases op with
  | push a =>
    change (s.map f).setTarget ((s.map f).target ++ [f a]) = _
    rw [target_map, ← List.map_singleton, ← List.map_append, setTarget_map]
    rfl
  | hold => rfl
  | spliceAfter index =>
    obtain ⟨output, _ | ⟨frame, rest⟩⟩ := s
    · rfl
    · change (map f ⟨output, rest⟩).setTarget
        ((map f ⟨output, rest⟩).target.take (index + 1) ++ frame.map f ++
          (map f ⟨output, rest⟩).target.drop (index + 1)) = _
      rw [target_map, ← List.map_take, ← List.map_drop, ← List.map_append, ← List.map_append,
        setTarget_map]
      rfl

/-- A sink does not look at its entries. -/
theorem after_map (f : α → β) (ops : List (Op α)) :
    (s.map f).after (ops.map (Op.map f)) = (s.after ops).map f := by
  induction ops generalizing s with
  | nil => rfl
  | cons op ops ih =>
    change ((op.map f).apply (s.map f)).after _ = _
    rw [apply_map, ih]
    rfl

/-- The stamps change nothing but the entries. -/
theorem map_entry_after_stamp (ops : List (Op α)) :
    (({} : Sink (Pushed α)).after (stamp time opened ops)).map Pushed.entry =
      ({} : Sink α).after ops := by
  rw [← after_map, map_entry_stamp]
  rfl

/-- The open frames hold entries of ever later frames: what is in one was pushed to it or to a frame
that was opened and closed above it, before the next one was opened. -/
def Layered : Nat → List Nat → Sink (Pushed α) → Prop
  | bound, [], ⟨output, []⟩ => ∀ x ∈ output, x.frame < bound
  | bound, n :: opened, ⟨output, frame :: frames⟩ =>
    n < bound ∧ (∀ x ∈ frame, n ≤ x.frame ∧ x.frame < bound) ∧ Layered n opened ⟨output, frames⟩
  | _, _, _ => False

section

variable {s : Sink (Pushed α)} {xs : List (Pushed α)}

theorem Layered.bounds (h : Layered bound opened s) :
    ∀ x ∈ s.target, opened.headD 0 ≤ x.frame ∧ x.frame < bound := by
  obtain ⟨output, frames⟩ := s
  intro x hx
  match opened, frames, h with
  | [], [], h => exact ⟨Nat.zero_le _, h x hx⟩
  | n :: opened, frame :: frames, h => exact h.2.1 x hx

/-- What is being written to can be replaced by entries of its own layer. -/
theorem Layered.setTarget {more : Nat} (h : Layered bound opened s) (hb : bound ≤ more)
    (hx : ∀ x ∈ xs, opened.headD 0 ≤ x.frame ∧ x.frame < more) :
    Layered more opened (s.setTarget xs) := by
  obtain ⟨output, frames⟩ := s
  match opened, frames, h with
  | [], [], h => exact fun x hm => (hx x hm).2
  | n :: opened, frame :: frames, h => exact ⟨Nat.lt_of_lt_of_le h.1 hb, hx, h.2.2⟩

theorem Layered.held {below : Sink (Pushed α)} {frame : List (Pushed α)}
    (h : Layered bound opened ⟨below.output, frame :: below.frames⟩) :
    ∃ n rest, opened = n :: rest ∧ n < bound ∧ (∀ x ∈ frame, n ≤ x.frame ∧ x.frame < bound) ∧
      Layered n rest below := by
  match opened, h with
  | n :: rest, h => exact ⟨n, rest, rfl, h⟩

theorem Layered.headD_le (h : Layered bound opened s) : opened.headD 0 ≤ bound := by
  obtain ⟨output, frames⟩ := s
  match opened, frames, h with
  | [], [], _ => exact Nat.zero_le _
  | n :: opened, frame :: frames, h => exact Nat.le_of_lt h.1

/-- What keeps the entries of every frame in order. -/
structure Orderly (time : Nat) (opened : List Nat) (s : Sink (Pushed α)) : Prop where
  layered : Layered time opened s
  past : ∀ x ∈ s.finish, x.time < time
  sorted : s.finish.Pairwise fun x y => x.frame = y.frame → x.time < y.time

theorem orderly_empty : Orderly 1 [] ({} : Sink (Pushed α)) :=
  ⟨fun _ hx => (nomatch hx), fun _ hx => (nomatch hx), .nil⟩

theorem Orderly.push (h : Orderly time opened s) (a : α) :
    Orderly (time + 1) opened (s.push ⟨a, time, opened.headD 0⟩) := by
  constructor
  · apply h.layered.setTarget (Nat.le_succ time)
    intro x hx
    rcases List.mem_append.mp hx with hx | hx
    · have hb := h.layered.bounds x hx
      omega
    · obtain rfl := List.mem_singleton.mp hx
      have hb := h.layered.headD_le
      exact ⟨Nat.le_refl _, by simp only; omega⟩
  · intro x hx
    rw [finish_push, List.mem_append] at hx
    rcases hx with hx | hx
    · exact Nat.lt_succ_of_lt (h.past x hx)
    · obtain rfl := List.mem_singleton.mp hx
      exact Nat.lt_succ_self time
  · rw [finish_push, List.pairwise_append]
    refine ⟨h.sorted, List.pairwise_singleton _ _, ?_⟩
    intro x hx y hy _
    obtain rfl := List.mem_singleton.mp hy
    exact h.past x hx

theorem Orderly.hold (h : Orderly time opened s) : Orderly (time + 1) (time :: opened) s.hold := by
  constructor
  · exact ⟨Nat.lt_succ_self time, fun x hx => (nomatch hx), h.layered⟩
  · intro x hx
    rw [finish_hold] at hx
    exact Nat.lt_succ_of_lt (h.past x hx)
  · rw [finish_hold]
    exact h.sorted

theorem Orderly.spliceAfter (h : Orderly time opened s) (index : Nat) :
    Orderly (time + 1) opened.tail (s.spliceAfter index).2 := by
  have hperm : (s.spliceAfter index).2.finish.Perm s.finish := by
    simpa [Op.apply, Op.pushed?] using finish_apply_perm (.spliceAfter index)
  have hpast : ∀ x ∈ (s.spliceAfter index).2.finish, x.time < time + 1 :=
    fun x hx => Nat.lt_succ_of_lt (h.past x (hperm.mem_iff.mp hx))
  rcases s.spliceAfter_cases index with ⟨hf, hs⟩ | ⟨below, frame, before, behind, rfl, ht, -, hs⟩
  · -- Nothing is open, so the entries stay below any later frame.
    rw [hs] at hpast ⊢
    obtain ⟨output, frames⟩ := s
    obtain rfl : frames = [] := hf
    match opened, h with
    | [], h => exact ⟨fun x hx => Nat.lt_succ_of_lt (h.layered x hx), hpast, h.sorted⟩
  · obtain ⟨n, rest, rfl, hn, hframe, hbelow⟩ := h.layered.held
    have hbounds := hbelow.bounds
    have hsorted := h.sorted
    rw [hs] at hpast ⊢
    rw [ht] at hbounds
    refine ⟨?_, hpast, ?_⟩
    · apply hbelow.setTarget (Nat.le_succ_of_le (Nat.le_of_lt hn))
      intro x hx
      have hle := hbelow.headD_le
      simp only [List.mem_append, or_assoc] at hx
      rcases hx with hx | hx | hx
      · have := hbounds x (List.mem_append_left _ hx)
        omega
      · have := hframe x hx
        omega
      · have := hbounds x (List.mem_append_right _ hx)
        omega
    · -- Only what stood behind the place of the splice changes sides with the closed frame, and
      -- that was pushed to earlier frames.
      rw [finish_setTarget]
      rw [finish_held, finish_eq, ht] at hsorted
      simp only [List.pairwise_append, List.mem_append] at hsorted ⊢
      obtain ⟨⟨hb, ⟨hbf, hbh, hfh⟩, hbt⟩, hfr, hcross⟩ := hsorted
      refine ⟨hb, ⟨⟨hbf, hfr, fun x hx y hy => hcross x (.inr (.inl hx)) y hy⟩, hbh, ?_⟩, ?_⟩
      · rintro x (hx | hx) y hy
        · exact hfh x hx y hy
        · intro heq
          have hxn := (hframe x hx).1
          have hyn := (hbounds y (List.mem_append_right _ hy)).2
          omega
      · rintro x hx y ((hy | hy) | hy)
        · exact hbt x hx y (.inl hy)
        · exact hcross x (.inl hx) y hy
        · exact hbt x hx y (.inr hy)

theorem Orderly.after (h : Orderly time opened s) (ops : List (Op α)) :
    ∃ time' opened', Orderly time' opened' (s.after (stamp time opened ops)) := by
  induction ops generalizing time opened s with
  | nil => exact ⟨time, opened, h⟩
  | cons op ops ih =>
    cases op with
    | push a => exact ih (h.push a)
    | hold => exact ih h.hold
    | spliceAfter index => exact ih (h.spliceAfter index)

end

/-- Entries pushed to the same frame stand in the order in which they were pushed. -/
theorem pairwise_finish_stamp (ops : List (Op α)) :
    (({} : Sink (Pushed α)).after (stamp 1 [] ops)).finish.Pairwise
      fun x y => x.frame = y.frame → x.time < y.time := by
  obtain ⟨_, _, h⟩ := orderly_empty.after ops
  exact h.sorted

end RulesText.Sink
