import RulesText.Proofs.Occurrence
import RulesText.Proofs.Pruning

/-!
Reading conditions. The lines of a condition stand right behind the head and the condition marker of
its node, so the line two further on is the first of them, or the result marker if there are none.
-/
namespace RulesText

variable {choice : String → Bool} {n m : Int} {i : Nat} {ls xs ys before c r : List Line} {l : Line}
  {s : Symbol} {v w u : Value}

/-- The lines of a choice before those of its subject. -/
def Symbol.beforeSubject (choice : String → Bool) (s : Symbol) (n : Int) : List Line :=
  .node s.head n :: .marker s.tag .conditionStart n ::
    ((s.getD conditionField).lines choice .expand (n + 1) ++
      [.marker s.tag .resultStart n, s.binding n])

/-- Writing out a value at a depth comes to another value at its depth, after these lines: to the
value itself, and from a node to its parts and, if it is laid out as a choice, to its subject. -/
inductive Reaches (choice : String → Bool) : Value → Int → List Line → Value → Int → Prop where
  | here {v : Value} {n : Int} : Reaches choice v n [] v n
  | part {s : Symbol} {w u : Value} {n m : Int} {before : List Line} (turn : Turn)
      (hw : s.part? choice turn = some w) (hu : Reaches choice w (n + 1) before u m) :
      Reaches choice (.symbol s) n (s.before choice n turn ++ before) u m
  | subject {s : Symbol} {u : Value} {n m : Int} {before : List Line}
      (hs : s.hasBranches choice = true) (hc : choice s.tag = true)
      (hu : Reaches choice (s.getD Cards.subjectField) (n + 1) before u m) :
      Reaches choice (.symbol s) n (s.beforeSubject choice n ++ before) u m

theorem Symbol.lines_subject (hs : s.hasBranches choice = true) (hc : choice s.tag = true) :
    (Value.symbol s).lines choice .expand n = s.beforeSubject choice n ++
      ((s.getD Cards.subjectField).lines choice .expand (n + 1) ++
        ((s.getD resultField).lines choice .expand (n + 1) ++ [.marker s.tag .sequenceEnd n])) := by
  rw [Symbol.lines_of_hasBranches hs, Symbol.bound, if_pos hc]
  simp [Symbol.framed, Symbol.beforeSubject]

namespace Reaches

/-- The lines of what is come to stand among all lines, behind those written before. -/
theorem occurs (h : Reaches choice v n before w m) :
    Occurs (w.lines choice .expand m) (v.lines choice .expand n) before.length := by
  induction h with
  | @here v n => exact ⟨[], [], by simp, rfl, detached_nil⟩
  | @part s w u n m before turn hw _ ih =>
    have hpart : Occurs (w.lines choice .expand (n + 1)) ((Value.symbol s).lines choice .expand n)
        (s.before choice n turn).length :=
      ⟨_, _, Symbol.lines_part hw, rfl, Symbol.detached_after⟩
    rw [List.length_append]
    exact ih.trans hpart
  | @subject s u n m before hs hc _ ih =>
    have hend : Detached [Line.marker s.tag .sequenceEnd n] := detached_marker (by decide)
    have hpart : Occurs ((s.getD Cards.subjectField).lines choice .expand (n + 1))
        ((Value.symbol s).lines choice .expand n) (s.beforeSubject choice n).length :=
      ⟨_, _, Symbol.lines_subject hs hc, rfl, (Value.lines_framed _ _).detached_append hend⟩
    rw [List.length_append]
    exact ih.trans hpart

/-- What is come to can be written out if the whole can. -/
theorem fault?_eq_none (h : Reaches choice v n before w m)
    (hv : (v.outline choice).fault? .expand = none) :
    (w.outline choice).fault? .expand = none := by
  induction h with
  | here => exact hv
  | @part s w u n m before turn hw _ ih =>
    apply ih
    cases turn with
    | child k => exact (Symbol.fault?_of_child hw).mp hv w (List.mem_of_getElem? hw)
    | condition =>
      obtain ⟨hs, rfl⟩ := Symbol.part?_condition.mp hw
      exact ((Symbol.fault?_of_hasBranches hs).mp hv).1
    | result =>
      obtain ⟨hs, rfl⟩ := Symbol.part?_result.mp hw
      exact ((Symbol.fault?_of_hasBranches hs).mp hv).2.2
  | subject hs hc _ ih => exact ih (((Symbol.fault?_of_hasBranches hs).mp hv).2.1 hc)

end Reaches

theorem Framed.marker?_head (h : Framed choice ls) (hl : ls.head? = some l) : l.marker? = none := by
  induction h generalizing l with
  | nil => cases hl
  | line h =>
    obtain rfl := Option.some.inj hl
    exact h
  | @append xs ys _ _ ihx ihy =>
    cases xs with
    | nil => exact ihy hl
    | cons x xs => exact ihx hl
  | frame =>
    obtain rfl := Option.some.inj hl
    rfl

/-- At the head of a frame, the first line of its condition is read. -/
theorem FrameAt.firstCondition?_eq (h : FrameAt choice ls i s n c r) :
    Cursor.firstCondition? ⟨ls, i⟩ = c.head? := by
  rw [Cursor.firstCondition?, if_pos h.startsBranch_drop]
  cases c with
  | nil =>
    have hmark : ls[i + 2]? = some (.marker s.tag .resultStart n) := h.resultMark_eq
    rw [hmark]
    rfl
  | cons l rest =>
    have hl : ls[i + 2]? = some l := h.occurs_condition.getElem? (Nat.zero_lt_succ _)
    have hm : l.marker? = none := h.condition.marker?_head rfl
    simp [hl, hm]

/-- Values that are written out without a line: leaves, no-ops, and sequences of nothing else. -/
inductive Value.Silent : Value → Prop where
  | leaf {v : Value} (h : v.IsLeaf) : Silent v
  | noOp {s : Symbol} (h : s.shape = .noOp) : Silent (.symbol s)
  | sequence {s : Symbol} (h : s.shape = .sequence) (hc : ∀ w ∈ s.children, Silent w) :
    Silent (.symbol s)

theorem Value.Silent.shape (h : (Value.symbol s).Silent) :
    s.shape = .noOp ∨ s.shape = .sequence ∧ ∀ w ∈ s.children, w.Silent := by
  cases h with
  | leaf h => cases h.2
  | noOp h => exact .inl h
  | sequence h hc => exact .inr ⟨h, hc⟩

theorem Value.lines_eq_nil_iff (hf : (v.outline choice).fault? .expand = none) :
    v.lines choice .expand n = [] ↔ v.Silent := by
  induction v using Value.node_induction generalizing n with
  | leaf v hv =>
    cases v with
    | symbol s => cases hv
    | list vs => cases hf
    | _ => exact iff_of_true rfl (.leaf ⟨rfl, rfl⟩)
  | node s _ ihc =>
    have hchild : ∀ w ∈ s.children, (w.outline choice).fault? .expand = none := by
      intro w hw
      obtain ⟨k, hk⟩ := List.mem_iff_getElem?.mp hw
      exact (Symbol.fault?_of_child hk).mp hf w hw
    cases hb : s.hasBranches choice with
    | true =>
      rw [Symbol.lines_of_hasBranches hb]
      refine iff_of_false (List.cons_ne_nil _ _) fun hsilent => ?_
      rcases hsilent.shape with hs | ⟨hs, -⟩ <;> simp [Symbol.hasBranches, hs] at hb
    | false =>
      rw [Symbol.lines_of_not_hasBranches hb]
      split
      · next hs => exact iff_of_true rfl (.noOp hs)
      · next hs =>
        rw [List.flatMap_eq_nil_iff]
        constructor
        · intro h
          exact .sequence hs fun w hw => (ihc w hw (hchild w hw)).mp (h w hw)
        · intro hsilent w hw
          rcases hsilent.shape with hs' | ⟨-, hc⟩
          · rw [hs] at hs'
            cases hs'
          · exact (ihc w hw (hchild w hw)).mpr (hc w hw)
      all_goals
        next hs =>
        refine iff_of_false (List.cons_ne_nil _ _) fun hsilent => ?_
        rcases hsilent.shape with hs' | ⟨hs', -⟩ <;> simp [hs] at hs'

/-! Every opening is the head of a node that is come to. -/

theorem startsBranch_drop_cons (hl : l.symbol? = none)
    (h : startsBranch ((l :: ls).drop i) = true) :
    ∃ j, i = j + 1 ∧ startsBranch (ls.drop j) = true := by
  cases i with
  | zero => cases ls <;> simp [startsBranch, opensBranch, hl] at h
  | succ j => exact ⟨j, rfl, h⟩

theorem startsBranch_drop_append (hy : Detached ys)
    (h : startsBranch ((xs ++ ys).drop i) = true) :
    startsBranch (xs.drop i) = true ∨
      ∃ j, i = xs.length + j ∧ startsBranch (ys.drop j) = true := by
  by_cases hi : i < xs.length
  · left
    have hx : Occurs xs (xs ++ ys) 0 := .left hy
    rwa [← hx.startsBranch hi, Nat.zero_add]
  · right
    refine ⟨i - xs.length, by omega, ?_⟩
    rwa [List.drop_append, List.drop_of_length_le (by omega), List.nil_append] at h

theorem startsBranch_drop_flatMap {vs : List Value} {f : Value → List Line}
    (hf : ∀ v ∈ vs, Framed choice (f v)) (h : startsBranch ((vs.flatMap f).drop i) = true) :
    ∃ k w j, vs[k]? = some w ∧ startsBranch ((f w).drop j) = true ∧
      i = ((vs.take k).flatMap f).length + j := by
  induction vs generalizing i with
  | nil =>
    rw [List.flatMap_nil, List.drop_nil] at h
    cases h
  | cons v vs ih =>
    have hrest : ∀ w ∈ vs, Framed choice (f w) := fun w hw => hf w (.tail _ hw)
    rw [List.flatMap_cons] at h
    rcases startsBranch_drop_append (Framed.flatMap hrest).detached h with hv | ⟨j, rfl, hvs⟩
    · exact ⟨0, v, i, rfl, hv, by simp⟩
    · obtain ⟨k, w, j, hk, hw, rfl⟩ := ih hrest hvs
      refine ⟨k + 1, w, j, hk, hw, ?_⟩
      rw [List.take_succ_cons, List.flatMap_cons, List.length_append]
      omega

/-- In the lines of a node with branches, its head opens a branch, and all else that does so stands
in its condition, its subject or its result. -/
theorem Symbol.starts_cases (hb : s.hasBranches choice = true)
    (h : startsBranch (((Value.symbol s).lines choice .expand n).drop i) = true) :
    i = 0 ∨
    (∃ j, i = (s.before choice n .condition).length + j ∧
      startsBranch (((s.getD conditionField).lines choice .expand (n + 1)).drop j) = true) ∨
    (choice s.tag = true ∧ ∃ j, i = (s.beforeSubject choice n).length + j ∧
      startsBranch (((s.getD Cards.subjectField).lines choice .expand (n + 1)).drop j) = true) ∨
    ∃ j, i = (s.before choice n .result).length + j ∧
      startsBranch (((s.getD resultField).lines choice .expand (n + 1)).drop j) = true := by
  have hend : Detached [Line.marker s.tag .sequenceEnd n] := detached_marker (by decide)
  cases i with
  | zero => exact .inl rfl
  | succ i =>
    right
    rw [lines_of_hasBranches hb, ← List.append_nil (s.framed .expand n _ _), framed_append,
      List.drop_succ_cons] at h
    obtain ⟨a, ha, h⟩ := startsBranch_drop_cons rfl h
    rcases startsBranch_drop_append (detached_marker (by decide)) h with hc | ⟨b, hb, h⟩
    · refine .inl ⟨a, ?_, hc⟩
      simp only [before, List.length_cons, List.length_nil]
      omega
    right
    obtain ⟨d, hd, h⟩ := startsBranch_drop_cons rfl h
    rcases startsBranch_drop_append hend h with h | ⟨j, -, h⟩
    · -- Behind the result marker: the binding, the subject and the result, or the result alone.
      cases hchoice : choice s.tag with
      | true =>
        rw [bound, if_pos hchoice] at h
        obtain ⟨e, he, h⟩ := startsBranch_drop_cons rfl h
        rcases startsBranch_drop_append (Value.lines_framed _ _).detached h with h | ⟨j, hj, h⟩
        · refine .inl ⟨rfl, e, ?_, h⟩
          simp only [beforeSubject, List.length_cons, List.length_append, List.length_nil]
          omega
        · refine .inr ⟨j, ?_, h⟩
          simp only [before, bound, if_pos hchoice, List.length_cons, List.length_append]
          omega
      | false =>
        have hnone : ¬ choice s.tag = true := by simp [hchoice]
        rw [bound, if_neg hnone] at h
        refine .inr ⟨d, ?_, h⟩
        simp only [before, bound, if_neg hnone, List.length_cons, List.length_append,
          List.length_nil]
        omega
    · obtain ⟨k, -, hk⟩ := startsBranch_drop_cons rfl h
      rw [List.drop_nil] at hk
      cases hk

/-- Where a branch opens, a node with branches is come to. -/
theorem Value.reaches_of_starts (h : startsBranch ((v.lines choice .expand n).drop i) = true) :
    ∃ before s m, Reaches choice v n before (.symbol s) m ∧ s.hasBranches choice = true ∧
      before.length = i := by
  induction v using Value.node_induction generalizing n i with
  | leaf v hv =>
    have hnil : v.lines choice .expand n = [] := by
      cases v with
      | symbol s => cases hv
      | _ => rfl
    rw [hnil, List.drop_nil] at h
    cases h
  | node s ih ihc =>
    cases hb : s.hasBranches choice with
    | true =>
      rcases Symbol.starts_cases hb h with rfl | ⟨j, rfl, hj⟩ | ⟨hc, j, rfl, hj⟩ | ⟨j, rfl, hj⟩
      · exact ⟨[], s, n, .here, hb, rfl⟩
      · obtain ⟨before, t, m, ht, htb, rfl⟩ := ih conditionField hj
        have hpart := Symbol.part?_condition.mpr ⟨hb, rfl⟩
        exact ⟨_, t, m, .part .condition hpart ht, htb, List.length_append⟩
      · obtain ⟨before, t, m, ht, htb, rfl⟩ := ih Cards.subjectField hj
        exact ⟨_, t, m, .subject hb hc ht, htb, List.length_append⟩
      · obtain ⟨before, t, m, ht, htb, rfl⟩ := ih resultField hj
        have hpart := Symbol.part?_result.mpr ⟨hb, rfl⟩
        exact ⟨_, t, m, .part .result hpart ht, htb, List.length_append⟩
    | false =>
      rw [Symbol.lines_of_not_hasBranches hb] at h
      split at h
      · rw [List.drop_nil] at h
        cases h
      · obtain ⟨k, w, j, hk, hw, rfl⟩ :=
          startsBranch_drop_flatMap (fun v _ => v.lines_framed (n + 1)) h
        obtain ⟨before, t, m, ht, htb, rfl⟩ := ihc w (List.mem_of_getElem? hk) hw
        exact ⟨_, t, m, .part (.child k) hk ht, htb, List.length_append⟩
      all_goals
        cases i with
        | zero => cases h
        | succ i =>
          rw [List.drop_succ_cons, List.drop_nil] at h
          cases h

namespace Layout

variable {l : Layout} {tree : Tree} {q : Sequence}

/-- A value that can be written out is written out by itself as it is in a tree. -/
theorem IsStandard.run_alone (h : l.IsStandard) (v : Value) (n : Int)
    (hf : (v.outline l.handles).fault? .expand = none) :
    ∃ e, (v.flatten l.handler? n).run (l.emitter .expand) = (.ok v.scalar?, e) ∧
      e.sink.finish = v.lines l.handles .expand n := by
  have hw := (v.writes_outline : v.WritesOutline l.handles .expand) n (l.emitter .expand) rfl
    (Nat.zero_le _)
  rw [hf, ← h.handler?_eq] at hw
  exact ⟨_, hw, Sink.finish_append_of_empty⟩

/-- At the head of every condition that is written out, and of every choice, the first line that its
condition gives by itself is read, and none exactly if the condition is silent. Nothing else opens a
branch, and where none opens nothing is read. -/
theorem IsStandard.firstCondition?_reads_condition (h : l.IsStandard)
    (hq : l.flatten tree .expand = .ok q) (hl : q.linear? = some ls) :
    (∀ before s n, Reaches l.handles (Value.ofSymbol? tree.logic) (-1) before (.symbol s) n →
      s.hasBranches l.handles = true →
      ls[before.length]? = some (.node s.head n) ∧
      (∃ r e, ((s.getD conditionField).flatten l.handler? (n + 1)).run (l.emitter .expand) =
          (.ok r, e) ∧
        Cursor.firstCondition? ⟨ls, before.length⟩ = e.sink.finish.head?) ∧
      (Cursor.firstCondition? ⟨ls, before.length⟩ = none ↔ (s.getD conditionField).Silent)) ∧
    (∀ i, Opens ls i ↔ ∃ before s n,
      Reaches l.handles (Value.ofSymbol? tree.logic) (-1) before (.symbol s) n ∧
      s.hasBranches l.handles = true ∧ before.length = i) ∧
    ∀ i, ¬ Opens ls i → Cursor.firstCondition? ⟨ls, i⟩ = none := by
  obtain ⟨hf, -, rfl⟩ := h.flatten_lines_iff.mp ⟨q, hq, hl⟩
  have hframe : ∀ before s n,
      Reaches l.handles (Value.ofSymbol? tree.logic) (-1) before (.symbol s) n →
      s.hasBranches l.handles = true →
      FrameAt l.handles (tree.lines l.handles .expand) before.length s n
        ((s.getD conditionField).lines l.handles .expand (n + 1))
        (s.bound l.handles .expand n ++ (s.getD resultField).lines l.handles .expand (n + 1)) :=
    fun before s n hs hb => (Symbol.frameAt_branches hb).of_occurs hs.occurs
  refine ⟨?_, ?_, ?_⟩
  · intro before s n hs hb
    have hat := hframe before s n hs hb
    have hcond := ((Symbol.fault?_of_hasBranches hb).mp (hs.fault?_eq_none hf)).1
    obtain ⟨e, hrun, hwritten⟩ := h.run_alone _ (n + 1) hcond
    refine ⟨hat.head_eq, ⟨_, e, hrun, by rw [hat.firstCondition?_eq, hwritten]⟩, ?_⟩
    rw [hat.firstCondition?_eq, List.head?_eq_none_iff, Value.lines_eq_nil_iff hcond]
  · intro i
    rw [opens_iff]
    constructor
    · exact Value.reaches_of_starts
    · rintro ⟨before, s, n, hs, hb, rfl⟩
      exact (hframe before s n hs hb).startsBranch_drop
  · intro i hi
    rw [opens_iff] at hi
    rw [Cursor.firstCondition?, if_neg hi]

/-- The outer choice asks for nothing; the condition inside it is met by the resolved spell. -/
theorem nestedChoicesCard_firstCondition :
    ∃ q ls, Cards.layout.flatten nestedChoicesCard .expand = .ok q ∧ q.linear? = some ls ∧
      Cursor.firstCondition? ⟨ls, 0⟩ = none ∧
      (Cursor.firstCondition? ⟨ls, 5⟩).map Line.tag = some Cards.spellEffects.tag ∧
      Cursor.firstCondition? ⟨ls, 7⟩ = none := by
  obtain ⟨q, hq, hl⟩ := nestedChoicesCard_flatten
  obtain ⟨hreads, -, hnone⟩ := isStandard_cards.firstCondition?_reads_condition hq hl
  have houter := hreads _ _ _ (.part (.child 0) rfl .here) rfl
  have hinner := hreads _ _ _ (.part (.child 0) rfl (.part .result rfl .here)) rfl
  obtain ⟨-, ⟨r, e, hrun, hread⟩, -⟩ := hinner
  obtain rfl : _ = e := congrArg Prod.snd hrun
  have hclosed : startsBranch ((nestedChoicesCard.lines Cards.layout.handles .expand).drop 7) =
      false := rfl
  refine ⟨q, _, hq, hl, houter.2.2.mpr (.leaf ⟨rfl, rfl⟩), congrArg (·.map Line.tag) hread,
    hnone 7 fun hopens => ?_⟩
  rw [opens_iff, hclosed] at hopens
  cases hopens

end Layout

end RulesText
