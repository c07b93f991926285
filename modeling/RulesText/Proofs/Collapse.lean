import RulesText.Proofs.Nesting

/-!
Collapsing is erasing. Which lines go is read off the written lines alone: of every frame its
markers and all of its condition.
-/
namespace RulesText

variable {choice : String → Bool} {ls xs ys c r : List Line} {l : Line} {s : Symbol} {n : Int}
  {i j k m o : Nat}

/-- A frame from its head over its result marker to its end. -/
def FrameSpan (ls : List Line) (i m j : Nat) : Prop :=
  branchEnd? ls i = some j ∧ IsResultMark ls i j m

/-- A line that is a marker of some frame or belongs to its condition. -/
def Dropped (ls : List Line) (k : Nat) : Prop :=
  ∃ i < ls.length, ∃ j ∈ branchEnd? ls i, ∃ m < j, IsResultMark ls i j m ∧
    ((i < k ∧ k ≤ m) ∨ k = j)

instance : Decidable (Dropped ls k) := inferInstanceAs (Decidable (∃ i < ls.length, _))

/-- The lines whose index is kept, counted from a start. -/
def keepFrom (keep : Nat → Bool) : Nat → List Line → List Line
  | _, [] => []
  | start, l :: rest =>
    if keep start then l :: keepFrom keep (start + 1) rest else keepFrom keep (start + 1) rest

/-- The lines that are left when every frame loses its markers and its condition. -/
def eraseFrames (ls : List Line) : List Line := keepFrom (fun k => !decide (Dropped ls k)) 0 ls

theorem dropped_iff : Dropped ls k ↔ ∃ i m j, FrameSpan ls i m j ∧ ((i < k ∧ k ≤ m) ∨ k = j) := by
  constructor
  · rintro ⟨i, -, j, hj, m, -, hm, hk⟩
    exact ⟨i, m, j, ⟨hj, hm⟩, hk⟩
  · rintro ⟨i, m, j, ⟨hj, hm⟩, hk⟩
    have hi : i < ls.length := by
      apply Nat.lt_of_not_le
      intro hn
      have hs := startsBranch_of_branchEnd? hj
      rw [List.drop_of_length_le hn] at hs
      cases hs
    exact ⟨i, hi, j, hj, m, hm.2.1, hm, hk⟩

theorem FrameAt.span_iff (h : FrameAt choice ls i s n c r) :
    FrameSpan ls i m j ↔ m = i + 2 + c.length ∧ j = i + 3 + c.length + r.length := by
  constructor
  · rintro ⟨hj, hm⟩
    obtain rfl := Option.some.inj (h.branchEnd?_eq.symm.trans hj)
    exact ⟨hm.unique h, rfl⟩
  · rintro ⟨rfl, rfl⟩
    exact ⟨h.branchEnd?_eq, .of_frameAt h⟩

/-- Framed lines have the same frames wherever they stand. -/
theorem Framed.span_of_occurs (h : Framed choice xs) (ho : Occurs xs ls o) (hi : i < xs.length) :
    FrameSpan ls (o + i) m j ↔ ∃ m' j', FrameSpan xs i m' j' ∧ m = o + m' ∧ j = o + j' := by
  constructor
  · intro hs
    have hb := startsBranch_of_branchEnd? hs.1
    rw [ho.startsBranch hi] at hb
    obtain ⟨s, n, c, r, hf⟩ := h.frameAt_of_starts hb
    obtain ⟨rfl, rfl⟩ := (hf.of_occurs ho).span_iff.mp hs
    exact ⟨_, _, hf.span_iff.mpr ⟨rfl, rfl⟩, by omega, by omega⟩
  · rintro ⟨m', j', hs, rfl, rfl⟩
    obtain ⟨s, n, c, r, hf⟩ := h.frameAt_of_starts (startsBranch_of_branchEnd? hs.1)
    obtain ⟨rfl, rfl⟩ := hf.span_iff.mp hs
    exact (hf.of_occurs ho).span_iff.mpr ⟨by omega, by omega⟩

theorem Framed.span_bounds (h : Framed choice ls) (hs : FrameSpan ls i m j) :
    i < m ∧ m < j ∧ j < ls.length := by
  obtain ⟨s, n, c, r, hf⟩ := h.frameAt_of_starts (startsBranch_of_branchEnd? hs.1)
  obtain ⟨rfl, rfl⟩ := hf.span_iff.mp hs
  have := hf.length_le
  omega

/-- Framed lines lose the same lines wherever they stand, unless a frame around them takes more. -/
theorem Framed.dropped_of_occurs (h : Framed choice xs) (ho : Occurs xs ls o)
    (hout : ∀ i m j, FrameSpan ls i m j → i < o ∨ o + xs.length ≤ i → i < m → m < j →
      (o + k ≤ i ∨ m < o + k) ∧ o + k ≠ j) :
    Dropped ls (o + k) ↔ Dropped xs k := by
  rw [dropped_iff, dropped_iff]
  constructor
  · rintro ⟨i, m, j, hs, hd⟩
    by_cases hi : o ≤ i ∧ i < o + xs.length
    · obtain ⟨i, rfl⟩ : ∃ i', i = o + i' := ⟨i - o, by omega⟩
      obtain ⟨m', j', hs', rfl, rfl⟩ := (h.span_of_occurs ho (by omega)).mp hs
      exact ⟨i, m', j', hs', by omega⟩
    · have := hout i m j hs (by omega) hs.2.1 hs.2.2.1
      omega
  · rintro ⟨i, m, j, hs, hd⟩
    have hb := h.span_bounds hs
    exact ⟨o + i, o + m, o + j, (h.span_of_occurs ho (by omega)).mpr ⟨m, j, hs, rfl, rfl⟩, by omega⟩

theorem dropped_append_left (hx : Framed choice xs) (hy : Framed choice ys) (hk : k < xs.length) :
    Dropped (xs ++ ys) k ↔ Dropped xs k := by
  have h := hx.dropped_of_occurs (k := k) (.left hy.detached) fun i m j _ hi _ _ => by omega
  rwa [Nat.zero_add] at h

theorem dropped_append_right (hx : Framed choice xs) (hy : Framed choice ys) :
    Dropped (xs ++ ys) (xs.length + k) ↔ Dropped ys k := by
  apply hy.dropped_of_occurs .right
  intro i m j hs hi him hmj
  have hb := (Framed.append hx hy).span_bounds hs
  rw [List.length_append] at hb
  rw [← Nat.zero_add i, hx.span_of_occurs (.left hy.detached) (by omega)] at hs
  obtain ⟨m', j', hs', rfl, rfl⟩ := hs
  have := hx.span_bounds hs'
  omega

theorem dropped_framed_result (hc : Framed choice c) (hr : Framed choice r)
    (deeper : ∀ l ∈ c, n < l.indent) (inside : Inside choice s n r) (hk : k < r.length) :
    Dropped (s.framed .expand n c r) (c.length + 3 + k) ↔ Dropped r k := by
  have hf : FrameAt choice (s.framed .expand n c r) 0 s n c r := .self hc hr deeper inside
  apply hr.dropped_of_occurs .result
  intro i m j hs hi him hmj
  have hb := (Framed.frame hc hr deeper inside).span_bounds hs
  rw [length_framed] at hb
  rcases Nat.eq_zero_or_pos i with rfl | hpos
  · have := hf.span_iff.mp hs
    omega
  · have := hf.branchEnd?_inside hpos (by omega) hs.1
    omega

theorem dropped_of_frameAt (hf : FrameAt choice ls i s n c r)
    (hk : (i < k ∧ k ≤ i + 2 + c.length) ∨ k = i + 3 + c.length + r.length) : Dropped ls k :=
  dropped_iff.mpr ⟨i, _, _, hf.span_iff.mpr ⟨rfl, rfl⟩, hk⟩

theorem not_dropped_zero : ¬ Dropped ls 0 := by
  rw [dropped_iff]
  rintro ⟨i, m, j, hs, hk⟩
  have hi := hs.2.1
  have hm := hs.2.2.1
  omega

section

variable {p q : Nat → Bool}

theorem keepFrom_append :
    keepFrom p k (xs ++ ys) = keepFrom p k xs ++ keepFrom p (k + xs.length) ys := by
  induction xs generalizing k with
  | nil => rfl
  | cons l xs ih =>
    have hk : k + (l :: xs).length = k + 1 + xs.length := by
      rw [List.length_cons]
      omega
    rw [List.cons_append, keepFrom, keepFrom, ih, hk]
    split <;> rfl

theorem keepFrom_congr (h : ∀ i < ls.length, p (k + i) = q (m + i)) :
    keepFrom p k ls = keepFrom q m ls := by
  induction ls generalizing k m with
  | nil => rfl
  | cons l ls ih =>
    have h0 : p k = q m := h 0 (by simp)
    have hs : ∀ i < ls.length, p (k + 1 + i) = q (m + 1 + i) := by
      intro i hi
      have := h (i + 1) (by simpa using hi)
      rwa [show k + 1 + i = k + (i + 1) by omega, show m + 1 + i = m + (i + 1) by omega]
    rw [keepFrom, keepFrom, h0, ih hs]

theorem keepFrom_none (h : ∀ i < ls.length, p (k + i) = false) : keepFrom p k ls = [] := by
  induction ls generalizing k with
  | nil => rfl
  | cons l ls ih =>
    have h0 : p k = false := h 0 (by simp)
    have hs : ∀ i < ls.length, p (k + 1 + i) = false := by
      intro i hi
      have := h (i + 1) (by simpa using hi)
      rwa [show k + 1 + i = k + (i + 1) by omega]
    rw [keepFrom, h0, ih hs]
    rfl

theorem keepFrom_subset : keepFrom p k ls ⊆ ls := by
  induction ls generalizing k with
  | nil => exact List.Subset.refl _
  | cons l ls ih =>
    rw [keepFrom]
    split
    · exact List.cons_subset_cons l ih
    · exact List.subset_cons_of_subset l ih

end

theorem eraseFrames_append (hx : Framed choice xs) (hy : Framed choice ys) :
    eraseFrames (xs ++ ys) = eraseFrames xs ++ eraseFrames ys := by
  rw [eraseFrames, keepFrom_append, Nat.zero_add]
  congr 1
  · apply keepFrom_congr
    intro i hi
    simp [dropped_append_left hx hy hi]
  · apply keepFrom_congr
    intro i hi
    simp [dropped_append_right hx hy]

theorem eraseFrames_singleton : eraseFrames [l] = [l] := by
  simp [eraseFrames, keepFrom, not_dropped_zero]

/-- Of a frame, the head and what is left of the result stay. -/
theorem eraseFrames_framed (hc : Framed choice c) (hr : Framed choice r)
    (deeper : ∀ l ∈ c, n < l.indent) (inside : Inside choice s n r) :
    eraseFrames (s.framed .expand n c r) = .node s.head n :: eraseFrames r := by
  have hf : FrameAt choice (s.framed .expand n c r) 0 s n c r := .self hc hr deeper inside
  have hsplit : s.framed .expand n c r = [.node s.head n] ++
      ((.marker s.tag .conditionStart n :: (c ++ [.marker s.tag .resultStart n])) ++
        (r ++ [.marker s.tag .sequenceEnd n])) := by
    simp [Symbol.framed]
  rw [eraseFrames]
  generalize hp : (fun k => !decide (Dropped (s.framed .expand n c r) k)) = p
  have hH : keepFrom p 0 [.node s.head n] = [.node s.head n] := by
    simp [keepFrom, ← hp, not_dropped_zero]
  have hC : keepFrom p 1
      (.marker s.tag .conditionStart n :: (c ++ [.marker s.tag .resultStart n])) = [] := by
    apply keepFrom_none
    intro i hi
    have hd := dropped_of_frameAt (k := 1 + i) hf (by simp at hi; omega)
    simp [← hp, hd]
  have hR : keepFrom p (c.length + 3) r = eraseFrames r := by
    apply keepFrom_congr
    intro i hi
    have hd := dropped_framed_result hc hr deeper inside hi
    simp [← hp, hd]
  have hE : keepFrom p (c.length + 3 + r.length) [.marker s.tag .sequenceEnd n] = [] := by
    apply keepFrom_none
    intro i hi
    have hd := dropped_of_frameAt (k := c.length + 3 + r.length + i) hf (by simp at hi; omega)
    simp [← hp, hd]
  have hlen : 0 + [Line.node s.head n].length + (Line.marker s.tag .conditionStart n ::
      (c ++ [.marker s.tag .resultStart n])).length = c.length + 3 := by
    simp only [List.length_cons, List.length_append, List.length_nil]
    omega
  rw [hsplit, keepFrom_append, keepFrom_append, keepFrom_append, hlen, hH, hR, hE]
  simp [hC]

theorem eraseFrames_flatMap {vs : List Value} {f g : Value → List Line}
    (hf : ∀ v ∈ vs, Framed choice (f v)) (h : ∀ v ∈ vs, eraseFrames (f v) = g v) :
    eraseFrames (vs.flatMap f) = vs.flatMap g := by
  induction vs with
  | nil => rfl
  | cons v vs ih =>
    have hvs : ∀ w ∈ vs, Framed choice (f w) := fun w hw => hf w (.tail _ hw)
    rw [List.flatMap_cons, List.flatMap_cons, eraseFrames_append (hf v (.head _)) (.flatMap hvs),
      h v (.head _), ih hvs fun w hw => h w (.tail _ hw)]

theorem eraseFrames_bound {b : List Line} (hb : Framed choice b) :
    eraseFrames (s.binding n :: b) = s.binding n :: eraseFrames b := by
  have h : Framed choice [s.binding n] := .line rfl
  rw [← List.singleton_append, eraseFrames_append h hb, eraseFrames_singleton]
  rfl

theorem Value.eraseFrames_lines (v : Value) (n : Int) :
    eraseFrames (v.lines choice .expand n) = v.lines choice .collapse n := by
  induction v using Value.node_induction generalizing n with
  | leaf v hv =>
    cases v with
    | symbol s => cases hv
    | _ => rfl
  | node s ih ihc =>
    have hf (name : String) : Framed choice ((s.getD name).lines choice .expand (n + 1)) :=
      Value.lines_framed _ _
    cases hb : s.hasBranches choice with
    | true =>
      have hbound : eraseFrames (s.bound choice .expand n) = s.bound choice .collapse n := by
        unfold Symbol.bound
        split
        · rw [eraseFrames_bound (hf _), ih]
        · rfl
      have hd (name : String) : ∀ l ∈ (s.getD name).lines choice .expand (n + 1), n < l.indent :=
        fun l hl => Value.indent_lt_of_mem hl
      rw [Symbol.lines_of_hasBranches hb, Symbol.lines_of_hasBranches hb,
        eraseFrames_framed (hf _) (.append (.bound (hf _)) (hf _)) (hd _) (.bound (hd _)),
        eraseFrames_append (.bound (hf _)) (hf _), hbound, ih]
      rfl
    | false =>
      rw [Symbol.lines_of_not_hasBranches hb, Symbol.lines_of_not_hasBranches hb]
      split
      · rfl
      · exact eraseFrames_flatMap (fun v _ => v.lines_framed (n + 1)) fun v hv => ihc v hv (n + 1)
      all_goals exact eraseFrames_singleton

theorem Outline.marker?_collapse (o : Outline) (n : Int) (h : l ∈ o.lines .collapse n) :
    l.marker? = none := by
  induction o generalizing n with
  | blank | bareList | noOp => cases h
  | both o o' ih ih' =>
    rcases List.mem_append.mp h with h | h
    · exact ih n h
    · exact ih' n h
  | sequence tag body ih => exact ih _ h
  | line s =>
    obtain rfl := List.mem_singleton.mp h
    rfl
  | condition s c r ihc ihr =>
    rcases List.mem_cons.mp h with rfl | h
    · rfl
    · exact ihr _ h
  | choice s c b r ihc ihb ihr =>
    rcases List.mem_cons.mp h with rfl | h
    · rfl
    · rcases List.mem_append.mp h with h | h
      · rcases List.mem_cons.mp h with rfl | h
        · rfl
        · exact ihb _ h
      · exact ihr _ h

/-- What can be written out in full can be written out collapsed. -/
theorem Outline.fault?_collapse (o : Outline) (h : o.fault? .expand = none) :
    o.fault? .collapse = none := by
  induction o with
  | blank | noOp | line => rfl
  | bareList => cases h
  | both o o' ih ih' =>
    simp only [Outline.fault?, Option.or_eq_none_iff] at h ⊢
    exact ⟨ih h.1, ih' h.2⟩
  | sequence tag body ih =>
    simp only [Outline.fault?, Option.map_eq_none_iff] at h ⊢
    exact ih h
  | condition s c r ihc ihr =>
    simp only [Outline.fault?, Option.or_eq_none_iff, Option.map_eq_none_iff] at h ⊢
    exact ihr h.2
  | choice s c b r ihc ihb ihr =>
    simp only [Outline.fault?, Option.or_eq_none_iff, Option.map_eq_none_iff] at h ⊢
    exact ⟨ihb h.2.1, ihr h.2.2⟩

theorem branchEnd?_eq_none_of_no_marker (h : ∀ l ∈ ls, l.marker? = none) (i : Nat) :
    branchEnd? ls i = none := by
  by_contra hn
  obtain ⟨j, hj⟩ := Option.ne_none_iff_exists'.mp hn
  obtain ⟨l, next, -, hnext, -, -, hm⟩ := opens_iff.mpr (startsBranch_of_branchEnd? hj)
  rw [h next (List.mem_of_getElem? hnext)] at hm
  cases hm

namespace Layout

variable {l : Layout} {tree : Tree} {q : Sequence}

/-- Collapsing a tree that can be written out in full gives what is left when every frame loses its
markers and its condition; then nothing is framed. -/
theorem IsStandard.flatten_collapse_eq_eraseFrames (h : l.IsStandard)
    (hq : l.flatten tree .expand = .ok q) (hl : q.linear? = some ls) :
    (∃ q', l.flatten tree .collapse = .ok q' ∧ q'.linear? = some (eraseFrames ls)) ∧
    (∀ line ∈ eraseFrames ls, line.marker? = none) ∧ ∀ i, branchEnd? (eraseFrames ls) i = none := by
  obtain ⟨hf, hc, rfl⟩ := h.flatten_lines_iff.mp ⟨q, hq, hl⟩
  have he : eraseFrames (tree.lines l.handles .expand) = tree.lines l.handles .collapse :=
    Value.eraseFrames_lines _ _
  have hm : ∀ line ∈ eraseFrames (tree.lines l.handles .expand), line.marker? = none := by
    intro line hline
    rw [he] at hline
    exact Outline.marker?_collapse _ _ hline
  refine ⟨h.flatten_lines_iff.mpr ⟨?_, ?_, he⟩, hm, branchEnd?_eq_none_of_no_marker hm⟩
  · exact Outline.fault?_collapse _ hf
  · exact checkLines_of_subset hc keepFrom_subset

theorem nestedChoicesCard_collapse :
    ∃ q ls, Cards.layout.flatten nestedChoicesCard .expand = .ok q ∧ q.linear? = some ls ∧
      ls.length = 19 ∧ ∃ q', Cards.layout.flatten nestedChoicesCard .collapse = .ok q' ∧
        q'.linear? = some (eraseFrames ls) := by
  obtain ⟨q, hq, hl⟩ := nestedChoicesCard_flatten
  exact ⟨q, _, hq, hl, rfl, (isStandard_cards.flatten_collapse_eq_eraseFrames hq hl).1⟩

end Layout

end RulesText
