import RulesText.Cursor
import RulesText.Proofs.Outline

/-!
Framed lines: the lines between which frames are properly nested. Counting the branches of one tag
passes over framed lines as if they were not there, so the end of a frame is found where it stands.
-/
namespace RulesText

variable {choice : String → Bool} {ls xs ys c r after : List Line} {s : Symbol} {n : Int}
  {tag : String} {depth i k : Nat} {l : Line}

/-- The first line is no condition marker, so it cannot make the line before it open a branch. -/
def Detached (ls : List Line) : Prop := ls.head?.bind Line.marker? ≠ some .conditionStart

/-- Every line stands deeper than a head at that depth, but the first may bind its subject. -/
def Inside (choice : String → Bool) (s : Symbol) (n : Int) (ls : List Line) : Prop :=
  ∀ k l, ls[k]? = some l → n < l.indent ∨ (k = 0 ∧ choice s.tag = true ∧ l = s.binding n)

/-- Lines made of single lines without markers and of frames around framed lines. -/
inductive Framed (choice : String → Bool) : List Line → Prop where
  | nil : Framed choice []
  | line {l : Line} (h : l.marker? = none) : Framed choice [l]
  | append {xs ys : List Line} (hx : Framed choice xs) (hy : Framed choice ys) :
    Framed choice (xs ++ ys)
  | frame {s : Symbol} {n : Int} {c r : List Line} (hc : Framed choice c) (hr : Framed choice r)
    (deeper : ∀ l ∈ c, n < l.indent) (inside : Inside choice s n r) :
    Framed choice (s.framed .expand n c r)

theorem detached_nil : Detached [] := by simp [Detached]

theorem detached_cons : Detached (l :: ls) ↔ l.marker? ≠ some .conditionStart := by simp [Detached]

theorem framed_append : s.framed .expand n c r ++ after =
    .node s.head n :: .marker s.tag .conditionStart n ::
      (c ++ .marker s.tag .resultStart n :: (r ++ .marker s.tag .sequenceEnd n :: after)) := by
  simp [Symbol.framed]

theorem length_framed : (s.framed .expand n c r).length = c.length + r.length + 4 := by
  simp only [Symbol.framed, List.length_cons, List.length_append, List.length_nil]
  omega

theorem Framed.detached_append (h : Framed choice xs) (hy : Detached ys) : Detached (xs ++ ys) := by
  induction h generalizing ys with
  | nil => exact hy
  | line h => simp [detached_cons, h]
  | append _ _ ihx ihy =>
    rw [List.append_assoc]
    exact ihx (ihy hy)
  | frame =>
    rw [framed_append, detached_cons]
    simp [Line.marker?, Line.node]

theorem Framed.detached (h : Framed choice ls) : Detached ls := by
  simpa using h.detached_append detached_nil

theorem startsBranch_marker {m : Marker} : startsBranch (.marker tag m n :: ls) = false := by
  cases ls <;> simp [startsBranch, opensBranch, Line.symbol?, Line.marker]

theorem startsBranch_head :
    startsBranch (.node s.head n :: .marker s.tag .conditionStart n :: ls) = true := by
  simp [startsBranch, opensBranch, Line.symbol?, Line.node, Line.marker, Line.marker?,
    Symbol.tag_head]

theorem startsBranch_append (hx : xs ≠ []) (hy : Detached ys) :
    startsBranch (xs ++ ys) = startsBranch xs := by
  match xs, ys with
  | [l], [] => rfl
  | [l], next :: rest =>
    rw [detached_cons] at hy
    simp [startsBranch, opensBranch, hy]
  | _ :: _ :: _, _ => rfl

theorem map_add_add {o : Option Nat} {a b : Nat} :
    (o.map (· + a)).map (· + b) = o.map (· + (a + b)) := by
  simp [Option.map_map, Function.comp_def, Nat.add_assoc]

theorem map_add_congr {o : Option Nat} {a b : Nat} (h : a = b) :
    o.map (· + a) = o.map (· + b) := by
  rw [h]

/-! Counting, line by line. -/

theorem closingAfter_other (h : l.tag ≠ tag) :
    closingAfter tag depth (l :: ls) = (closingAfter tag depth ls).map (· + 1) := by
  simp [closingAfter, h]

theorem closingAfter_passing (hs : startsBranch (l :: ls) = false) (he : l.isEnd = false) :
    closingAfter tag depth (l :: ls) = (closingAfter tag depth ls).map (· + 1) := by
  rw [closingAfter, hs, he]
  simp

theorem closingAfter_opening (h : l.tag = tag) (hs : startsBranch (l :: ls) = true) :
    closingAfter tag depth (l :: ls) = (closingAfter tag (depth + 1) ls).map (· + 1) := by
  simp [closingAfter, h, hs]

theorem closingAfter_ending : closingAfter tag depth (.marker tag .sequenceEnd n :: ls) =
    if depth ≤ 1 then some 0 else (closingAfter tag (depth - 1) ls).map (· + 1) := by
  rw [closingAfter, startsBranch_marker]
  simp [Line.marker, Line.isEnd, Line.marker?]

theorem closingAfter_marker {m : Marker} (h : m ≠ .sequenceEnd ∨ s.tag ≠ tag) :
    closingAfter tag depth (.marker s.tag m n :: ls) = (closingAfter tag depth ls).map (· + 1) := by
  rcases h with h | h
  · apply closingAfter_passing startsBranch_marker
    simp [Line.marker, Line.isEnd, Line.marker?, h]
  · exact closingAfter_other h

/-- Counting passes over these lines while a branch is open before them. -/
def Passed (xs : List Line) : Prop :=
  ∀ tag depth ys, Detached ys → 1 ≤ depth →
    closingAfter tag depth (xs ++ ys) = (closingAfter tag depth ys).map (· + xs.length)

theorem detached_marker {m : Marker} (h : m ≠ .conditionStart) :
    Detached (.marker tag m n :: ls) := by
  simp [detached_cons, Line.marker?, Line.marker, h]

/-- From the head of a frame on, counting its own tag comes to its end marker. -/
theorem closingAfter_framed (hc : Passed c) (hr : Passed r) :
    closingAfter s.tag depth (s.framed .expand n c r ++ after) =
      (closingAfter s.tag (depth + 1) (.marker s.tag .sequenceEnd n :: after)).map
        (· + (c.length + r.length + 3)) := by
  have hC : ¬ Marker.conditionStart = .sequenceEnd := by decide
  have hR : ¬ Marker.resultStart = .sequenceEnd := by decide
  rw [framed_append, closingAfter_opening (Symbol.tag_head s) startsBranch_head,
    closingAfter_marker (.inl hC), hc _ _ _ (detached_marker (by decide)) (by omega),
    closingAfter_marker (.inl hR), hr _ _ _ (detached_marker (by decide)) (by omega)]
  simp only [map_add_add]
  exact map_add_congr (by omega)

theorem passed_framed (hc : Passed c) (hr : Passed r) : Passed (s.framed .expand n c r) := by
  intro tag depth ys hy hd
  rw [length_framed]
  by_cases ht : s.tag = tag
  · subst ht
    rw [closingAfter_framed hc hr, closingAfter_ending, if_neg (by omega), map_add_add]
    exact map_add_congr (by omega)
  · have hh : (Line.node s.head n).tag ≠ tag := by simpa [Line.node, Symbol.tag_head] using ht
    rw [framed_append, closingAfter_other hh, closingAfter_marker (.inr ht),
      hc _ _ _ (detached_marker (by decide)) hd, closingAfter_marker (.inr ht),
      hr _ _ _ (detached_marker (by decide)) hd, closingAfter_marker (.inr ht)]
    simp only [map_add_add]
    exact map_add_congr (by omega)

theorem Framed.passed (h : Framed choice xs) : Passed xs := by
  induction h with
  | nil =>
    intro tag depth ys _ _
    simp
  | @line l h =>
    intro tag depth ys hy hd
    apply closingAfter_passing
    · exact startsBranch_append (List.cons_ne_nil l []) hy
    · simp [Line.isEnd, h]
  | @append xs xs' _ hx' ihx ihx' =>
    intro tag depth ys hy hd
    rw [List.append_assoc, ihx _ _ _ (hx'.detached_append hy) hd, ihx' _ _ _ hy hd,
      map_add_add, List.length_append]
    exact map_add_congr (by omega)
  | frame _ _ _ _ ihc ihr => exact passed_framed ihc ihr

/-- These lines stand from an index on, and what follows does not make the last one an opening. -/
def Occurs (xs ls : List Line) (i : Nat) : Prop :=
  ∃ before after, ls = before ++ (xs ++ after) ∧ before.length = i ∧ Detached after

theorem Detached.append (hx : Detached xs) (hy : Detached ys) : Detached (xs ++ ys) := by
  cases xs with
  | nil => exact hy
  | cons l rest => simpa [detached_cons] using hx

namespace Occurs

variable {j : Nat}

theorem trans (h : Occurs xs ys k) (h' : Occurs ys ls i) : Occurs xs ls (i + k) := by
  obtain ⟨before, after, rfl, rfl, ha⟩ := h
  obtain ⟨before', after', rfl, rfl, ha'⟩ := h'
  exact ⟨before' ++ before, after ++ after', by simp, by simp, ha.append ha'⟩

theorem drop_eq (h : Occurs xs ls i) (hk : k ≤ xs.length) :
    ∃ after, ls.drop (i + k) = xs.drop k ++ after ∧ Detached after := by
  obtain ⟨before, after, rfl, rfl, ha⟩ := h
  refine ⟨after, ?_, ha⟩
  rw [← List.drop_drop, List.drop_left, List.drop_append_of_le_length hk]

theorem getElem? (h : Occurs xs ls i) (hk : k < xs.length) : ls[i + k]? = xs[k]? := by
  obtain ⟨before, after, rfl, rfl, -⟩ := h
  rw [List.getElem?_append_right (by omega), Nat.add_sub_cancel_left,
    List.getElem?_append_left hk]

theorem startsBranch (h : Occurs xs ls i) (hk : k < xs.length) :
    RulesText.startsBranch (ls.drop (i + k)) = RulesText.startsBranch (xs.drop k) := by
  obtain ⟨after, hd, ha⟩ := h.drop_eq (Nat.le_of_lt hk)
  rw [hd]
  apply startsBranch_append _ ha
  intro hn
  have := List.drop_eq_nil_iff.mp hn
  omega

theorem left (hy : Detached ys) : Occurs xs (xs ++ ys) 0 := ⟨[], ys, rfl, rfl, hy⟩

theorem right : Occurs ys (xs ++ ys) xs.length := ⟨xs, [], by simp, rfl, detached_nil⟩

theorem condition : Occurs c (s.framed .expand n c r) 2 :=
  ⟨[.node s.head n, .marker s.tag .conditionStart n], _, by
    rw [← List.append_nil (s.framed .expand n c r), framed_append]
    rfl, rfl, detached_marker (by decide)⟩

theorem result : Occurs r (s.framed .expand n c r) (c.length + 3) :=
  ⟨.node s.head n :: .marker s.tag .conditionStart n :: (c ++ [.marker s.tag .resultStart n]),
    [.marker s.tag .sequenceEnd n], by simp [Symbol.framed], by simp,
    detached_marker (by decide)⟩

end Occurs

/-- At an index stands a frame with these branches. -/
structure FrameAt (choice : String → Bool) (ls : List Line) (i : Nat) (s : Symbol) (n : Int)
    (c r : List Line) : Prop where
  occurs : Occurs (s.framed .expand n c r) ls i
  condition : Framed choice c
  result : Framed choice r
  deeper : ∀ l ∈ c, n < l.indent
  inside : Inside choice s n r

namespace FrameAt

/-- A frame by itself. -/
theorem self (hc : Framed choice c) (hr : Framed choice r) (deeper : ∀ l ∈ c, n < l.indent)
    (inside : Inside choice s n r) : FrameAt choice (s.framed .expand n c r) 0 s n c r :=
  ⟨⟨[], [], by simp, rfl, detached_nil⟩, hc, hr, deeper, inside⟩

theorem of_occurs (h : FrameAt choice xs k s n c r) (hx : Occurs xs ls i) :
    FrameAt choice ls (i + k) s n c r :=
  ⟨h.occurs.trans hx, h.condition, h.result, h.deeper, h.inside⟩

variable (h : FrameAt choice ls i s n c r)

include h

theorem occurs_condition : Occurs c ls (i + 2) := Occurs.condition.trans h.occurs

theorem occurs_result : Occurs r ls (i + 3 + c.length) := by
  have := Occurs.result.trans h.occurs
  rwa [show i + (c.length + 3) = i + 3 + c.length by omega] at this

theorem length_le : i + 4 + c.length + r.length ≤ ls.length := by
  obtain ⟨before, after, rfl, rfl, -⟩ := h.occurs
  simp only [List.length_append, length_framed]
  omega

theorem head_eq : ls[i]? = some (.node s.head n) :=
  h.occurs.getElem? (k := 0) (by simp [length_framed])

theorem conditionMark_eq : ls[i + 1]? = some (.marker s.tag .conditionStart n) :=
  h.occurs.getElem? (by simp [length_framed])

theorem resultMark_eq : ls[i + 2 + c.length]? = some (.marker s.tag .resultStart n) := by
  rw [Nat.add_assoc, h.occurs.getElem? (by rw [length_framed]; omega)]
  rw [← List.append_nil (s.framed .expand n c r), framed_append]
  simp [show 2 + c.length = c.length + 1 + 1 by omega]

theorem endMark_eq : ls[i + 3 + c.length + r.length]? = some (.marker s.tag .sequenceEnd n) := by
  rw [show i + 3 + c.length + r.length = i + (c.length + (r.length + 1) + 1 + 1) by omega,
    h.occurs.getElem? (by rw [length_framed]; omega)]
  rw [← List.append_nil (s.framed .expand n c r), framed_append]
  simp

theorem startsBranch_drop : startsBranch (ls.drop i) = true := by
  obtain ⟨after, hd, -⟩ := h.occurs.drop_eq (Nat.zero_le _)
  rw [Nat.add_zero, List.drop_zero, framed_append] at hd
  rw [hd, startsBranch_head]

theorem branchEnd?_eq : branchEnd? ls i = some (i + 3 + c.length + r.length) := by
  obtain ⟨after, hd, -⟩ := h.occurs.drop_eq (Nat.zero_le _)
  have hs := h.startsBranch_drop
  have hc : closingAfter s.tag 0 (s.framed .expand n c r ++ after) =
      some (c.length + r.length + 3) := by
    rw [closingAfter_framed h.condition.passed h.result.passed, closingAfter_ending]
    simp
  rw [Nat.add_zero, List.drop_zero] at hd
  rw [hd] at hs
  rw [branchEnd?, hd]
  rw [framed_append] at hs hc ⊢
  have ht : (Line.node s.head n).tag = s.tag := s.tag_head
  simp only [hs, if_true, ht, hc, Option.map_some]
  congr 1
  omega

end FrameAt

/-- Where a line of framed lines belongs: it stands alone, or it is the head or a marker of a
frame. -/
def Placed (choice : String → Bool) (ls : List Line) (k : Nat) : Prop :=
  (∃ l, ls[k]? = some l ∧ l.marker? = none ∧ startsBranch (ls.drop k) = false) ∨
  ∃ i s n c r, FrameAt choice ls i s n c r ∧
    (k = i ∨ k = i + 1 ∨ k = i + 2 + c.length ∨ k = i + 3 + c.length + r.length)

theorem Placed.of_occurs (h : Placed choice xs k) (hk : k < xs.length) (hx : Occurs xs ls i) :
    Placed choice ls (i + k) := by
  rcases h with ⟨l, hl, hm, hs⟩ | ⟨i', s, n, c, r, h, hk⟩
  · exact .inl ⟨l, by rw [hx.getElem? hk, hl], hm, by rw [hx.startsBranch hk, hs]⟩
  · exact .inr ⟨i + i', s, n, c, r, h.of_occurs hx, by omega⟩

theorem Framed.placed (h : Framed choice ls) (hk : k < ls.length) : Placed choice ls k := by
  induction h generalizing k with
  | nil => simp at hk
  | @line l h =>
    obtain rfl : k = 0 := by simpa using hk
    exact .inl ⟨l, rfl, h, rfl⟩
  | @append xs ys _ hy ihx ihy =>
    rw [List.length_append] at hk
    by_cases hx : k < xs.length
    · simpa using (ihx hx).of_occurs hx (.left hy.detached)
    · have hky : k - xs.length < ys.length := by omega
      have h := (ihy hky).of_occurs hky (.right : Occurs ys (xs ++ ys) _)
      rwa [Nat.add_sub_cancel' (by omega)] at h
  | @frame s n c r hc hr hn hi ihc ihr =>
    rw [length_framed] at hk
    -- The index lies in a branch, or it is one of the four lines of the frame itself.
    by_cases hkc : 2 ≤ k ∧ k < 2 + c.length
    · have hk' : k - 2 < c.length := by omega
      have h := (ihc hk').of_occurs hk' (.condition : Occurs c (s.framed .expand n c r) 2)
      rwa [Nat.add_sub_cancel' (by omega)] at h
    by_cases hkr : c.length + 3 ≤ k ∧ k < c.length + 3 + r.length
    · have hk' : k - (c.length + 3) < r.length := by omega
      have h := (ihr hk').of_occurs hk' (.result : Occurs r (s.framed .expand n c r) _)
      rwa [Nat.add_sub_cancel' (by omega)] at h
    · exact .inr ⟨0, s, n, c, r, .self hc hr hn hi, by omega⟩

theorem startsBranch_drop_marker {m : Marker} (h : ls[k]? = some (.marker tag m n)) :
    startsBranch (ls.drop k) = false := by
  obtain ⟨hk, hl⟩ := List.getElem?_eq_some_iff.mp h
  rw [List.drop_eq_getElem_cons hk, hl, startsBranch_marker]

/-- Every opening among framed lines is the head of a frame. -/
theorem Framed.frameAt_of_starts (h : Framed choice ls) (hs : startsBranch (ls.drop i) = true) :
    ∃ s n c r, FrameAt choice ls i s n c r := by
  have hi : i < ls.length := by
    apply Nat.lt_of_not_le
    intro hn
    rw [List.drop_of_length_le hn] at hs
    cases hs
  rcases h.placed hi with ⟨l, _, _, hf⟩ | ⟨i', s, n, c, r, hf, rfl | rfl | rfl | rfl⟩
  · rw [hf] at hs
    cases hs
  · exact ⟨s, n, c, r, hf⟩
  · rw [startsBranch_drop_marker hf.conditionMark_eq] at hs
    cases hs
  · rw [startsBranch_drop_marker hf.resultMark_eq] at hs
    cases hs
  · rw [startsBranch_drop_marker hf.endMark_eq] at hs
    cases hs

/-- Every end marker among framed lines closes a frame. -/
theorem Framed.frameAt_of_isEnd (h : Framed choice ls) (hl : ls[k]? = some l)
    (he : l.isEnd = true) :
    ∃ i s n c r, FrameAt choice ls i s n c r ∧ k = i + 3 + c.length + r.length := by
  have hk : k < ls.length := (List.getElem?_eq_some_iff.mp hl).1
  rcases h.placed hk with ⟨l', hl', hm, _⟩ | ⟨i, s, n, c, r, hf, rfl | rfl | rfl | rfl⟩
  · obtain rfl : l' = l := Option.some.inj (hl'.symm.trans hl)
    simp [Line.isEnd, hm] at he
  · obtain rfl := Option.some.inj (hf.head_eq.symm.trans hl)
    cases he
  · obtain rfl := Option.some.inj (hf.conditionMark_eq.symm.trans hl)
    cases he
  · obtain rfl := Option.some.inj (hf.resultMark_eq.symm.trans hl)
    cases he
  · exact ⟨i, s, n, c, r, hf, rfl⟩

theorem startsBranch_of_branchEnd? {j : Nat} (h : branchEnd? ls i = some j) :
    startsBranch (ls.drop i) = true := by
  rw [branchEnd?] at h
  split at h
  · next l rest hd =>
    rw [hd]
    apply Decidable.byContradiction
    intro hs
    rw [if_neg hs] at h
    cases h
  · cases h

/-- Where counting finds an end, a frame stands between the two. -/
theorem Framed.frameAt_of_branchEnd? {j : Nat} (h : Framed choice ls)
    (hj : branchEnd? ls i = some j) :
    ∃ s n c r, FrameAt choice ls i s n c r ∧ j = i + 3 + c.length + r.length := by
  obtain ⟨s, n, c, r, hf⟩ := h.frameAt_of_starts (startsBranch_of_branchEnd? hj)
  exact ⟨s, n, c, r, hf, Option.some.inj (hj.symm.trans hf.branchEnd?_eq)⟩

/-- A frame that opens inside another one stays in the branch it opens in. -/
theorem FrameAt.branchEnd?_inside {j : Nat} (h : FrameAt choice ls i s n c r) (hik : i < k)
    (hk : k < i + 3 + c.length + r.length) (hj : branchEnd? ls k = some j) :
    (i + 2 ≤ k ∧ j < i + 2 + c.length) ∨
      (i + 3 + c.length ≤ k ∧ j < i + 3 + c.length + r.length) := by
  have hs := startsBranch_of_branchEnd? hj
  have hC : k ≠ i + 1 := by
    rintro rfl
    rw [startsBranch_drop_marker h.conditionMark_eq] at hs
    cases hs
  have hR : k ≠ i + 2 + c.length := by
    rintro rfl
    rw [startsBranch_drop_marker h.resultMark_eq] at hs
    cases hs
  by_cases hkc : k < i + 2 + c.length
  · left
    obtain ⟨k', rfl⟩ : ∃ k', k = i + 2 + k' := ⟨k - (i + 2), by omega⟩
    rw [h.occurs_condition.startsBranch (by omega)] at hs
    obtain ⟨s', n', c', r', hf⟩ := h.condition.frameAt_of_starts hs
    have hlen := hf.length_le
    have he := Option.some.inj (hj.symm.trans (hf.of_occurs h.occurs_condition).branchEnd?_eq)
    omega
  · right
    obtain ⟨k', rfl⟩ : ∃ k', k = i + 3 + c.length + k' := ⟨k - (i + 3 + c.length), by omega⟩
    rw [h.occurs_result.startsBranch (by omega)] at hs
    obtain ⟨s', n', c', r', hf⟩ := h.result.frameAt_of_starts hs
    have hlen := hf.length_le
    have he := Option.some.inj (hj.symm.trans (hf.of_occurs h.occurs_result).branchEnd?_eq)
    omega

end RulesText
