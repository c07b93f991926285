import Mathlib.Logic.ExistsUnique
import Mathlib.Tactic.ByContra
import RulesText.Proofs.Frames
import RulesText.Proofs.Linearization

/-!
The frames of a tree that is written out in full: each opening has its own end, each end its own
opening, and no two frames overlap without one being inside the other.
-/
namespace RulesText

variable {choice : String → Bool} {policy : Policy} {ls : List Line} {n : Int} {i j m : Nat}

/-- A node line directly followed by a condition marker of its tag. -/
def Opens (ls : List Line) (i : Nat) : Prop :=
  ∃ l next, ls[i]? = some l ∧ ls[i + 1]? = some next ∧
    l.symbol?.isSome = true ∧ next.tag = l.tag ∧ next.marker? = some .conditionStart

/-- The result marker of the frame from `i` to `j`: it has the tag and the depth of the head, and it
lies in the frame but in no frame inside it. -/
def IsResultMark (ls : List Line) (i j m : Nat) : Prop :=
  i < m ∧ m < j ∧
  ls[m]? = ls[i]?.map (fun head => .marker head.tag .resultStart head.indent) ∧
  ∀ i' < j, i < i' → ∀ j' ∈ branchEnd? ls i', j' < j → m < i' ∨ j' < m

instance : Decidable (IsResultMark ls i j m) := inferInstanceAs (Decidable (_ ∧ _))

/-- Lines whose frames, found by counting openings and ends of one tag, are properly nested. -/
structure Nested (choice : String → Bool) (ls : List Line) : Prop where
  /-- Exactly the openings have an end. -/
  isSome_iff : ∀ i, (branchEnd? ls i).isSome = true ↔ Opens ls i
  /-- An end is an end marker after the head, with its tag and depth. -/
  ends : ∀ i j, branchEnd? ls i = some j → i < j ∧
    ls[j]? = ls[i]?.map (fun head => .marker head.tag .sequenceEnd head.indent)
  injective : ∀ i i' j, branchEnd? ls i = some j → branchEnd? ls i' = some j → i = i'
  surjective : ∀ j l, ls[j]? = some l → l.isEnd = true → ∃ i, branchEnd? ls i = some j
  resultMark : ∀ i j, branchEnd? ls i = some j → ∃! m, IsResultMark ls i j m
  /-- Two frames lie apart, or one of them lies in the other. -/
  apart_or_inside : ∀ i j i' j', branchEnd? ls i = some j → branchEnd? ls i' = some j' →
    j < i' ∨ j' < i ∨ (i ≤ i' ∧ j' ≤ j) ∨ (i' ≤ i ∧ j ≤ j')
  /-- All lines of a frame stand deeper than its head, but for its markers and the binding of a
  choice. -/
  deeper : ∀ i j m head k l, branchEnd? ls i = some j → IsResultMark ls i j m →
    ls[i]? = some head → i < k → k < j → k ≠ i + 1 → k ≠ m → ls[k]? = some l →
    head.indent < l.indent ∨ (choice head.tag = true ∧ k = m + 1 ∧
      ∃ v, l = .param head.tag Cards.subjectField v head.indent)

theorem opens_iff : Opens ls i ↔ startsBranch (ls.drop i) = true := by
  have h0 : ls[i]? = (ls.drop i)[0]? := by simp
  have h1 : ls[i + 1]? = (ls.drop i)[1]? := by simp
  rw [Opens, h0, h1]
  match ls.drop i with
  | [] => simp [startsBranch]
  | [l] => simp [startsBranch]
  | l :: next :: _ => simp [startsBranch, opensBranch, and_assoc]

theorem IsResultMark.of_frameAt {s : Symbol} {c r : List Line} (h : FrameAt choice ls i s n c r) :
    IsResultMark ls i (i + 3 + c.length + r.length) (i + 2 + c.length) := by
  refine ⟨by omega, by omega, ?_, ?_⟩
  · rw [h.resultMark_eq, h.head_eq]
    simp [Line.node, Symbol.tag_head]
  · intro i' hi' hi j' hj' hj
    have := h.branchEnd?_inside hi hi' hj'
    omega

/-- What lies inside a frame stands deeper than its head, but for its markers and the binding. -/
theorem FrameAt.indent_lt {s : Symbol} {c r : List Line} {k : Nat} {l : Line}
    (h : FrameAt choice ls i s n c r) (hi : i + 1 < k) (hk : k < i + 3 + c.length + r.length)
    (hm : k ≠ i + 2 + c.length) (hl : ls[k]? = some l) :
    n < l.indent ∨ (choice s.tag = true ∧ k = i + 2 + c.length + 1 ∧ l = s.binding n) := by
  by_cases hkc : k < i + 2 + c.length
  · left
    obtain ⟨k', rfl⟩ : ∃ k', k = i + 2 + k' := ⟨k - (i + 2), by omega⟩
    rw [h.occurs_condition.getElem? (by omega)] at hl
    exact h.deeper l (List.mem_of_getElem? hl)
  · obtain ⟨k', rfl⟩ : ∃ k', k = i + 3 + c.length + k' := ⟨k - (i + 3 + c.length), by omega⟩
    rw [h.occurs_result.getElem? (by omega)] at hl
    rcases h.inside k' l hl with hn | ⟨rfl, hc, hb⟩
    · exact .inl hn
    · exact .inr ⟨hc, by omega, hb⟩

theorem IsResultMark.unique {s : Symbol} {c r : List Line} (h : FrameAt choice ls i s n c r)
    (hm : IsResultMark ls i (i + 3 + c.length + r.length) m) : m = i + 2 + c.length := by
  obtain ⟨hi, hj, hl, -⟩ := hm
  rw [h.head_eq] at hl
  by_contra hne
  have h1 : m ≠ i + 1 := by
    rintro rfl
    rw [h.conditionMark_eq] at hl
    simp [Line.marker] at hl
  rcases h.indent_lt (by omega) hj hne hl with hn | ⟨-, -, hb⟩
  · exact absurd hn (by simp [Line.marker, Line.node])
  · simp [Line.marker, Symbol.binding, Line.param] at hb

theorem Framed.le_end (h : Framed choice ls) (hj : branchEnd? ls i = some j) : i ≤ j := by
  obtain ⟨s, n, c, r, -, rfl⟩ := h.frameAt_of_branchEnd? hj
  omega

/-- A frame that opens before another one is over ends before it. -/
theorem Framed.end_lt {i' j' : Nat} (h : Framed choice ls) (hj : branchEnd? ls i = some j)
    (hj' : branchEnd? ls i' = some j') (hi : i < i') (hij : i' ≤ j) : j' < j := by
  obtain ⟨s, n, c, r, hf, rfl⟩ := h.frameAt_of_branchEnd? hj
  have hne : i' ≠ i + 3 + c.length + r.length := by
    rintro rfl
    have hs := startsBranch_of_branchEnd? hj'
    rw [startsBranch_drop_marker hf.endMark_eq] at hs
    cases hs
  have := hf.branchEnd?_inside hi (by omega) hj'
  omega

theorem Framed.nested (h : Framed choice ls) : Nested choice ls where
  isSome_iff i := by
    rw [opens_iff, Option.isSome_iff_exists]
    constructor
    · rintro ⟨j, hj⟩
      exact startsBranch_of_branchEnd? hj
    · intro hs
      obtain ⟨s, n, c, r, hf⟩ := h.frameAt_of_starts hs
      exact ⟨_, hf.branchEnd?_eq⟩
  ends i j hj := by
    obtain ⟨s, n, c, r, hf, rfl⟩ := h.frameAt_of_branchEnd? hj
    refine ⟨by omega, ?_⟩
    rw [hf.endMark_eq, hf.head_eq]
    simp [Line.node, Symbol.tag_head]
  injective i i' j hj hj' := by
    have hi := h.le_end hj
    have hi' := h.le_end hj'
    by_contra hne
    rcases Nat.lt_or_gt_of_ne hne with hlt | hlt
    · exact Nat.lt_irrefl j (h.end_lt hj hj' hlt (by omega))
    · exact Nat.lt_irrefl j (h.end_lt hj' hj hlt (by omega))
  surjective j l hl he := by
    obtain ⟨i, s, n, c, r, hf, rfl⟩ := h.frameAt_of_isEnd hl he
    exact ⟨i, hf.branchEnd?_eq⟩
  resultMark i j hj := by
    obtain ⟨s, n, c, r, hf, rfl⟩ := h.frameAt_of_branchEnd? hj
    exact ⟨_, .of_frameAt hf, fun m hm => hm.unique hf⟩
  apart_or_inside i j i' j' hj hj' := by
    rcases Nat.lt_trichotomy i i' with hlt | rfl | hlt
    · by_cases hij : i' ≤ j
      · have := h.end_lt hj hj' hlt hij
        omega
      · omega
    · obtain rfl := Option.some.inj (hj.symm.trans hj')
      omega
    · by_cases hij : i ≤ j'
      · have := h.end_lt hj' hj hlt hij
        omega
      · omega
  deeper i j m head k l hj hm hh hi hk h1 hkm hl := by
    obtain ⟨s, n, c, r, hf, rfl⟩ := h.frameAt_of_branchEnd? hj
    obtain rfl := hm.unique hf
    obtain rfl := Option.some.inj (hf.head_eq.symm.trans hh)
    rcases hf.indent_lt (by omega) hk hkm hl with hn | ⟨hc, hk, rfl⟩
    · exact .inl hn
    · refine .inr ⟨?_, hk, (s.getD Cards.subjectField).scalar?, ?_⟩
      · simpa [Line.node, Symbol.tag_head] using hc
      · simp [Line.node, Symbol.tag_head, Symbol.binding]

theorem Framed.flatMap {vs : List Value} {f : Value → List Line}
    (h : ∀ v ∈ vs, Framed choice (f v)) : Framed choice (vs.flatMap f) := by
  induction vs with
  | nil => exact .nil
  | cons v vs ih => exact .append (h v (.head _)) (ih fun w hw => h w (.tail _ hw))

theorem Symbol.mem_framed {s : Symbol} {c r : List Line} {l : Line}
    (h : l ∈ s.framed policy n c r) : l.indent = n ∨ l ∈ c ∨ l ∈ r := by
  rcases Symbol.framed_cases h with rfl | ⟨m, rfl⟩ | ⟨-, h⟩ | h
  · exact .inl rfl
  · exact .inl rfl
  · exact .inr (.inl h)
  · exact .inr (.inr h)

/-- No line stands above the depth it is written at. -/
theorem Outline.le_indent (o : Outline) {l : Line} (h : l ∈ o.lines policy n) : n ≤ l.indent := by
  induction o generalizing n with
  | blank | bareList | noOp => cases h
  | both o o' ih ih' =>
    rcases List.mem_append.mp h with h | h
    · exact ih h
    · exact ih' h
  | sequence tag body ih =>
    have := ih h
    omega
  | line s =>
    obtain rfl := List.mem_singleton.mp h
    exact Int.le_refl n
  | condition s c r ihc ihr =>
    rcases Symbol.mem_framed h with h | h | h
    · omega
    · have := ihc h
      omega
    · have := ihr h
      omega
  | choice s c b r ihc ihb ihr =>
    rcases Symbol.mem_framed h with h | h | h
    · omega
    · have := ihc h
      omega
    · rcases List.mem_append.mp h with h | h
      · rcases List.mem_cons.mp h with rfl | h
        · exact Int.le_refl n
        · have := ihb h
          omega
      · have := ihr h
        omega

theorem Value.indent_lt_of_mem {v : Value} {l : Line} (h : l ∈ v.lines choice policy (n + 1)) :
    n < l.indent := by
  have := Outline.le_indent _ h
  omega

theorem Inside.of_deeper {s : Symbol} (h : ∀ l ∈ ls, n < l.indent) : Inside choice s n ls :=
  fun _ l hl => .inl (h l (List.mem_of_getElem? hl))

theorem Inside.bound {s : Symbol} {r : List Line} (hr : ∀ l ∈ r, n < l.indent) :
    Inside choice s n (s.bound choice .expand n ++ r) := by
  cases hs : choice s.tag with
  | false =>
    rw [Symbol.bound, if_neg (by simp [hs])]
    exact .of_deeper hr
  | true =>
    rw [Symbol.bound, if_pos hs]
    intro k l hl
    cases k with
    | zero => exact .inr ⟨rfl, hs, (Option.some.inj hl).symm⟩
    | succ k =>
      left
      have hl : ((s.getD Cards.subjectField).lines choice .expand (n + 1) ++ r)[k]? = some l := hl
      rcases List.mem_append.mp (List.mem_of_getElem? hl) with hl | hl
      · exact Value.indent_lt_of_mem hl
      · exact hr l hl

theorem Framed.bound {s : Symbol}
    (h : Framed choice ((s.getD Cards.subjectField).lines choice .expand (n + 1))) :
    Framed choice (s.bound choice .expand n) := by
  unfold Symbol.bound
  split
  · exact .append (.line rfl) h
  · exact .nil

theorem Value.lines_framed (v : Value) (n : Int) : Framed choice (v.lines choice .expand n) := by
  induction v using Value.node_induction generalizing n with
  | leaf v hv =>
    cases v with
    | symbol s => cases hv
    | _ => exact .nil
  | node s ih ihc =>
    cases hb : s.hasBranches choice with
    | true =>
      rw [Symbol.lines_of_hasBranches hb]
      apply Framed.frame (ih _ _) (.append (.bound (ih _ _)) (ih _ _))
      · exact fun l hl => Value.indent_lt_of_mem hl
      · exact .bound fun l hl => Value.indent_lt_of_mem hl
    | false =>
      rw [Symbol.lines_of_not_hasBranches hb]
      split
      · exact .nil
      · exact .flatMap fun v hv => ihc v hv _
      all_goals exact .line rfl

theorem Tree.lines_framed (t : Tree) : Framed choice (t.lines choice .expand) :=
  Value.lines_framed _ _

namespace Layout

variable {l : Layout} {tree : Tree} {q : Sequence}

/-- Written out in full, every tree has properly nested frames. -/
theorem IsStandard.flatten_expand_nested (h : l.IsStandard) (hq : l.flatten tree .expand = .ok q)
    (hl : q.linear? = some ls) :
    Nested l.handles ls ∧ ∀ tag, l.handles tag = true → tag = Cards.may.tag := by
  obtain ⟨-, -, rfl⟩ := h.flatten_lines_iff.mp ⟨q, hq, hl⟩
  exact ⟨tree.lines_framed.nested, fun _ => h.tag_of_handles⟩

theorem nestedChoicesCard_nested :
    ∃ q ls, Cards.layout.flatten nestedChoicesCard .expand = .ok q ∧ q.linear? = some ls ∧
      ls.length = 19 ∧ Nested Cards.layout.handles ls := by
  obtain ⟨q, hq, hl⟩ := nestedChoicesCard_flatten
  exact ⟨q, _, hq, hl, rfl, (isStandard_cards.flatten_expand_nested hq hl).1⟩

end Layout

end RulesText
