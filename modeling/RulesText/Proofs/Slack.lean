import RulesText.Proofs.Ways

/-!
Slack: how many characters a match takes at the least outside one of its groups. By that much the
group is shorter than the text.
-/
namespace RulesText

/-- The least number of characters that a match takes outside a group. -/
def Pattern.slack (i : Nat) : Pattern → Nat
  | empty | edge _ | opt .. | star .. => 0
  | char _ => 1
  | cat p q => p.slack i + q.slack i
  | alt p q => min (p.slack i) (q.slack i)
  | group j p => if j = i then 0 else p.slack i
  | plus _ _ p | joint _ p => p.slack i

variable {i n m : Nat} {s t u : Spot} {gs : Groups}

namespace Spot

/-- A way forward in the text that takes at least `n` characters outside of what is noted for the
group. -/
structure Advances (i n : Nat) (s t : Spot) : Prop where
  conserved : t.offset + t.rest.length = s.offset + s.rest.length
  takes : s.offset + n ≤ t.offset
  noted : t.groups.get? i = s.groups.get? i ∨
    ∃ span, t.groups.get? i = some span ∧ s.offset + n + (span.stop - span.start) ≤ t.offset

namespace Advances

theorem refl (s : Spot) : s.Advances i 0 s := ⟨rfl, Nat.le_refl _, .inl rfl⟩

theorem mono (h : s.Advances i m t) (hn : n ≤ m) : s.Advances i n t where
  conserved := h.conserved
  takes := Nat.le_trans (Nat.add_le_add_left hn _) h.takes
  noted := by
    rcases h.noted with hg | ⟨span, hg, hs⟩
    · exact .inl hg
    · exact .inr ⟨span, hg, by omega⟩

theorem trans (h : s.Advances i m t) (h' : t.Advances i n u) : s.Advances i (m + n) u where
  conserved := h'.conserved.trans h.conserved
  takes := by
    have := h.takes
    have := h'.takes
    omega
  noted := by
    have htakes := h.takes
    have htakes' := h'.takes
    rcases h'.noted with hu | ⟨span, hu, hs⟩
    · rcases h.noted with ht | ⟨span, ht, hs⟩
      · exact .inl (hu.trans ht)
      · exact .inr ⟨span, hu.trans ht, by omega⟩
    · exact .inr ⟨span, hu, by omega⟩

theorem step {c : Char} {rest : List Char} (h : s.rest = c :: rest) :
    s.Advances i 1 (s.step c rest) where
  conserved := by
    rw [h, List.length_cons]
    simp only [Spot.step]
    omega
  takes := Nat.le_refl _
  noted := .inl rfl

theorem mark (h : s.mark m = some t) : s.Advances i 0 t := by
  obtain rfl := of_mark h
  exact ⟨rfl, Nat.le_refl _, .inl rfl⟩

/-- What is noted for the group itself has no slack. -/
theorem note_self (h : s.Advances i n t) : s.Advances i 0 (t.note i s.offset) where
  conserved := h.conserved
  takes := Nat.le_trans (Nat.le_add_right s.offset n) h.takes
  noted := by
    have := h.takes
    refine .inr ⟨⟨s.offset, t.offset⟩, ?_, ?_⟩
    · rw [note, Groups.get?_put, if_pos rfl]
    · simp only [note]
      omega

theorem note_other {j start : Nat} (h : s.Advances i n t) (hj : j ≠ i) :
    s.Advances i n (t.note j start) where
  conserved := h.conserved
  takes := h.takes
  noted := by
    rw [note, Groups.get?_put, if_neg hj]
    exact h.noted

end Advances

end Spot

namespace Pattern

variable {p : Pattern}

/-- A way goes ahead by the slack and by what it notes for the group. -/
theorem Leads.advances (h : p.Leads s t) : s.Advances i (p.slack i) t := by
  induction h with
  | empty | edge | skip => exact .refl _
  | char hrest => exact .step hrest
  | cat _ _ ihp ihq => exact ihp.trans ihq
  | left _ ih => exact ih.mono (Nat.min_le_left _ _)
  | right _ ih => exact ih.mono (Nat.min_le_right _ _)
  | @group j p s t _ ih =>
    -- What the group itself takes counts as its width; any other group counts as slack.
    by_cases hj : j = i
    · subst hj
      rw [slack, if_pos rfl]
      exact ih.note_self
    · rw [slack, if_neg hj]
      exact ih.note_other hj
  | take _ ih => exact ih.mono (Nat.zero_le _)
  | done hs => exact .mark hs
  | more hs _ _ ihp ih => exact (((Spot.Advances.mark hs).trans ihp).trans ih).mono (Nat.zero_le _)
  | last hs _ hu ih =>
    exact (((Spot.Advances.mark hs).trans ih).trans (.mark hu)).mono (by simp [slack])
  | again hs _ hu _ ihp ih =>
    refine ((((Spot.Advances.mark hs).trans ihp).trans (.mark hu)).trans ih).mono ?_
    simp only [slack]
    omega
  | joint _ ht ih => exact ih.trans (.mark ht)

variable {before : Option Char} {rest cs : List Char} {offset : Nat} {span : Span}

theorem matchAt_width (hi : i ≠ 0) (h : p.matchAt before rest offset = some gs)
    (hspan : gs.get? i = some span) : span.stop - span.start + p.slack i ≤ rest.length := by
  obtain ⟨t, hway, ht⟩ := p.finds _ _ _ h
  have hadv : Spot.Advances i (p.slack i) _ t := hway.advances
  obtain rfl := Option.some.inj ht
  rw [Spot.note, Groups.get?_put, if_neg hi.symm] at hspan
  have hrest := hadv.conserved
  simp only at hrest
  rcases hadv.noted with hnone | ⟨span', hspan', hle⟩
  · rw [hspan] at hnone
    cases hnone
  · obtain rfl := Option.some.inj (hspan.symm.trans hspan')
    simp only at hle
    omega

theorem searchFrom_width (hi : i ≠ 0) (h : p.searchFrom before offset cs = some gs)
    (hspan : gs.get? i = some span) : span.stop - span.start + p.slack i ≤ cs.length := by
  induction cs generalizing before offset with
  | nil => exact matchAt_width hi h hspan
  | cons c rest ih =>
    rcases orElse_eq_some h with h | h
    · exact matchAt_width hi h hspan
    · have := ih h
      rw [List.length_cons]
      omega

end Pattern

namespace Matcher

variable {m : Matcher} {text : String} {groups : Captures} {cs : List Char}

/-- A group of a match is shorter than the text by the slack, and is made of its characters. -/
theorem group_of_captures? (hi : i ≠ 0) (h : m.captures? text = some groups)
    (hcs : groups.chars? i = some cs) :
    cs.length + m.pattern.slack i ≤ text.length ∧ cs ⊆ text.toList := by
  obtain ⟨gs, hgs, rfl⟩ := Option.map_eq_some_iff.mp h
  obtain ⟨span, hspan, rfl⟩ := Option.map_eq_some_iff.mp hcs
  have hwidth := Pattern.searchFrom_width hi hgs hspan
  constructor
  · rw [List.length_take, ← String.length_toList]
    omega
  · exact List.Subset.trans (List.take_subset _ _) (List.drop_subset _ _)

end Matcher

end RulesText
