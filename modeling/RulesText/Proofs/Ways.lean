import RulesText.Pattern.Matcher
import RulesText.Proofs.Entries

/-!
Ways: where a match can lead. A search weighs many ways through a pattern, but what it finds stands
at the end of one of them, so what holds of every way holds of every match. And where it finds
nothing, no way leads to the goal.
-/
namespace RulesText

variable {i m : Nat} {s t : Spot} {goal : Goal} {gs : Groups}

theorem Groups.get?_put {j : Nat} {span : Span} :
    (gs.put j span).get? i = if j = i then some span else gs.get? i :=
  lookup_set span gs

theorem Spot.of_mark (h : s.mark m = some t) : t = { s with marks := m :: s.marks } := by
  unfold Spot.mark at h
  split at h
  · cases h
  · exact (Option.some.inj h).symm

theorem Spot.not_mem_of_mark (h : s.mark m = some t) : m ∉ s.marks := by
  unfold Spot.mark at h
  split at h
  · cases h
  · next hnot => simpa using hnot

namespace Pattern

/-- There is a way through the pattern from one place to another. -/
inductive Leads : Pattern → Spot → Spot → Prop where
  | empty {s : Spot} : Leads .empty s s
  | char {set : CharSet} {s : Spot} {c : Char} {rest : List Char} (hrest : s.rest = c :: rest)
    (hset : set.holds c = true) : Leads (.char set) s (s.step c rest)
  | edge {e : Edge} {s : Spot} (he : e.holds s.before s.rest.head? = true) : Leads (.edge e) s s
  | cat {p q : Pattern} {s t u : Spot} (hp : Leads p s t) (hq : Leads q t u) : Leads (.cat p q) s u
  | left {p q : Pattern} {s t : Spot} (hp : Leads p s t) : Leads (.alt p q) s t
  | right {p q : Pattern} {s t : Spot} (hq : Leads q s t) : Leads (.alt p q) s t
  | group {i : Nat} {p : Pattern} {s t : Spot} (hp : Leads p s t) :
    Leads (.group i p) s (t.note i s.offset)
  | skip {g : Bool} {p : Pattern} {s : Spot} : Leads (.opt g p) s s
  | take {g : Bool} {p : Pattern} {s t : Spot} (hp : Leads p s t) : Leads (.opt g p) s t
  | done {n : Nat} {g : Bool} {p : Pattern} {s t : Spot} (hs : s.mark (2 * n) = some t) :
    Leads (.star n g p) s t
  | more {n : Nat} {g : Bool} {p : Pattern} {s t u v : Spot} (hs : s.mark (2 * n) = some t)
    (hp : Leads p t u) (hmore : Leads (.star n g p) u v) : Leads (.star n g p) s v
  | last {n : Nat} {g : Bool} {p : Pattern} {s t u v : Spot} (hs : s.mark (2 * n) = some t)
    (hp : Leads p t u) (hu : u.mark (2 * n + 1) = some v) : Leads (.plus n g p) s v
  | again {n : Nat} {g : Bool} {p : Pattern} {s t u v w : Spot} (hs : s.mark (2 * n) = some t)
    (hp : Leads p t u) (hu : u.mark (2 * n + 1) = some v) (hmore : Leads (.plus n g p) v w) :
    Leads (.plus n g p) s w
  | joint {m : Nat} {p : Pattern} {s t u : Spot} (hp : Leads p s t) (ht : t.mark (2 * m) = some u) :
    Leads (.joint m p) s u

variable {p q : Pattern} {loop fuel : Nat} {greedy : Bool}

theorem orElse_eq_some {o : Option Groups} {next : Unit → Option Groups}
    (h : o.orElse next = some gs) : o = some gs ∨ next () = some gs := by
  rw [Option.orElse_eq_or, Option.or_eq_some_iff] at h
  exact h.imp_right And.right

theorem prefer_eq_some {more enough : Unit → Option Groups}
    (h : prefer greedy more enough = some gs) : more () = some gs ∨ enough () = some gs := by
  unfold prefer at h
  split at h
  · exact orElse_eq_some h
  · exact (orElse_eq_some h).symm

theorem prefer_eq_none {more enough : Unit → Option Groups}
    (h : prefer greedy more enough = none) : more () = none ∧ enough () = none := by
  unfold prefer at h
  split at h
  · rwa [Option.orElse_eq_or, Option.or_eq_none_iff] at h
  · rw [Option.orElse_eq_or, Option.or_eq_none_iff] at h
    exact h.symm

/-- What the pattern finds, it finds at the end of a way. -/
def Finds (p : Pattern) : Prop :=
  ∀ goal s gs, p.run goal s = some gs → ∃ t, p.Leads s t ∧ goal t = some gs

theorem Finds.runStar (hp : p.Finds) (h : runStar p.run loop greedy goal fuel s = some gs) :
    ∃ t, (star loop greedy p).Leads s t ∧ goal t = some gs := by
  induction fuel generalizing s with
  | zero =>
    rw [Pattern.runStar] at h
    split at h
    · cases h
    · next t hs => exact ⟨t, .done hs, h⟩
  | succ fuel ih =>
    rw [Pattern.runStar] at h
    split at h
    · cases h
    · next t hs =>
      rcases prefer_eq_some h with hmore | henough
      · obtain ⟨u, hu, hmore⟩ := hp _ _ _ hmore
        obtain ⟨v, hv, hgoal⟩ := ih hmore
        exact ⟨v, .more hs hu hv, hgoal⟩
      · exact ⟨t, .done hs, henough⟩

theorem Finds.runPlus (hp : p.Finds) (h : runPlus p.run loop greedy goal fuel s = some gs) :
    ∃ t, (plus loop greedy p).Leads s t ∧ goal t = some gs := by
  induction fuel generalizing s with
  | zero =>
    rw [Pattern.runPlus] at h
    split at h
    · cases h
    · next t hs =>
      obtain ⟨u, hu, h⟩ := hp _ _ _ h
      split at h
      · cases h
      · next v hv => exact ⟨v, .last hs hu hv, h⟩
  | succ fuel ih =>
    rw [Pattern.runPlus] at h
    split at h
    · cases h
    · next t hs =>
      obtain ⟨u, hu, h⟩ := hp _ _ _ h
      split at h
      · cases h
      · next v hv =>
        rcases prefer_eq_some h with hmore | henough
        · obtain ⟨w, hw, hgoal⟩ := ih hmore
          exact ⟨w, .again hs hu hv hw, hgoal⟩
        · exact ⟨v, .last hs hu hv, henough⟩

theorem finds (p : Pattern) : p.Finds := by
  induction p with
  | empty => exact fun goal s gs h => ⟨s, .empty, h⟩
  | char set =>
    intro goal s gs h
    rw [run] at h
    split at h
    · cases h
    · next c rest hrest =>
      split at h
      · next hset => exact ⟨_, .char hrest hset, h⟩
      · cases h
  | edge e =>
    intro goal s gs h
    rw [run] at h
    split at h
    · next he => exact ⟨s, .edge he, h⟩
    · cases h
  | cat p q ihp ihq =>
    intro goal s gs h
    obtain ⟨t, hp, h⟩ := ihp _ _ _ h
    obtain ⟨u, hq, hgoal⟩ := ihq _ _ _ h
    exact ⟨u, .cat hp hq, hgoal⟩
  | alt p q ihp ihq =>
    intro goal s gs h
    rcases orElse_eq_some h with h | h
    · obtain ⟨t, hp, hgoal⟩ := ihp _ _ _ h
      exact ⟨t, .left hp, hgoal⟩
    · obtain ⟨t, hq, hgoal⟩ := ihq _ _ _ h
      exact ⟨t, .right hq, hgoal⟩
  | group j p ih =>
    intro goal s gs h
    obtain ⟨t, hp, hgoal⟩ := ih _ _ _ h
    exact ⟨_, .group hp, hgoal⟩
  | opt greedy p ih =>
    intro goal s gs h
    rcases prefer_eq_some h with h | h
    · obtain ⟨t, hp, hgoal⟩ := ih _ _ _ h
      exact ⟨t, .take hp, hgoal⟩
    · exact ⟨s, .skip, h⟩
  | star loop greedy p ih => exact fun goal s gs h => ih.runStar h
  | plus loop greedy p ih => exact fun goal s gs h => ih.runPlus h
  | joint m p ih =>
    intro goal s gs h
    obtain ⟨t, hp, h⟩ := ih _ _ _ h
    obtain ⟨u, ht, hgoal⟩ := Option.bind_eq_some_iff.mp h
    exact ⟨u, .joint hp ht, hgoal⟩

/-- Whether a way through the pattern may step over the character. -/
def takes (c : Char) : Pattern → Bool
  | empty | edge _ => false
  | char set => set.holds c
  | cat p q | alt p q => p.takes c || q.takes c
  | group _ p | opt _ p | star _ _ p | plus _ _ p | joint _ p => p.takes c

/-- Whether the pattern notes a stretch for the group. -/
def notes (i : Nat) : Pattern → Bool
  | empty | edge _ | char _ => false
  | cat p q | alt p q => p.notes i || q.notes i
  | group j p => j == i || p.notes i
  | opt _ p | star _ _ p | plus _ _ p | joint _ p => p.notes i

/-- Whether the pattern ends by asking for the end of the text. -/
def endsText : Pattern → Bool
  | edge e => e == .textEnd
  | cat _ q => q.endsText
  | empty | char _ | alt .. | group .. | opt .. | star .. | plus .. | joint .. => false

namespace Leads

/-- A way steps over a stretch of the text, made of characters that the pattern takes. -/
theorem steps (h : p.Leads s t) :
    ∃ taken, s.rest = taken ++ t.rest ∧ ∀ c ∈ taken, p.takes c = true := by
  induction h with
  | empty | edge | skip => exact ⟨[], rfl, fun c hc => nomatch hc⟩
  | @char s set c rest hrest hset => exact ⟨[c], hrest, by simpa [takes] using hset⟩
  | cat hp hq ihp ihq =>
    obtain ⟨taken, hs, htaken⟩ := ihp
    obtain ⟨taken', ht, htaken'⟩ := ihq
    refine ⟨taken ++ taken', by rw [hs, ht, List.append_assoc], fun c hc => ?_⟩
    rw [takes, Bool.or_eq_true]
    exact (List.mem_append.mp hc).imp (htaken c) (htaken' c)
  | left hp ih =>
    obtain ⟨taken, hs, htaken⟩ := ih
    exact ⟨taken, hs, fun c hc => by rw [takes, htaken c hc, Bool.true_or]⟩
  | right hq ih =>
    obtain ⟨taken, hs, htaken⟩ := ih
    exact ⟨taken, hs, fun c hc => by rw [takes, htaken c hc, Bool.or_true]⟩
  | group hp ih | take hp ih => exact ih
  | done hs =>
    obtain rfl := Spot.of_mark hs
    exact ⟨[], rfl, fun c hc => nomatch hc⟩
  | more hs hp hmore ihp ih =>
    obtain rfl := Spot.of_mark hs
    obtain ⟨taken, hs, htaken⟩ := ihp
    obtain ⟨taken', ht, htaken'⟩ := ih
    refine ⟨taken ++ taken', by rw [List.append_assoc, ← ht]; exact hs, fun c hc => ?_⟩
    exact (List.mem_append.mp hc).elim (htaken c) (htaken' c)
  | last hs hp hu ih =>
    obtain rfl := Spot.of_mark hs
    obtain rfl := Spot.of_mark hu
    exact ih
  | again hs hp hu hmore ihp ih =>
    obtain rfl := Spot.of_mark hs
    obtain rfl := Spot.of_mark hu
    obtain ⟨taken, hs, htaken⟩ := ihp
    obtain ⟨taken', ht, htaken'⟩ := ih
    refine ⟨taken ++ taken', by rw [List.append_assoc, ← ht]; exact hs, fun c hc => ?_⟩
    exact (List.mem_append.mp hc).elim (htaken c) (htaken' c)
  | joint hp ht ih =>
    obtain rfl := Spot.of_mark ht
    exact ih

/-- A way leaves alone what it does not note. -/
theorem keeps (h : p.Leads s t) (hp : p.notes i = false) :
    t.groups.get? i = s.groups.get? i := by
  induction h with
  | empty | edge | skip | char => rfl
  | cat _ _ ihp ihq =>
    obtain ⟨hp, hq⟩ := Bool.or_eq_false_iff.mp hp
    exact (ihq hq).trans (ihp hp)
  | left _ ih => exact ih (Bool.or_eq_false_iff.mp hp).1
  | right _ ih => exact ih (Bool.or_eq_false_iff.mp hp).2
  | group _ ih =>
    obtain ⟨hj, hp⟩ := Bool.or_eq_false_iff.mp hp
    rw [Spot.note, Groups.get?_put, if_neg (by simpa using hj)]
    exact ih hp
  | take _ ih => exact ih hp
  | done hs =>
    obtain rfl := Spot.of_mark hs
    rfl
  | more hs _ _ ihp ih =>
    obtain rfl := Spot.of_mark hs
    exact (ih hp).trans (ihp hp)
  | last hs _ hu ih =>
    obtain rfl := Spot.of_mark hs
    obtain rfl := Spot.of_mark hu
    exact ih hp
  | again hs _ hu _ ihp ih =>
    obtain rfl := Spot.of_mark hs
    obtain rfl := Spot.of_mark hu
    exact (ih hp).trans (ihp hp)
  | joint _ ht ih =>
    obtain rfl := Spot.of_mark ht
    exact ih hp

theorem rest_eq_nil (h : p.Leads s t) (hp : p.endsText = true) : t.rest = [] := by
  induction h with
  | edge he =>
    obtain rfl := beq_iff_eq.mp hp
    simpa [Edge.holds] using he
  | cat _ _ _ ih => exact ih hp
  | _ => cases hp

theorem length_le (h : p.Leads s t) : t.rest.length ≤ s.rest.length := by
  obtain ⟨taken, hs, -⟩ := h.steps
  rw [hs, List.length_append]
  exact Nat.le_add_left _ _

/-- A mark lasts until a character is taken. -/
theorem keeps_mark (h : p.Leads s t) (hm : m ∈ s.marks) :
    m ∈ t.marks ∨ t.rest.length < s.rest.length := by
  induction h with
  | empty | edge | skip => exact .inl hm
  | char hrest hset =>
    rw [hrest]
    exact .inr (Nat.lt_succ_self _)
  | cat hp hq ihp ihq =>
    rcases ihp hm with hm | hlt
    · exact (ihq hm).imp_right (Nat.lt_of_lt_of_le · hp.length_le)
    · exact .inr (Nat.lt_of_le_of_lt hq.length_le hlt)
  | left _ ih | right _ ih | take _ ih | group _ ih => exact ih hm
  | done hs =>
    obtain rfl := Spot.of_mark hs
    exact .inl (.tail _ hm)
  | more hs hp hmore ihp ih =>
    obtain rfl := Spot.of_mark hs
    rcases ihp (.tail _ hm) with hm | hlt
    · exact (ih hm).imp_right (Nat.lt_of_lt_of_le · hp.length_le)
    · exact .inr (Nat.lt_of_le_of_lt hmore.length_le hlt)
  | last hs hp hu ih =>
    obtain rfl := Spot.of_mark hs
    obtain rfl := Spot.of_mark hu
    exact (ih (.tail _ hm)).imp_left (.tail _)
  | again hs hp hu hmore ihp ih =>
    obtain rfl := Spot.of_mark hs
    obtain rfl := Spot.of_mark hu
    rcases ihp (.tail _ hm) with hm | hlt
    · exact (ih (.tail _ hm)).imp_right (Nat.lt_of_lt_of_le · hp.length_le)
    · exact .inr (Nat.lt_of_le_of_lt hmore.length_le hlt)
  | joint hp ht ih =>
    obtain rfl := Spot.of_mark ht
    exact (ih hm).imp_left (.tail _)

variable {u v w : Spot}

/-- A round of a repetition that goes on has taken a character. -/
theorem round_star (hs : s.mark (2 * loop) = some t) (hp : p.Leads t u)
    (hmore : (star loop greedy p).Leads u v) : u.rest.length < s.rest.length := by
  have hu : 2 * loop ∉ u.marks := by
    cases hmore with
    | done hu | more hu _ _ => exact Spot.not_mem_of_mark hu
  obtain rfl := Spot.of_mark hs
  exact (hp.keeps_mark (.head _)).resolve_left hu

theorem round_plus (hs : s.mark (2 * loop) = some t) (hp : p.Leads t u)
    (hu : u.mark (2 * loop + 1) = some v) (hmore : (plus loop greedy p).Leads v w) :
    v.rest.length < s.rest.length := by
  have hv : 2 * loop ∉ v.marks := by
    cases hmore with
    | last hv _ _ | again hv _ _ _ => exact Spot.not_mem_of_mark hv
  obtain rfl := Spot.of_mark hs
  obtain rfl := Spot.of_mark hu
  exact (hp.keeps_mark (.head _)).resolve_left fun hmem => hv (.tail _ hmem)

end Leads

/-- Where nothing is found, no way leads to the goal. -/
def Exhausts (p : Pattern) : Prop :=
  ∀ goal s t, p.run goal s = none → p.Leads s t → goal t = none

theorem Exhausts.runStar (hp : p.Exhausts) (hfuel : s.rest.length ≤ fuel)
    (h : runStar p.run loop greedy goal fuel s = none) (hway : (star loop greedy p).Leads s t) :
    goal t = none := by
  induction fuel generalizing s with
  | zero =>
    cases hway with
    | done hs => rwa [Pattern.runStar, hs] at h
    | more hs hbody hmore =>
      have hlt := Leads.round_star hs hbody hmore
      omega
  | succ fuel ih =>
    cases hway with
    | done hs =>
      rw [Pattern.runStar, hs] at h
      exact (prefer_eq_none h).2
    | more hs hbody hmore =>
      rw [Pattern.runStar, hs] at h
      have hlt := Leads.round_star hs hbody hmore
      exact ih (by omega) (hp _ _ _ (prefer_eq_none h).1 hbody) hmore

theorem Exhausts.runPlus (hp : p.Exhausts) (hfuel : s.rest.length ≤ fuel)
    (h : runPlus p.run loop greedy goal fuel s = none) (hway : (plus loop greedy p).Leads s t) :
    goal t = none := by
  induction fuel generalizing s with
  | zero =>
    cases hway with
    | last hs hbody hu =>
      rw [Pattern.runPlus, hs] at h
      have hgoal := hp _ _ _ h hbody
      rwa [hu] at hgoal
    | again hs hbody hu hmore =>
      have hlt := Leads.round_plus hs hbody hu hmore
      omega
  | succ fuel ih =>
    cases hway with
    | last hs hbody hu =>
      rw [Pattern.runPlus, hs] at h
      have hgoal := hp _ _ _ h hbody
      rw [hu] at hgoal
      exact (prefer_eq_none hgoal).2
    | again hs hbody hu hmore =>
      rw [Pattern.runPlus, hs] at h
      have hgoal := hp _ _ _ h hbody
      rw [hu] at hgoal
      have hlt := Leads.round_plus hs hbody hu hmore
      exact ih (by omega) (prefer_eq_none hgoal).1 hmore

theorem exhausts (p : Pattern) : p.Exhausts := by
  induction p with
  | empty =>
    intro goal s t h hway
    cases hway
    exact h
  | char set =>
    intro goal s t h hway
    cases hway with
    | char hrest hset => simpa only [run, hrest, hset, if_true] using h
  | edge e =>
    intro goal s t h hway
    cases hway with
    | edge he => simpa only [run, he, if_true] using h
  | cat p q ihp ihq =>
    intro goal s t h hway
    cases hway with
    | cat hp hq => exact ihq _ _ _ (ihp _ _ _ h hp) hq
  | alt p q ihp ihq =>
    intro goal s t h hway
    rw [run, Option.orElse_eq_or, Option.or_eq_none_iff] at h
    cases hway with
    | left hp => exact ihp _ _ _ h.1 hp
    | right hq => exact ihq _ _ _ h.2 hq
  | group i p ih =>
    intro goal s t h hway
    cases hway with
    | group hp => exact ih (fun u => goal (u.note i s.offset)) _ _ h hp
  | opt greedy p ih =>
    intro goal s t h hway
    cases hway with
    | skip => exact (prefer_eq_none h).2
    | take hp => exact ih _ _ _ (prefer_eq_none h).1 hp
  | star loop greedy p ih => exact fun goal s t h hway => ih.runStar (Nat.le_refl _) h hway
  | plus loop greedy p ih => exact fun goal s t h hway => ih.runPlus (Nat.le_refl _) h hway
  | joint m p ih =>
    intro goal s t h hway
    cases hway with
    | joint hp ht =>
      have hgoal := ih _ _ _ h hp
      rwa [ht] at hgoal

/-- A pattern is matched at a place exactly if there is a way through it from there. -/
theorem matchAt_isSome_iff {before : Option Char} {rest : List Char} {offset : Nat} :
    (p.matchAt before rest offset).isSome = true ↔
      ∃ t, p.Leads ⟨before, rest, offset, [], []⟩ t := by
  constructor
  · intro h
    obtain ⟨gs, hgs⟩ := Option.isSome_iff_exists.mp h
    obtain ⟨t, hway, -⟩ := p.finds _ _ _ hgs
    exact ⟨t, hway⟩
  · rintro ⟨t, hway⟩
    rw [Option.isSome_iff_ne_none]
    intro h
    cases p.exhausts _ _ _ h hway

/-- Whether the pattern begins by asking for the start of the text. -/
def startsText : Pattern → Bool
  | cat p _ => p == edge .textStart
  | empty | edge _ | char _ | alt .. | group .. | opt .. | star .. | plus .. | joint .. => false

variable {cs : List Char}

theorem searchFrom_textStart (c : Char) (offset : Nat) :
    (cat (edge .textStart) q).searchFrom (some c) offset cs = none := by
  have hnone : ∀ c rest offset, (cat (edge .textStart) q).matchAt (some c) rest offset = none :=
    fun _ _ _ => rfl
  induction cs generalizing c offset with
  | nil => exact hnone c [] offset
  | cons d rest ih =>
    rw [searchFrom, hnone]
    exact ih d (offset + 1)

/-- A pattern for the start of the text is matched there or nowhere. -/
theorem search_textStart : (cat (edge .textStart) q).search cs = q.matchAt none cs 0 := by
  cases cs with
  | nil => rfl
  | cons c rest =>
    have hfirst : (cat (edge .textStart) q).matchAt none (c :: rest) 0 =
        q.matchAt none (c :: rest) 0 := rfl
    rw [search, searchFrom, searchFrom_textStart, hfirst, Option.orElse_eq_or, Option.or_none]

/-- A pattern for the whole text has to take every character of it. -/
theorem takes_of_search (hs : p.startsText = true) (he : p.endsText = true)
    (h : p.search cs = some gs) : ∀ c ∈ cs, p.takes c = true := by
  cases p with
  | cat p q =>
    obtain rfl := beq_iff_eq.mp hs
    rw [search_textStart] at h
    obtain ⟨t, hway, -⟩ := q.finds _ _ _ h
    obtain ⟨taken, hrest, htaken⟩ := hway.steps
    rw [hway.rest_eq_nil he, List.append_nil] at hrest
    intro c hc
    rw [takes, takes, Bool.false_or]
    exact htaken c (hrest ▸ hc)
  | _ => cases hs

end Pattern

end RulesText
