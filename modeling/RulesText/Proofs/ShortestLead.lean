import RulesText.Proofs.Ways

/-!
Shortest leads: a pattern that begins with as few characters as possible and goes on with a word.
Such a search stops at the first place from which the rest of the pattern is matched.
-/
namespace RulesText

variable {i : Nat} {s : Spot} {goal : Goal} {gs : Groups}

namespace Spot

/-- The place after a stretch of the text. -/
def past (s : Spot) (taken rest : List Char) : Spot :=
  ⟨taken.getLast?.or s.before, rest, s.offset + taken.length, [], s.groups⟩

/-- A place where the shortest repetition of a character tries to go on. -/
def halt (s : Spot) (loop : Nat) (taken rest : List Char) : Spot :=
  { s.past taken rest with marks := [2 * loop + 1] }

theorem past_past (s : Spot) (xs ys rest rest' : List Char) :
    (s.past xs rest').past ys rest = s.past (xs ++ ys) rest := by
  simp only [past, List.getLast?_append, List.length_append, Nat.add_assoc, Option.or_assoc]

theorem halt_halt (s : Spot) (loop : Nat) (xs ys rest rest' : List Char) :
    (s.halt loop xs rest').halt loop ys rest = s.halt loop (xs ++ ys) rest := by
  simp only [halt, ← past_past s xs ys rest rest']
  rfl

end Spot

namespace Pattern

variable {p : Pattern} {loop fuel : Nat} {greedy : Bool} {set : CharSet} {c : Char}
  {cs taken rest word lead : List Char}

theorem runPlus_char (hs : 2 * loop ∉ s.marks) (hrest : s.rest = c :: rest)
    (hset : set.holds c = true) :
    runPlus (char set).run loop false goal (fuel + 1) s =
      (goal (s.halt loop [c] rest)).orElse fun _ =>
        runPlus (char set).run loop false goal fuel (s.halt loop [c] rest) := by
  have hmark : s.mark (2 * loop) = some { s with marks := 2 * loop :: s.marks } := by
    simp [Spot.mark, hs]
  rw [runPlus, hmark]
  simp only [run, hrest, hset, if_true]
  rfl

theorem of_runPlus_char (h : runPlus (char set).run loop greedy goal fuel s = some gs) :
    2 * loop ∉ s.marks ∧ ∃ c rest, s.rest = c :: rest ∧ set.holds c = true := by
  constructor
  · intro hmem
    rw [runPlus, Spot.mark, if_pos (by simpa using hmem)] at h
    cases h
  · obtain ⟨t, hway, -⟩ := (finds (char set)).runPlus h
    cases hway with
    | last hs hp _ | again hs hp _ _ =>
      cases hp with
      | char hrest hset =>
        obtain rfl := Spot.of_mark hs
        exact ⟨_, _, hrest, hset⟩

/-- What the shortest repetition finds, it finds at the first stop from which the goal is
reached. -/
theorem runPlus_char_eq_some (hfuel : s.rest.length ≤ fuel)
    (h : runPlus (char set).run loop false goal fuel s = some gs) :
    ∃ taken rest, s.rest = taken ++ rest ∧ taken ≠ [] ∧ goal (s.halt loop taken rest) = some gs ∧
      ∀ less rest', s.rest = less ++ rest' → less ≠ [] → less.length < taken.length →
        goal (s.halt loop less rest') = none := by
  induction fuel generalizing s with
  | zero =>
    obtain ⟨-, c, rest, hrest, -⟩ := of_runPlus_char h
    rw [hrest] at hfuel
    cases hfuel
  | succ fuel ih =>
    obtain ⟨hs, c, rest, hrest, hset⟩ := of_runPlus_char h
    rw [runPlus_char hs hrest hset] at h
    rw [hrest, List.length_cons] at hfuel
    -- The goal is reached after this character, or every stop is one of those from there on.
    cases hgoal : goal (s.halt loop [c] rest) with
    | some gs' =>
      rw [hgoal] at h
      obtain rfl := Option.some.inj h
      refine ⟨[c], rest, hrest, List.cons_ne_nil _ _, hgoal, fun less rest' _ hne hlt => ?_⟩
      exact absurd (List.length_eq_zero_iff.mp (Nat.lt_one_iff.mp hlt)) hne
    | none =>
      rw [hgoal] at h
      obtain ⟨taken, rest', htaken, -, hfound, hfirst⟩ :=
        ih (Nat.le_of_succ_le_succ hfuel : (s.halt loop [c] rest).rest.length ≤ fuel) h
      have htaken : rest = taken ++ rest' := htaken
      rw [Spot.halt_halt] at hfound
      refine ⟨c :: taken, rest', by rw [hrest, htaken]; rfl, List.cons_ne_nil _ _, hfound, ?_⟩
      intro less after hless hne hlt
      cases less with
      | nil => exact absurd rfl hne
      | cons d less =>
        obtain ⟨rfl, htail⟩ : c = d ∧ rest = less ++ after := by
          simpa only [hrest, List.cons_append, List.cons.injEq] using hless
        by_cases hnil : less = []
        · subst hnil
          obtain rfl : rest = after := htail
          exact hgoal
        · have hnone := hfirst less after htail hnil (Nat.lt_of_succ_lt_succ hlt)
          rwa [Spot.halt_halt] at hnone

/-- The shortest repetition tries every stop. -/
theorem runPlus_char_eq_none (hs : 2 * loop ∉ s.marks) (hfuel : s.rest.length ≤ fuel)
    (h : runPlus (char set).run loop false goal fuel s = none) (hrest : s.rest = taken ++ rest)
    (hne : taken ≠ []) (hset : ∀ c ∈ taken, set.holds c = true) :
    goal (s.halt loop taken rest) = none := by
  induction fuel generalizing s taken with
  | zero =>
    rw [hrest, List.length_append] at hfuel
    have := List.length_pos_iff.mpr hne
    omega
  | succ fuel ih =>
    cases taken with
    | nil => exact absurd rfl hne
    | cons c taken =>
      obtain ⟨hc, htaken⟩ := List.forall_mem_cons.mp hset
      rw [List.cons_append] at hrest
      rw [runPlus_char hs hrest hc, Option.orElse_eq_or, Option.or_eq_none_iff] at h
      obtain ⟨hgoal, hmore⟩ := h
      by_cases hnil : taken = []
      · subst hnil
        exact hgoal
      · have hmarks : 2 * loop ∉ (s.halt loop [c] (taken ++ rest)).marks := by
          simp only [Spot.halt, List.mem_singleton]
          omega
        rw [hrest, List.length_cons] at hfuel
        have hnone := ih hmarks (Nat.le_of_succ_le_succ hfuel) hmore rfl hnil htaken
        rwa [Spot.halt_halt] at hnone

/-- A word, and then the pattern. -/
def spell (word : List Char) (p : Pattern) : Pattern :=
  word.foldr (fun c q => cat (char (.one c)) q) p

theorem holds_one {d : Char} : (CharSet.one c).holds d = true ↔ d = c := by
  simp only [CharSet.one, CharSet.holds, Bool.and_eq_true, decide_eq_true_iff]
  exact ⟨fun ⟨hle, hge⟩ => Char.le_antisymm hge hle, fun h => h ▸ ⟨Char.le_refl _, Char.le_refl _⟩⟩

theorem run_spell (hrest : s.rest = word ++ rest) (hword : word ≠ []) :
    (spell word p).run goal s = p.run goal (s.past word rest) := by
  induction word generalizing s with
  | nil => exact absurd rfl hword
  | cons c word ih =>
    rw [List.cons_append] at hrest
    have hfirst : (spell (c :: word) p).run goal s =
        (spell word p).run goal (s.past [c] (word ++ rest)) := by
      simp only [spell, List.foldr_cons, run, hrest, holds_one.mpr, if_true]
      rfl
    rw [hfirst]
    by_cases hnil : word = []
    · subst hnil
      rfl
    · rw [ih rfl hnil, Spot.past_past]
      rfl

theorem of_run_spell (h : (spell word p).run goal s = some gs) : ∃ rest, s.rest = word ++ rest := by
  induction word generalizing s with
  | nil => exact ⟨s.rest, rfl⟩
  | cons c word ih =>
    obtain ⟨t, hway, hrun⟩ := finds (char (.one c)) _ _ _ h
    cases hway with
    | char hrest hset =>
      obtain rfl := holds_one.mp hset
      obtain ⟨rest, hword⟩ := ih hrun
      exact ⟨rest, hrest.trans (congrArg _ hword)⟩

/-- From the start of the text, as few characters as possible, noted for a group; then a word, and
then the pattern. -/
def leading (i loop : Nat) (set : CharSet) (word : List Char) (p : Pattern) : Pattern :=
  cat (edge .textStart) (cat (group i (plus loop false (char set))) (spell word p))

/-- The place after the noted lead and the word. -/
def afterLead (i loop : Nat) (lead word rest : List Char) : Spot :=
  ((Spot.halt ⟨none, lead ++ (word ++ rest), 0, [], []⟩ loop lead (word ++ rest)).note i 0).past
    word rest

/-- The end of a match from the start of the text. -/
def wholeMatch : Goal := fun t => some (t.note 0 0).groups

/-- The lead is the shortest after which the rest of the pattern is matched. -/
theorem leading_eq_some (hword : word ≠ []) (hi : i ≠ 0) (hp : p.notes i = false)
    (h : (leading i loop set word p).search cs = some gs) :
    ∃ lead rest, cs = lead ++ (word ++ rest) ∧ lead ≠ [] ∧ gs.get? i = some ⟨0, lead.length⟩ ∧
      p.run wholeMatch (afterLead i loop lead word rest) = some gs ∧
      ∀ less rest', cs = less ++ (word ++ rest') → less ≠ [] → less.length < lead.length →
        p.run wholeMatch (afterLead i loop less word rest') = none := by
  rw [leading, search_textStart] at h
  obtain ⟨lead, after, hcs, hne, hfound, hfirst⟩ := runPlus_char_eq_some (Nat.le_refl _) h
  have hcs : cs = lead ++ after := hcs
  -- The lead stops only where the word stands, for without it there is nothing to go on with.
  obtain ⟨rest, hrest⟩ := of_run_spell hfound
  obtain rfl : after = word ++ rest := hrest
  subst hcs
  rw [run_spell rfl hword] at hfound
  have hrun : p.run wholeMatch (afterLead i loop lead word rest) = some gs := hfound
  refine ⟨lead, rest, rfl, hne, ?_, hrun, fun less rest' hless hne' hlt => ?_⟩
  · obtain ⟨t, hway, ht⟩ := p.finds _ _ _ hrun
    obtain rfl := Option.some.inj ht
    rw [Spot.note, Groups.get?_put, if_neg hi.symm, hway.keeps hp]
    simp [afterLead, Spot.past, Spot.halt, Spot.note, Groups.get?_put]
  · have hnone := hfirst less (word ++ rest') hless hne' hlt
    rw [run_spell rfl hword] at hnone
    rw [afterLead, ← hless]
    exact hnone

/-- Without a match the rest of the pattern is not matched after any lead. -/
theorem leading_eq_none (hword : word ≠ [])
    (h : (leading i loop set word p).search (lead ++ (word ++ rest)) = none) (hne : lead ≠ [])
    (hset : ∀ c ∈ lead, set.holds c = true) :
    p.run wholeMatch (afterLead i loop lead word rest) = none := by
  rw [leading, search_textStart] at h
  have hnone := runPlus_char_eq_none (List.not_mem_nil) (Nat.le_refl _) h rfl hne hset
  rw [run_spell rfl hword] at hnone
  exact hnone

end Pattern

end RulesText
