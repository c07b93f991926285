import Mathlib.Data.List.Basic
import RulesText.Proofs.Lowering

/-!
Stability: what has been lowered stays as it is when it is lowered again, in whatever surroundings.
So a normal text is its own normal form, and of a piece of one only the white space at its ends is
lost.
-/
namespace RulesText.Text

variable {runs : List Run} {r r' : Run} {ranges : Ranges} {n k : Nat}
  {cs before after : List Char} {c d : Char}

theorem Ranges.exists_of_holds (h : ranges.holds n = true) :
    ∃ range ∈ ranges, range.1 ≤ n ∧ n ≤ range.2 := by
  induction ranges with
  | nil => cases h
  | cons range rest ih =>
    obtain ⟨first, last⟩ := range
    rw [Ranges.holds] at h
    split at h
    · cases h
    · split at h
      · exact ⟨_, .head _, by omega, by assumption⟩
      · obtain ⟨range, hmem, hn⟩ := ih h
        exact ⟨range, .tail _ hmem, hn⟩

theorem exists_run_of_shift? (h : shift? runs n = some k) :
    ∃ r ∈ runs, r.covers n = true ∧ r.image n = k := by
  induction runs with
  | nil => cases h
  | cons r rest ih =>
    rw [shift?] at h
    split at h
    · cases h
    · split at h
      · next hcovers => exact ⟨r, .head _, hcovers, Option.some.inj h⟩
      · obtain ⟨r', hr', hn⟩ := ih h
        exact ⟨r', .tail _ hr', hn⟩

namespace Run

/-- No point of the run lies in the range. -/
def avoids (r : Run) (range : Nat × Nat) : Bool :=
  r.last.blt range.1 || range.2.blt r.first

/-- The run sends no point into the range. -/
def imageAvoids (r : Run) (range : Nat × Nat) : Bool :=
  (r.image r.last).blt range.1 || range.2.blt (r.image r.first)

/-- The run sends no point to one that the other run moves: they lie apart, or the one has only odd
and the other only even points there. -/
def clears (r r' : Run) : Bool :=
  r.imageAvoids (r'.first, r'.last) ||
    (r.first == r.last || r.step == 2 && 0 ≤ r.first + r.offset) && r'.step == 2 &&
      r.image r.first % 2 != r'.first % 2

theorem covers_iff :
    r.covers n = true ↔ (r.first ≤ n ∧ n ≤ r.last) ∧ (n - r.first) % r.step = 0 := by
  simp [covers]

theorem avoids_sound (h : r.avoids (n, k) = true) {m : Nat} (hm : r.covers m = true) :
    ¬ (n ≤ m ∧ m ≤ k) := by
  obtain ⟨hbounds, -⟩ := covers_iff.mp hm
  simp only [avoids, Bool.or_eq_true, Nat.blt_eq] at h
  omega

theorem imageAvoids_sound (h : r.imageAvoids (n, k) = true) {m : Nat} (hm : r.covers m = true) :
    ¬ (n ≤ r.image m ∧ r.image m ≤ k) := by
  obtain ⟨hbounds, -⟩ := covers_iff.mp hm
  simp only [imageAvoids, Bool.or_eq_true, Nat.blt_eq] at h
  unfold image at h ⊢
  omega

theorem image_le_last (h : r.covers n = true) : r.image n ≤ r.image r.last := by
  obtain ⟨hbounds, -⟩ := covers_iff.mp h
  unfold image
  omega

theorem clears_sound (h : r.clears r' = true) (hn : r.covers n = true) :
    r'.covers (r.image n) = false := by
  rw [Bool.eq_false_iff]
  intro hn'
  obtain ⟨⟨hfirst, hlast⟩, hstep⟩ := covers_iff.mp hn
  obtain ⟨hbounds', hstep'⟩ := covers_iff.mp hn'
  rw [clears, Bool.or_eq_true] at h
  rcases h with h | h
  · exact imageAvoids_sound h hn hbounds'
  · simp only [Bool.and_eq_true, Bool.or_eq_true, beq_iff_eq, bne_iff_ne, decide_eq_true_iff] at h
    obtain ⟨⟨hfew, htwo⟩, hparity⟩ := h
    rw [htwo] at hstep'
    unfold image at hstep' hbounds' hparity
    rcases hfew with hone | ⟨heven, hpos⟩
    · omega
    · rw [heven] at hstep
      omega

end Run

namespace Case

/-- A character that lowering leaves alone wherever it stands. -/
def IsLow (c : Char) : Prop := c ≠ 'İ' ∧ shift? lowerRuns c.toNat = none

/-- The code points that no character has, between others that have one. -/
def surrogates : Nat × Nat := (0xD800, 0xDFFF)

theorem lowerRuns_clear : (lowerRuns.all fun r => lowerRuns.all r.clears) = true := by
  decide +kernel

/-- The table moves no white space and leads to none, and it leads to characters only. -/
def avoidsBlanks (runs : List Run) : Bool :=
  runs.all fun r => blankRanges.all r.avoids && (surrogates :: blankRanges).all r.imageAvoids &&
    (r.image r.last).blt 0x110000

theorem of_avoidsBlanks (havoids : avoidsBlanks runs = true) (h : shift? runs n = some k) :
    k.isValidChar ∧ blankRanges.holds n = false ∧ blankRanges.holds k = false := by
  obtain ⟨r, hr, hcovers, rfl⟩ := exists_run_of_shift? h
  obtain ⟨⟨hfrom, hto⟩, hend⟩ : ((∀ range ∈ blankRanges, r.avoids range = true) ∧
      ∀ range ∈ surrogates :: blankRanges, r.imageAvoids range = true) ∧
      r.image r.last < 0x110000 := by
    simpa only [Bool.and_eq_true, List.all_eq_true, Nat.blt_eq] using
      List.all_eq_true.mp havoids r hr
  refine ⟨?_, ?_, ?_⟩
  · have hgap := Run.imageAvoids_sound (hto surrogates (.head _)) hcovers
    have hle := Run.image_le_last hcovers
    unfold Nat.isValidChar
    omega
  · rw [Bool.eq_false_iff]
    intro hblank
    obtain ⟨range, hrange, hn⟩ := Ranges.exists_of_holds hblank
    exact Run.avoids_sound (hfrom range hrange) hcovers hn
  · rw [Bool.eq_false_iff]
    intro hblank
    obtain ⟨range, hrange, hk⟩ := Ranges.exists_of_holds hblank
    exact Run.imageAvoids_sound (hto range (.tail _ hrange)) hcovers hk

theorem lowerRuns_avoid : avoidsBlanks lowerRuns = true := by decide +kernel

/-- The table leads to characters that it does not move on, and neither from nor to white space. -/
theorem moved (h : shift? lowerRuns n = some k) :
    k.isValidChar ∧ shift? lowerRuns k = none ∧
      blankRanges.holds n = false ∧ blankRanges.holds k = false := by
  obtain ⟨hvalid, hfrom, hto⟩ := of_avoidsBlanks lowerRuns_avoid h
  refine ⟨hvalid, ?_, hfrom, hto⟩
  obtain ⟨r, hr, hcovers, rfl⟩ := exists_run_of_shift? h
  rw [Option.eq_none_iff_forall_ne_some]
  intro k' hk'
  obtain ⟨r', hr', hcovers', -⟩ := exists_run_of_shift? hk'
  have hclears := List.all_eq_true.mp (List.all_eq_true.mp lowerRuns_clear r hr) r' hr'
  rw [Run.clears_sound hclears hcovers] at hcovers'
  cases hcovers'

theorem toNat_ofNat (h : n.isValidChar) : (Char.ofNat n).toNat = n := by
  rw [Char.ofNat, dif_pos h]
  rfl

/-- Any letter but two is lowered by the table, or it stays. -/
theorem lowerAt_cases (hsigma : c ≠ 'Σ') (hdotted : c ≠ 'İ') :
    (shift? lowerRuns c.toNat = none ∧ lowerAt before c after = [c]) ∨
    ∃ k, shift? lowerRuns c.toNat = some k ∧ lowerAt before c after = [Char.ofNat k] := by
  have hsigma' : (c == 'Σ') = false := by simpa using hsigma
  have hdotted' : (c == 'İ') = false := by simpa using hdotted
  rw [lowerAt, hsigma', hdotted']
  cases hs : shift? lowerRuns c.toNat with
  | none => exact .inl ⟨rfl, by simp [shift, hs]⟩
  | some k => exact .inr ⟨k, rfl, by simp [shift, hs]⟩

theorem IsLow.ne_sigma (h : IsLow c) : c ≠ 'Σ' := by
  rintro rfl
  have hmoved : shift? lowerRuns 'Σ'.toNat ≠ none := by decide +kernel
  exact hmoved h.2

theorem IsLow.lowerAt_eq (h : IsLow c) : lowerAt before c after = [c] := by
  rcases lowerAt_cases h.ne_sigma h.1 with ⟨-, hsame⟩ | ⟨k, hmoved, -⟩
  · exact hsame
  · rw [h.2] at hmoved
    cases hmoved

theorem lowerFrom_eq_self (h : ∀ c ∈ cs, IsLow c) : lowerFrom before cs = cs := by
  induction cs generalizing before with
  | nil => rfl
  | cons c rest ih =>
    obtain ⟨hc, hrest⟩ := List.forall_mem_cons.mp h
    rw [lowerFrom, hc.lowerAt_eq, ih hrest, List.singleton_append]

/-- What comes out of lowering is low, and it is white space only where white space went in. -/
theorem isLow_of_mem_lowerAt (h : d ∈ lowerAt before c after) :
    IsLow d ∧ isBlank d = isBlank c := by
  have hdotted : d ≠ 'İ' := fun hd => dottedI_not_mem_lowerAt (hd ▸ h)
  by_cases hsigma : c = 'Σ'
  · subst hsigma
    have hd : d = 'ς' ∨ d = 'σ' := by
      obtain rfl : d = lowerSigma before after := List.mem_singleton.mp h
      unfold lowerSigma
      split <;> simp
    rcases hd with rfl | rfl <;> exact ⟨⟨hdotted, by decide +kernel⟩, by decide⟩
  · by_cases hI : c = 'İ'
    · subst hI
      have hd : d = 'i' ∨ d = '\u0307' := by simpa [lowerAt] using h
      rcases hd with rfl | rfl <;> exact ⟨⟨hdotted, by decide +kernel⟩, by decide⟩
    · rcases lowerAt_cases hsigma hI with ⟨hnone, hsame⟩ | ⟨k, hmoved, hone⟩
      · rw [hsame, List.mem_singleton] at h
        subst h
        exact ⟨⟨hI, hnone⟩, rfl⟩
      · rw [hone, List.mem_singleton] at h
        subst h
        obtain ⟨hvalid, hsettled, hfrom, hto⟩ := moved hmoved
        have hcode := toNat_ofNat hvalid
        exact ⟨⟨hdotted, by rw [hcode, hsettled]⟩, by rw [isBlank, isBlank, hcode, hfrom, hto]⟩

theorem isLow_of_mem_lowerFrom (h : d ∈ lowerFrom before cs) : IsLow d := by
  induction cs generalizing before with
  | nil => cases h
  | cons c rest ih =>
    rw [lowerFrom, List.mem_append] at h
    exact h.elim (fun hd => (isLow_of_mem_lowerAt hd).1) ih

theorem lowerAt_ne_nil : lowerAt before c after ≠ [] := by
  unfold lowerAt
  split
  · exact List.cons_ne_nil _ _
  · split <;> exact List.cons_ne_nil _ _

theorem lowerFrom_ne_nil (h : cs ≠ []) : lowerFrom before cs ≠ [] := by
  cases cs with
  | nil => exact absurd rfl h
  | cons c rest =>
    rw [lowerFrom]
    exact List.append_ne_nil_of_left_ne_nil lowerAt_ne_nil _

end Case

/-- Neither the first nor the last character is white space. -/
structure IsTrimmed (cs : List Char) : Prop where
  head : ∀ c, cs.head? = some c → isBlank c = false
  last : ∀ c, cs.getLast? = some c → isBlank c = false

theorem IsTrimmed.trimChars_eq (h : IsTrimmed cs) : trimChars cs = cs := by
  have hfront : ∀ {xs : List Char}, (∀ c, xs.head? = some c → isBlank c = false) →
      xs.dropWhile isBlank = xs := by
    intro xs hxs
    cases xs with
    | nil => rfl
    | cons c rest => rw [List.dropWhile_cons_of_neg (by simp [hxs c rfl])]
  rw [trimChars, hfront h.head, trimEndChars, dropEnd, hfront, List.reverse_reverse]
  intro c hc
  rw [List.head?_reverse] at hc
  exact h.last c hc

theorem isPrefix_trimEndChars (cs : List Char) : trimEndChars cs <+: cs := by
  rw [trimEndChars, dropEnd, ← List.reverse_suffix, List.reverse_reverse]
  exact List.dropWhile_suffix _

theorem isInfix_trimChars (cs : List Char) : trimChars cs <:+: cs :=
  (isPrefix_trimEndChars _).isInfix.trans (List.dropWhile_suffix _).isInfix

theorem isTrimmed_trimChars (cs : List Char) : IsTrimmed (trimChars cs) := by
  have hfirst : ∀ (xs : List Char) (c : Char), (xs.dropWhile isBlank).head? = some c →
      isBlank c = false := by
    intro xs c hc
    have hnot := List.head?_dropWhile_not isBlank xs
    rw [hc] at hnot
    simpa using hnot
  constructor
  · intro c hc
    obtain ⟨rest, hrest⟩ := isPrefix_trimEndChars (cs.dropWhile isBlank)
    apply hfirst cs
    rw [← hrest, List.head?_append]
    change (trimChars cs).head?.or rest.head? = some c
    rw [hc]
    rfl
  · intro c hc
    rw [trimChars, trimEndChars, dropEnd, List.getLast?_reverse] at hc
    exact hfirst _ c hc

/-- Trimming cuts off nothing but white space. -/
theorem exists_trimChars (cs : List Char) :
    ∃ front back, cs = front ++ trimChars cs ++ back ∧ (∀ c ∈ front, isBlank c = true) ∧
      ∀ c ∈ back, isBlank c = true := by
  have hend : ∀ xs : List Char,
      xs = trimEndChars xs ++ (xs.reverse.takeWhile isBlank).reverse := by
    intro xs
    rw [trimEndChars, dropEnd, ← List.reverse_append, List.takeWhile_append_dropWhile,
      List.reverse_reverse]
  refine ⟨cs.takeWhile isBlank, ((cs.dropWhile isBlank).reverse.takeWhile isBlank).reverse, ?_,
    ?_, ?_⟩
  · rw [List.append_assoc, trimChars, ← hend, List.takeWhile_append_dropWhile]
  · intro c hc
    exact List.all_eq_true.mp List.all_takeWhile c hc
  · intro c hc
    exact List.all_eq_true.mp List.all_takeWhile c (List.mem_reverse.mp hc)

/-- Lowering keeps a text trimmed. -/
theorem IsTrimmed.lowerFrom (h : IsTrimmed cs) : IsTrimmed (Case.lowerFrom before cs) := by
  constructor
  · intro d hd
    cases cs with
    | nil => cases hd
    | cons c rest =>
      rw [Case.lowerFrom, List.head?_append_of_ne_nil _ Case.lowerAt_ne_nil] at hd
      rw [(Case.isLow_of_mem_lowerAt (List.mem_of_head? hd)).2]
      exact h.head c rfl
  · replace h := h.last
    intro d hd
    induction cs generalizing before with
    | nil => cases hd
    | cons c rest ih =>
      rw [Case.lowerFrom] at hd
      by_cases hrest : rest = []
      · subst hrest
        rw [Case.lowerFrom, List.append_nil] at hd
        rw [(Case.isLow_of_mem_lowerAt (List.mem_of_getLast? hd)).2]
        exact h c rfl
      · rw [List.getLast?_append_of_ne_nil _ (Case.lowerFrom_ne_nil hrest)] at hd
        refine ih (fun e he => h e ?_) hd
        rw [List.getLast?_cons_of_ne_nil hrest, he]

/-- A list of low characters is brought into normal form by trimming it. -/
theorem normalChars_eq_trimChars (h : ∀ c ∈ cs, Case.IsLow c) : normalChars cs = trimChars cs := by
  rw [normalChars, Case.lower]
  exact Case.lowerFrom_eq_self fun c hc => h c ((trimChars_sublist cs).subset hc)

theorem isLow_of_mem_normalChars (h : c ∈ normalChars cs) : Case.IsLow c :=
  Case.isLow_of_mem_lowerFrom h

theorem isTrimmed_normalChars (cs : List Char) : IsTrimmed (normalChars cs) :=
  (isTrimmed_trimChars cs).lowerFrom

theorem normalChars_normalChars (cs : List Char) :
    normalChars (normalChars cs) = normalChars cs := by
  rw [normalChars_eq_trimChars fun c => isLow_of_mem_normalChars]
  exact (isTrimmed_normalChars cs).trimChars_eq

theorem toList_normalize (s : String) : (normalize s).toList = normalChars s.toList := by
  rw [normalize, String.toList_ofList]

theorem toList_trim (s : String) : (trim s).toList = trimChars s.toList := by
  rw [trim, String.toList_ofList]

theorem normalize_normalize (s : String) : normalize (normalize s) = normalize s := by
  rw [normalize, toList_normalize, normalChars_normalChars]
  rfl

variable {s fragment : String}

/-- Of a piece of a normal text only the white space at its ends is lost. -/
theorem normalize_of_isInfix (h : fragment.toList <:+: (normalize s).toList) :
    normalize fragment = trim fragment := by
  rw [normalize, normalChars_eq_trimChars, trim]
  intro c hc
  have hmem := h.subset hc
  rw [toList_normalize] at hmem
  exact isLow_of_mem_normalChars hmem

theorem isInfix_normalize (h : fragment.toList <:+: (normalize s).toList) :
    (normalize fragment).toList <:+: (normalize s).toList := by
  rw [normalize_of_isInfix h, toList_trim]
  exact (isInfix_trimChars _).trans h

/-- A normal text is its own normal form. A piece of one is brought into normal form by cutting the
white space off its ends, so it gets no longer. -/
theorem normalize_stable (s : String) :
    normalize (normalize s) = normalize s ∧
    ∀ fragment : String, fragment.toList <:+: (normalize s).toList →
      normalize fragment = trim fragment ∧
      (∃ front back, fragment.toList = front ++ (normalize fragment).toList ++ back ∧
        (∀ c ∈ front, isBlank c = true) ∧ ∀ c ∈ back, isBlank c = true) ∧
      IsTrimmed (normalize fragment).toList ∧
      (normalize fragment).length ≤ fragment.length := by
  refine ⟨normalize_normalize s, fun fragment hpiece => ?_⟩
  have htrim := normalize_of_isInfix hpiece
  refine ⟨htrim, ?_, ?_, ?_⟩
  · rw [htrim, toList_trim]
    exact exists_trimChars fragment.toList
  · rw [htrim, toList_trim]
    exact isTrimmed_trimChars fragment.toList
  · apply length_normalize_le
    intro hdotted
    exact dottedI_not_mem_normalize s (hpiece.subset hdotted)

/-- The piece begins with a final sigma that no longer ends a word, and loses the blank behind
it. -/
theorem normalize_stable_sigma :
    let s := " İΣ Σ"
    let fragment := "ς "
    fragment.toList <:+: (normalize s).toList ∧ normalize fragment = "ς" ∧
      normalize fragment = trim fragment := by
  intro s fragment
  have hpiece : fragment.toList <:+: (normalize s).toList := by decide +kernel
  exact ⟨hpiece, by decide +kernel, ((normalize_stable s).2 fragment hpiece).1⟩

end RulesText.Text
