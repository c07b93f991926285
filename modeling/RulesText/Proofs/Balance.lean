import Mathlib.Order.Nat
import RulesText.Proofs.Nesting

/-!
The ends of branches on any lines, framed or not. The scan for an end keeps the balance of openings
and ends of one tag, and stops where the balance first comes down to zero. So the end of a branch is
told by two counts, no two branches have the same end, and branches of one tag are nested.
-/
namespace RulesText

variable {ls : List Line} {tag : String} {i j k m depth n : Nat}

instance : Decidable (Opens ls i) := decidable_of_iff _ opens_iff.symm

/-- A branch of the tag opens at the index. -/
def OpensTag (ls : List Line) (tag : String) (k : Nat) : Prop :=
  Opens ls k ∧ ls[k]?.map Line.tag = some tag

/-- An end marker of the tag stands at the index. -/
def EndsTag (ls : List Line) (tag : String) (k : Nat) : Prop :=
  ls[k]?.any (·.isEnd) = true ∧ ls[k]?.map Line.tag = some tag

instance : Decidable (OpensTag ls tag k) := inferInstanceAs (Decidable (_ ∧ _))

instance : Decidable (EndsTag ls tag k) := inferInstanceAs (Decidable (_ ∧ _))

/-- How many of the indices from `i` on and before `j` satisfy `p`. -/
def tally (p : Nat → Prop) [DecidablePred p] (i j : Nat) : Nat :=
  (List.range' i (j - i)).countP (p ·)

/-- The branches of the tag that open from `i` up to and including `j`. -/
def openings (ls : List Line) (tag : String) (i j : Nat) : Nat := tally (OpensTag ls tag) i (j + 1)

/-- The ends of the tag from `i` up to and including `j`. -/
def endings (ls : List Line) (tag : String) (i j : Nat) : Nat := tally (EndsTag ls tag) i (j + 1)

/-- The scan for an end with a counter that cannot go below zero: it gives up where it would have
to. -/
def scanChecked (tag : String) : Nat → List Line → Option (Option Nat)
  | _, [] => some none
  | depth, l :: rest =>
    if l.tag != tag then (scanChecked tag depth rest).map (·.map (· + 1))
    else if startsBranch (l :: rest) then (scanChecked tag (depth + 1) rest).map (·.map (· + 1))
    else if l.isEnd then
      if depth = 0 then none
      else if depth = 1 then some (some 0)
      else (scanChecked tag (depth - 1) rest).map (·.map (· + 1))
    else (scanChecked tag depth rest).map (·.map (· + 1))

section Tally

variable {p : Nat → Prop} [DecidablePred p]

theorem tally_append (him : i ≤ m) (hmj : m ≤ j) : tally p i j = tally p i m + tally p m j := by
  have hsplit : List.range' i (j - i) = List.range' i (m - i) ++ List.range' m (j - m) := by
    have happend := @List.range'_append i (m - i) (j - m) 1
    rw [Nat.one_mul, Nat.add_sub_cancel' him] at happend
    rw [happend]
    congr 1
    omega
  rw [tally, hsplit, List.countP_append]
  rfl

theorem tally_one : tally p i (i + 1) = if p i then 1 else 0 := by
  rw [tally, Nat.add_sub_cancel_left]
  simp [List.countP_cons]

end Tally

/-- The balance of openings and ends of the tag from `i` on and before `j`. -/
def balance (ls : List Line) (tag : String) (i j : Nat) : Int :=
  tally (OpensTag ls tag) i j - tally (EndsTag ls tag) i j

theorem balance_append (ls : List Line) (tag : String) (him : i ≤ m) (hmj : m ≤ j) :
    balance ls tag i j = balance ls tag i m + balance ls tag m j := by
  have hopens := tally_append (p := OpensTag ls tag) him hmj
  have hends := tally_append (p := EndsTag ls tag) him hmj
  unfold balance
  omega

theorem balance_eq_zero_iff :
    balance ls tag i (j + 1) = 0 ↔ openings ls tag i j = endings ls tag i j := by
  unfold balance openings endings
  omega

theorem not_endsTag_of_opensTag (h : OpensTag ls tag k) : ¬ EndsTag ls tag k := by
  obtain ⟨⟨l, next, hl, -, hnode, -⟩, -⟩ := h
  rintro ⟨hend, -⟩
  rw [hl, Option.any_some, Line.isEnd, Line.marker?] at hend
  rw [Line.symbol?] at hnode
  split at hnode <;> simp_all

theorem balance_one : balance ls tag k (k + 1) =
    if OpensTag ls tag k then 1 else if EndsTag ls tag k then -1 else 0 := by
  rw [balance, tally_one, tally_one]
  by_cases ho : OpensTag ls tag k
  · simp [ho, not_endsTag_of_opensTag ho]
  · by_cases he : EndsTag ls tag k <;> simp [ho, he]

theorem balance_one_of_opensTag (h : OpensTag ls tag k) : balance ls tag k (k + 1) = 1 := by
  rw [balance_one, if_pos h]

theorem le_balance_one (ls : List Line) (tag : String) (k : Nat) :
    -1 ≤ balance ls tag k (k + 1) := by
  rw [balance_one]
  split
  · decide
  · split <;> decide

theorem endsTag_of_balance_one (h : balance ls tag k (k + 1) < 0) : EndsTag ls tag k := by
  rw [balance_one] at h
  split at h
  · cases h
  · split at h
    · assumption
    · cases h

/-- A balance that is above zero and later below zero is zero in between. -/
theorem exists_balance_eq_zero (him : i ≤ m) (hmj : m ≤ j) (hm : 0 < balance ls tag i m)
    (hj : balance ls tag i j < 0) : ∃ k, m < k ∧ k < j ∧ balance ls tag i k = 0 := by
  induction j, hmj using Nat.le_induction with
  | base => omega
  | succ j hmj ih =>
    have hstep := balance_append ls tag (Nat.le_trans him hmj) (Nat.le_add_right j 1)
    have hone := le_balance_one ls tag j
    by_cases hneg : balance ls tag i j < 0
    · obtain ⟨k, hmk, hkj, hk⟩ := ih hneg
      exact ⟨k, hmk, by omega, hk⟩
    · have hzero : balance ls tag i j = 0 := by omega
      have hne : m ≠ j := by
        rintro rfl
        omega
      exact ⟨j, by omega, by omega, hzero⟩

theorem opensTag_cons {l : Line} {rest : List Line} (tag : String) (hd : ls.drop k = l :: rest) :
    OpensTag ls tag k ↔ startsBranch (l :: rest) = true ∧ l.tag = tag := by
  have hl : ls[k]? = some l := by
    rw [← Nat.add_zero k, ← List.getElem?_drop, hd]
    rfl
  rw [OpensTag, opens_iff, hd, hl, Option.map_some, Option.some_inj]

theorem endsTag_cons {l : Line} {rest : List Line} (tag : String) (hd : ls.drop k = l :: rest) :
    EndsTag ls tag k ↔ l.isEnd = true ∧ l.tag = tag := by
  have hl : ls[k]? = some l := by
    rw [← Nat.add_zero k, ← List.getElem?_drop, hd]
    rfl
  rw [EndsTag, hl, Option.any_some, Option.map_some, Option.some_inj]

/-- One line of the scan while a branch is open: the counter goes with the balance, and the scan is
over when nothing is left open. -/
theorem closingAfter_drop (h : 1 ≤ depth) (hn : (n : Int) = depth + balance ls tag k (k + 1)) :
    closingAfter tag depth (ls.drop k) =
      if n = 0 then some 0 else (closingAfter tag n (ls.drop (k + 1))).map (· + 1) := by
  rw [balance_one] at hn
  cases hd : ls.drop k with
  | nil =>
    have hlen : ls.length ≤ k := List.drop_eq_nil_iff.mp hd
    have hnone : ls[k]? = none := List.getElem?_eq_none hlen
    have hn0 : n ≠ 0 := by
      rw [if_neg (by simp [OpensTag, hnone]), if_neg (by simp [EndsTag, hnone])] at hn
      omega
    rw [if_neg hn0, List.drop_of_length_le (by omega)]
    rfl
  | cons l rest =>
    have hrest : ls.drop (k + 1) = rest := by rw [← List.tail_drop, hd, List.tail_cons]
    have hopens := opensTag_cons tag hd
    have hends := endsTag_cons tag hd
    rw [hrest, closingAfter]
    by_cases htag : l.tag = tag
    · by_cases hs : startsBranch (l :: rest) = true
      · obtain rfl : n = depth + 1 := by
          rw [if_pos (hopens.mpr ⟨hs, htag⟩)] at hn
          omega
        simp [htag, hs]
      · by_cases he : l.isEnd = true
        · have hn' : n = depth - 1 := by
            rw [if_neg (fun ho => hs (hopens.mp ho).1), if_pos (hends.mpr ⟨he, htag⟩)] at hn
            omega
          by_cases hd1 : depth ≤ 1
          · simp [htag, hs, he, hd1, show n = 0 by omega]
          · simp [htag, hs, he, hd1, hn', show depth - 1 ≠ 0 by omega]
        · obtain rfl : n = depth := by
            rw [if_neg (fun ho => hs (hopens.mp ho).1),
              if_neg (fun hend => he (hends.mp hend).1)] at hn
            omega
          simp [htag, hs, he, show n ≠ 0 by omega]
    · obtain rfl : n = depth := by
        rw [if_neg (fun ho => htag (hopens.mp ho).2),
          if_neg (fun hend => htag (hends.mp hend).2)] at hn
        omega
      simp [htag, show n ≠ 0 by omega]

/-- With branches open, the scan stops where the balance first makes up for them. -/
theorem closingAfter_eq_some_iff (h : 1 ≤ depth) :
    closingAfter tag depth (ls.drop k) = some n ↔
      depth + balance ls tag k (k + n + 1) = 0 ∧
      ∀ m < n, (depth : Int) + balance ls tag k (k + m + 1) ≠ 0 := by
  induction n generalizing depth k with
  | zero =>
    have hone := le_balance_one ls tag k
    obtain ⟨d, hd⟩ := Int.eq_ofNat_of_zero_le (by omega : 0 ≤ depth + balance ls tag k (k + 1))
    rw [closingAfter_drop h hd.symm, Nat.add_zero, hd]
    by_cases hzero : d = 0 <;> simp [hzero]
  | succ n ih =>
    have hone := le_balance_one ls tag k
    obtain ⟨d, hd⟩ := Int.eq_ofNat_of_zero_le (by omega : 0 ≤ depth + balance ls tag k (k + 1))
    -- What is open after this line is what the rest has to make up for.
    have hrest : ∀ m, (depth : Int) + balance ls tag k (k + (m + 1) + 1) =
        d + balance ls tag (k + 1) (k + 1 + m + 1) := by
      intro m
      have hsum := balance_append ls tag (Nat.le_add_right k 1)
        (by omega : k + 1 ≤ k + (m + 1) + 1)
      rw [hsum, show k + (m + 1) + 1 = k + 1 + m + 1 by omega]
      omega
    rw [closingAfter_drop h hd.symm, hrest n]
    by_cases hzero : d = 0
    · rw [if_pos hzero]
      constructor
      · intro hn
        cases hn
      · rintro ⟨-, hall⟩
        exact absurd (by rw [Nat.add_zero, hd, hzero]; rfl) (hall 0 (Nat.succ_pos n))
    · have hmap : (closingAfter tag d (ls.drop (k + 1))).map (· + 1) = some (n + 1) ↔
          closingAfter tag d (ls.drop (k + 1)) = some n := by simp
      rw [if_neg hzero, hmap, ih (Nat.pos_of_ne_zero hzero)]
      refine and_congr_right fun _ => ?_
      constructor
      · intro hall m hm
        cases m with
        | zero =>
          rw [Nat.add_zero, hd]
          omega
        | succ m =>
          rw [hrest m]
          exact hall m (by omega)
      · intro hall m hm
        rw [← hrest m]
        exact hall (m + 1) (by omega)

/-- The end of a branch is where its balance first comes down to zero. -/
theorem branchEnd?_eq_some_iff (ho : OpensTag ls tag i) :
    branchEnd? ls i = some j ↔
      i < j ∧ balance ls tag i (j + 1) = 0 ∧ ∀ k, i < k → k < j → balance ls tag i (k + 1) ≠ 0 := by
  have hbal := balance_one_of_opensTag ho
  have hscan : branchEnd? ls i = (closingAfter tag 1 (ls.drop (i + 1))).map (i + 1 + ·) := by
    rw [branchEnd?]
    cases hd : ls.drop i with
    | nil =>
      obtain ⟨hopens, -⟩ := ho
      rw [opens_iff, hd] at hopens
      cases hopens
    | cons l rest =>
      obtain ⟨hs, htag⟩ := (opensTag_cons tag hd).mp ho
      have hrest : ls.drop (i + 1) = rest := by rw [← List.tail_drop, hd, List.tail_cons]
      simp only [hs, if_true, htag, closingAfter_opening htag hs, hrest, Option.map_map]
      congr 1
      funext n
      simp only [Function.comp_apply]
      omega
  have hsum : ∀ k, i ≤ k → balance ls tag i (k + 1) = 1 + balance ls tag (i + 1) (k + 1) := by
    intro k hk
    rw [balance_append ls tag (Nat.le_succ i) (by omega : i + 1 ≤ k + 1), hbal]
  rw [hscan]
  constructor
  · intro h
    obtain ⟨n, hn, rfl⟩ := Option.map_eq_some_iff.mp h
    obtain ⟨hzero, hall⟩ := (closingAfter_eq_some_iff (Nat.le_refl 1)).mp hn
    refine ⟨by omega, ?_, ?_⟩
    · rw [hsum _ (by omega)]
      exact_mod_cast hzero
    · intro k hik hkj
      obtain ⟨m, rfl⟩ : ∃ m, k = i + 1 + m := ⟨k - (i + 1), by omega⟩
      rw [hsum _ (by omega)]
      exact_mod_cast hall m (by omega)
  · rintro ⟨hij, hzero, hall⟩
    obtain ⟨n, rfl⟩ : ∃ n, j = i + 1 + n := ⟨j - (i + 1), by omega⟩
    refine Option.map_eq_some_iff.mpr
      ⟨n, (closingAfter_eq_some_iff (Nat.le_refl 1)).mpr ⟨?_, ?_⟩, rfl⟩
    · rw [hsum _ (by omega)] at hzero
      exact_mod_cast hzero
    · intro m hm
      have hne := hall (i + 1 + m) (by omega) (by omega)
      rw [hsum _ (by omega)] at hne
      exact_mod_cast hne

/-- Until its end a branch has more openings than ends. -/
theorem balance_pos_of_lt_branchEnd? (ho : OpensTag ls tag i) (hj : branchEnd? ls i = some j)
    (hik : i < k) (hkj : k ≤ j) : 0 < balance ls tag i k := by
  obtain ⟨-, -, hall⟩ := (branchEnd?_eq_some_iff ho).mp hj
  have hone := balance_one_of_opensTag ho
  by_contra hneg
  have hne : ∀ k', i + 1 < k' → k' ≤ j → balance ls tag i k' ≠ 0 := by
    intro k' hik' hkj'
    obtain ⟨k'', rfl⟩ : ∃ k'', k' = k'' + 1 := ⟨k' - 1, by omega⟩
    exact hall k'' (by omega) (by omega)
  have hik' : i + 1 < k := by
    apply Nat.lt_of_le_of_ne hik
    intro hk
    rw [← hk, Nat.succ_eq_add_one, hone] at hneg
    exact hneg Int.one_pos
  have hlt : balance ls tag i k < 0 := by
    have := hne k hik' hkj
    omega
  obtain ⟨k', hik'', hkk', hzero⟩ :=
    exists_balance_eq_zero (Nat.le_add_right i 1) (Nat.le_of_lt hik') (by omega) hlt
  exact hne k' hik'' (by omega) hzero

theorem opensTag_of_branchEnd? (hj : branchEnd? ls i = some j) : ∃ tag, OpensTag ls tag i := by
  have hopens : Opens ls i := opens_iff.mpr (startsBranch_of_branchEnd? hj)
  obtain ⟨l, -, hl, -⟩ := id hopens
  exact ⟨l.tag, hopens, by rw [hl]; rfl⟩

/-- What closes a branch is an end marker of its tag. -/
theorem endsTag_of_branchEnd? (ho : OpensTag ls tag i) (hj : branchEnd? ls i = some j) :
    EndsTag ls tag j := by
  obtain ⟨hij, hzero, -⟩ := (branchEnd?_eq_some_iff ho).mp hj
  have hpos := balance_pos_of_lt_branchEnd? ho hj hij (Nat.le_refl j)
  rw [balance_append ls tag (Nat.le_of_lt hij) (Nat.le_add_right j 1)] at hzero
  exact endsTag_of_balance_one (by omega)

theorem branchEnd?_inj_of_lt (hi : branchEnd? ls i = some j) (hk : branchEnd? ls k = some j) :
    ¬ i < k := by
  intro hik
  obtain ⟨tag, ho⟩ := opensTag_of_branchEnd? hi
  obtain ⟨tag', ho'⟩ := opensTag_of_branchEnd? hk
  obtain rfl : tag = tag' := by
    have h := (endsTag_of_branchEnd? ho hi).2
    rw [(endsTag_of_branchEnd? ho' hk).2] at h
    exact (Option.some.inj h).symm
  obtain ⟨-, hzero, -⟩ := (branchEnd?_eq_some_iff ho).mp hi
  obtain ⟨hkj, hzero', -⟩ := (branchEnd?_eq_some_iff ho').mp hk
  have hpos := balance_pos_of_lt_branchEnd? ho hi hik (Nat.le_of_lt hkj)
  rw [balance_append ls tag (Nat.le_of_lt hik) (by omega : k ≤ j + 1)] at hzero
  omega

/-- A branch that opens inside another one of its tag has to end before it: by then the outer one
has openings to spare, so the inner one has used up its own. -/
theorem branchEnd?_inside (ho : OpensTag ls tag i) (hj : branchEnd? ls i = some j)
    (ho' : OpensTag ls tag k) (hik : i < k) (hkj : k < j) :
    ∃ j', branchEnd? ls k = some j' ∧ j' < j := by
  classical
  obtain ⟨-, hzero, -⟩ := (branchEnd?_eq_some_iff ho).mp hj
  have hpos := balance_pos_of_lt_branchEnd? ho hj hik (Nat.le_of_lt hkj)
  have hneg : balance ls tag k (j + 1) < 0 := by
    rw [balance_append ls tag (Nat.le_of_lt hik) (by omega : k ≤ j + 1)] at hzero
    omega
  have hone := balance_one_of_opensTag ho'
  obtain ⟨m, hkm, hmj, hm⟩ := exists_balance_eq_zero (Nat.le_add_right k 1)
    (by omega : k + 1 ≤ j + 1) (by omega) hneg
  have hlast : k < m - 1 ∧ balance ls tag k (m - 1 + 1) = 0 :=
    ⟨by omega, by rwa [Nat.sub_add_cancel (by omega)]⟩
  have hex : ∃ j', k < j' ∧ balance ls tag k (j' + 1) = 0 := ⟨m - 1, hlast⟩
  obtain ⟨hlt, hzero'⟩ := Nat.find_spec hex
  refine ⟨Nat.find hex, (branchEnd?_eq_some_iff ho').mpr ⟨hlt, hzero', ?_⟩, ?_⟩
  · intro k' hkk' hk'
    exact fun hbal => Nat.find_min hex hk' ⟨hkk', hbal⟩
  · have hle := Nat.find_min' hex hlast
    omega

/-- While a branch is open, the counter has something to be taken from. -/
theorem scanChecked_eq (h : 1 ≤ depth) :
    scanChecked tag depth ls = some (closingAfter tag depth ls) := by
  induction ls generalizing depth with
  | nil => rfl
  | cons l rest ih =>
    rw [scanChecked, closingAfter]
    split
    · rw [ih h]
      rfl
    · split
      · rw [ih (Nat.le_succ_of_le h)]
        rfl
      · split
        · rw [if_neg (by omega : depth ≠ 0)]
          by_cases hone : depth = 1
          · rw [if_pos hone, if_pos (by omega)]
          · rw [if_neg hone, if_neg (by omega), ih (by omega)]
            rfl
        · rw [ih h]
          rfl

theorem scanChecked_of_opensTag (ho : OpensTag ls tag i) :
    scanChecked tag 0 (ls.drop i) = some ((branchEnd? ls i).map (· - i)) := by
  rw [branchEnd?]
  cases hd : ls.drop i with
  | nil =>
    have hopens := opens_iff.mp ho.1
    rw [hd] at hopens
    cases hopens
  | cons l rest =>
    obtain ⟨hs, htag⟩ := (opensTag_cons tag hd).mp ho
    subst htag
    simp [scanChecked, hs, scanChecked_eq, closingAfter_opening, Option.map_map, Function.comp_def]

/-- On any lines, the end of a branch is the least index after its opening at which as many branches
of its tag have opened as have ended. Looking for it never takes from a counter that is zero, no two
branches share an end, and a branch that opens inside another one of its tag ends inside it. -/
theorem branchEnd?_least_balanced (ls : List Line) :
    (∀ start j, branchEnd? ls start = some j ↔ ∃ tag, OpensTag ls tag start ∧ start < j ∧
      openings ls tag start j = endings ls tag start j ∧
      ∀ k, start < k → k < j → openings ls tag start k ≠ endings ls tag start k) ∧
    (∀ start tag, OpensTag ls tag start →
      scanChecked tag 0 (ls.drop start) = some ((branchEnd? ls start).map (· - start))) ∧
    (∀ a b j, branchEnd? ls a = some j → branchEnd? ls b = some j → a = b) ∧
    ∀ tag a b j, OpensTag ls tag a → OpensTag ls tag b → branchEnd? ls a = some j → a < b → b < j →
      ∃ j', branchEnd? ls b = some j' ∧ j' < j := by
  refine ⟨?_, ?_, ?_, ?_⟩
  · intro start j
    simp only [ne_eq, ← balance_eq_zero_iff]
    constructor
    · intro hj
      obtain ⟨tag, ho⟩ := opensTag_of_branchEnd? hj
      exact ⟨tag, ho, (branchEnd?_eq_some_iff ho).mp hj⟩
    · rintro ⟨tag, ho, hbal⟩
      exact (branchEnd?_eq_some_iff ho).mpr hbal
  · exact fun start tag ho => scanChecked_of_opensTag ho
  · intro a b j ha hb
    exact Nat.le_antisymm (Nat.not_lt.mp (branchEnd?_inj_of_lt hb ha))
      (Nat.not_lt.mp (branchEnd?_inj_of_lt ha hb))
  · exact fun tag a b j ho ho' hj hab hbj => branchEnd?_inside ho hj ho' hab hbj

end RulesText
