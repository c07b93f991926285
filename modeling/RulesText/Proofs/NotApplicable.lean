import Mathlib.Logic.Relation
import RulesText.Casebook.Basic
import RulesText.Proofs.ShortestLead
import RulesText.Proofs.Stability
import RulesText.Text.Case.Upper

/-!
Texts without rules: "n/a" says that a card has none. Only the letters count, and neither white
space nor line breaks nor capitals.
-/
namespace RulesText

namespace Text

variable {cs cs' ds before after : List Char} {c d : Char}

/-- What is left without white space. -/
def squeeze (cs : List Char) : List Char := cs.filter (!isBlank ·)

theorem squeeze_append : squeeze (cs ++ ds) = squeeze cs ++ squeeze ds := List.filter_append _ _

theorem squeeze_of_blank (h : ∀ c ∈ cs, isBlank c = true) : squeeze cs = [] :=
  List.filter_eq_nil_iff.mpr fun c hc => by simp [h c hc]

theorem squeeze_dropWhile (cs : List Char) : squeeze (cs.dropWhile isBlank) = squeeze cs := by
  have htaken : squeeze (cs.takeWhile isBlank) = [] :=
    squeeze_of_blank (List.all_eq_true.mp List.all_takeWhile)
  conv_rhs => rw [← List.takeWhile_append_dropWhile (p := isBlank) (l := cs)]
  rw [squeeze_append, htaken, List.nil_append]

theorem squeeze_trimChars (cs : List Char) : squeeze (trimChars cs) = squeeze cs := by
  have hend : ∀ ds, squeeze (trimEndChars ds) = squeeze ds := by
    intro ds
    have h := squeeze_dropWhile ds.reverse
    rw [squeeze, squeeze, List.filter_reverse] at h
    rw [trimEndChars, dropEnd, squeeze, List.filter_reverse, h, List.reverse_reverse, squeeze]
  rw [trimChars, hend, squeeze_dropWhile]

theorem squeeze_intercalate (pieces : List (List Char)) :
    squeeze ([' '].intercalate pieces) = squeeze pieces.flatten := by
  induction pieces with
  | nil => rfl
  | cons piece rest ih =>
    by_cases hrest : rest = []
    · subst hrest
      simp
    · have hspace : squeeze [' '] = [] := by decide
      rw [List.intercalate_cons_of_ne_nil hrest, List.flatten_cons, squeeze_append, squeeze_append,
        squeeze_append, ih, hspace, List.append_nil]

theorem IsTrimmed.front_eq_nil (h : IsTrimmed (cs ++ ds)) (hcs : ∀ c ∈ cs, isBlank c = true) :
    cs = [] := by
  cases cs with
  | nil => rfl
  | cons c cs => cases (hcs c (.head _)).symm.trans (h.head c rfl)

theorem IsTrimmed.back_eq_nil (h : IsTrimmed (cs ++ ds)) (hds : ∀ c ∈ ds, isBlank c = true) :
    ds = [] := by
  rcases List.eq_nil_or_concat ds with rfl | ⟨ds, c, rfl⟩
  · rfl
  · rw [List.concat_eq_append] at h hds
    have hlast := h.last c (by rw [← List.append_assoc, List.getLast?_concat])
    cases (hds c (by simp)).symm.trans hlast

/-- A trimmed text begins and ends with what is left of it. -/
theorem IsTrimmed.squeeze_eq_iff {x y z : Char} (h : IsTrimmed cs) (hx : isBlank x = false)
    (hy : isBlank y = false) (hz : isBlank z = false) : squeeze cs = [x, y, z] ↔
    ∃ a b, (∀ c ∈ a, isBlank c = true) ∧ (∀ c ∈ b, isBlank c = true) ∧
      cs = x :: (a ++ y :: (b ++ [z])) := by
  constructor
  · intro hcs
    obtain ⟨front, cs, rfl, hfront, -, hcs⟩ := List.filter_eq_cons_iff.mp hcs
    obtain ⟨a, cs, rfl, ha, -, hcs⟩ := List.filter_eq_cons_iff.mp hcs
    obtain ⟨b, back, rfl, hb, -, hback⟩ := List.filter_eq_cons_iff.mp hcs
    have hback := List.filter_eq_nil_iff.mp hback
    simp only [Bool.not_eq_true', Bool.not_eq_false] at hfront ha hb hback
    obtain rfl := h.front_eq_nil hfront
    have hends : [] ++ x :: (a ++ y :: (b ++ z :: back)) = x :: (a ++ y :: (b ++ [z])) ++ back := by
      simp
    rw [hends] at h ⊢
    obtain rfl := h.back_eq_nil hback
    exact ⟨a, b, ha, hb, List.append_nil _⟩
  · rintro ⟨a, b, ha, hb, rfl⟩
    have hone : ∀ {c : Char} {ds}, isBlank c = false → squeeze (c :: ds) = c :: squeeze ds :=
      fun hc => List.filter_cons_of_pos (by simp [hc])
    rw [hone hx, squeeze_append, squeeze_of_blank ha, List.nil_append, hone hy, squeeze_append,
      squeeze_of_blank hb, List.nil_append, hone hz]
    rfl

/-- The letter of "n/a" that a character stands for. -/
def letter? (c : Char) : Option Char :=
  if c = 'n' ∨ c = 'N' then some 'n'
  else if c = '/' then some '/'
  else if c = 'a' ∨ c = 'A' then some 'a'
  else none

/-- The characters that stand for a letter of "n/a". -/
def letters : List Char := ['n', 'N', '/', 'a', 'A']

theorem letter?_eq_none (h : c ∉ letters) : letter? c = none := by
  simp only [letters, List.mem_cons, List.not_mem_nil, or_false, not_or] at h
  simp [letter?, h]

/-- What is left without white space, as letters of "n/a", if there is nothing else. -/
def spelling? (cs : List Char) : Option (List Char) := (squeeze cs).mapM letter?

theorem spelling?_append : spelling? (cs ++ ds) =
    (do return (← spelling? cs) ++ (← spelling? ds)) := by
  rw [spelling?, squeeze_append, List.mapM_append]
  rfl

theorem spelling?_append_congr {ds' : List Char} (h : spelling? cs = spelling? cs')
    (h' : spelling? ds = spelling? ds') : spelling? (cs ++ ds) = spelling? (cs' ++ ds') := by
  rw [spelling?_append, spelling?_append, h, h']

theorem spelling?_singleton_congr (hblank : isBlank c = isBlank d) (h : letter? c = letter? d) :
    spelling? [c] = spelling? [d] := by
  unfold spelling? squeeze
  cases hd : isBlank d with
  | true => simp [hblank, hd]
  | false => simp [hblank, hd, h]

/-- The table moves letters of "n/a" to such as stand for the same, and nothing else to them. -/
def keepsLetters (runs : List Run) : Bool := letters.all fun c =>
  ((sources runs c.toNat).all fun n => letter? (Char.ofNat n) == letter? c) &&
    (shift? runs c.toNat).all fun k => letter? (Char.ofNat k) == letter? c

theorem spelling?_moved {runs : List Run} {k : Nat} (havoids : Case.avoidsBlanks runs = true)
    (hkeeps : keepsLetters runs = true) (h : shift? runs c.toNat = some k) :
    spelling? [Char.ofNat k] = spelling? [c] := by
  obtain ⟨hvalid, hfrom, hto⟩ := Case.of_avoidsBlanks havoids h
  have hcode := Case.toNat_ofNat hvalid
  have hletters : ∀ d ∈ letters,
      (∀ n ∈ sources runs d.toNat, letter? (Char.ofNat n) = letter? d) ∧
        ∀ k, shift? runs d.toNat = some k → letter? (Char.ofNat k) = letter? d := by
    simpa [keepsLetters, Option.all_eq_true] using hkeeps
  refine spelling?_singleton_congr ?_ ?_
  · rw [isBlank, isBlank, hcode, hfrom, hto]
  · by_cases hk : Char.ofNat k ∈ letters
    · have hpos : ∀ d ∈ letters, 0 < d.toNat := by simp [letters]
      have hmem := mem_sources (h.trans (congrArg some hcode.symm)) (hpos _ hk)
      have hsame := (hletters _ hk).1 _ hmem
      rw [Char.ofNat_toNat] at hsame
      exact hsame.symm
    · by_cases hc : c ∈ letters
      · exact (hletters c hc).2 k h
      · rw [letter?_eq_none hk, letter?_eq_none hc]

theorem lowerRuns_keepsLetters : keepsLetters Case.lowerRuns = true := by decide +kernel

theorem upperRuns_avoidsBlanks : Case.avoidsBlanks Case.upperRuns = true := by decide +kernel

theorem upperRuns_keepsLetters : keepsLetters Case.upperRuns = true := by decide +kernel

theorem spelling?_lowerAt : spelling? (Case.lowerAt before c after) = spelling? [c] := by
  by_cases hsigma : c = 'Σ'
  · subst hsigma
    have hlow : ∀ d, d = 'ς' ∨ d = 'σ' → spelling? [d] = spelling? ['Σ'] := by
      rintro d (rfl | rfl) <;> decide
    refine hlow _ ?_
    unfold Case.lowerSigma
    split
    · exact .inl rfl
    · exact .inr rfl
  · by_cases hdotted : c = 'İ'
    · subst hdotted
      exact (by decide : spelling? ['i', '\u0307'] = spelling? ['İ'])
    · rcases Case.lowerAt_cases hsigma hdotted with ⟨-, hsame⟩ | ⟨k, hmoved, hone⟩
      · rw [hsame]
      · rw [hone]
        exact spelling?_moved Case.lowerRuns_avoid lowerRuns_keepsLetters hmoved

theorem spelling?_lowerFrom : spelling? (Case.lowerFrom before cs) = spelling? cs := by
  induction cs generalizing before with
  | nil => rfl
  | cons c rest ih => exact spelling?_append_congr spelling?_lowerAt ih

theorem spelling?_lower (cs : List Char) : spelling? (Case.lower cs) = spelling? cs :=
  spelling?_lowerFrom

theorem upperSpecial_spelling? : (Case.upperSpecial.all fun p =>
    (spelling? (p.2.map Char.ofNat)).isNone && (spelling? [Char.ofNat p.1]).isNone) = true := by
  decide +kernel

theorem spelling?_upperChar : spelling? (Case.upperChar c) = spelling? [c] := by
  unfold Case.upperChar
  split
  · next ns hlookup =>
    obtain ⟨_, _, htable, -⟩ := List.lookup_eq_some_iff.mp hlookup
    have hspecial := List.all_eq_true.mp upperSpecial_spelling? (c.toNat, ns) (by simp [htable])
    simp only [Bool.and_eq_true, Option.isNone_iff_eq_none, Char.ofNat_toNat] at hspecial
    rw [hspecial.1, hspecial.2]
  · cases hmoved : shift? Case.upperRuns c.toNat with
    | none => simp [shift, hmoved]
    | some k =>
      simp only [shift, hmoved, Option.getD_some]
      exact spelling?_moved upperRuns_avoidsBlanks upperRuns_keepsLetters hmoved

theorem spelling?_upper (s : String) : spelling? (Case.upper s).toList = spelling? s.toList := by
  rw [Case.upper, String.toList_ofList]
  induction s.toList with
  | nil => rfl
  | cons c rest ih => exact spelling?_append_congr spelling?_upperChar ih

theorem spelling?_normalChars (cs : List Char) : spelling? (normalChars cs) = spelling? cs := by
  rw [normalChars, spelling?_lower, spelling?, squeeze_trimChars]
  rfl

theorem letter?_eq_some_iff : letter? c = some d ↔
    (c = 'n' ∨ c = 'N') ∧ d = 'n' ∨ c = '/' ∧ d = '/' ∨ (c = 'a' ∨ c = 'A') ∧ d = 'a' := by
  unfold letter?
  split_ifs <;> grind

/-- The ways to write "n/a" without white space. -/
def nullSpellings : List (List Char) :=
  [['n', '/', 'a'], ['N', '/', 'a'], ['n', '/', 'A'], ['N', '/', 'A']]

theorem mapM_letter?_eq_cons_iff {y : Char} {ys : List Char} : cs.mapM letter? = some (y :: ys) ↔
    ∃ x xs, cs = x :: xs ∧ letter? x = some y ∧ xs.mapM letter? = some ys := by
  cases cs with
  | nil => simp
  | cons x xs => simp [Option.bind_eq_some_iff]

theorem spelling?_eq_iff : spelling? cs = some ['n', '/', 'a'] ↔ squeeze cs ∈ nullSpellings := by
  unfold spelling?
  constructor
  · intro h
    obtain ⟨x, xs, hcs, hx, h⟩ := mapM_letter?_eq_cons_iff.mp h
    obtain ⟨y, ys, rfl, hy, h⟩ := mapM_letter?_eq_cons_iff.mp h
    obtain ⟨z, zs, rfl, hz, h⟩ := mapM_letter?_eq_cons_iff.mp h
    obtain rfl : zs = [] := by
      cases zs with
      | nil => rfl
      | cons w ws => simp [Option.bind_eq_some_iff] at h
    have hx : x = 'n' ∨ x = 'N' := by simpa using letter?_eq_some_iff.mp hx
    have hy : y = '/' := by simpa using letter?_eq_some_iff.mp hy
    have hz : z = 'a' ∨ z = 'A' := by simpa using letter?_eq_some_iff.mp hz
    rw [hcs, hy]
    rcases hx with rfl | rfl <;> rcases hz with rfl | rfl <;> decide
  · intro h
    simp only [nullSpellings, List.mem_cons, List.not_mem_nil, or_false] at h
    rcases h with h | h | h | h <;> rw [h] <;> decide

/-- A normal text says "n/a" in small letters only, for it has no capitals. -/
theorem squeeze_normalChars_eq_iff : squeeze (normalChars cs) = ['n', '/', 'a'] ↔
    squeeze cs ∈ nullSpellings := by
  rw [← spelling?_eq_iff, ← spelling?_normalChars, spelling?_eq_iff]
  constructor
  · intro h
    rw [h]
    exact .head _
  · intro h
    have hlow : ∀ c ∈ squeeze (normalChars cs), Case.IsLow c := fun c hc =>
      isLow_of_mem_normalChars (List.mem_filter.mp hc).1
    have hcapitals : ¬ Case.IsLow 'N' ∧ ¬ Case.IsLow 'A' := by
      constructor <;> exact fun h => absurd h.2 (by decide +kernel)
    simp only [nullSpellings, List.mem_cons, List.not_mem_nil, or_false] at h
    rcases h with h | h | h | h
    · exact h
    · rw [h] at hlow
      exact absurd (hlow 'N' (by decide)) hcapitals.1
    · rw [h] at hlow
      exact absurd (hlow 'A' (by decide)) hcapitals.2
    · rw [h] at hlow
      exact absurd (hlow 'A' (by decide)) hcapitals.2

end Text

namespace Pattern

variable {p q : Pattern} {s t : Spot} {c : Char} {loop : Nat} {greedy : Bool} {set : CharSet}
  {taken rest : List Char}

theorem leads_cat_iff : (cat p q).Leads s t ↔ ∃ u, p.Leads s u ∧ q.Leads u t := by
  constructor
  · intro h
    cases h with
    | cat hp hq => exact ⟨_, hp, hq⟩
  · rintro ⟨u, hp, hq⟩
    exact .cat hp hq

theorem leads_one_iff : (char (.one c)).Leads s t ↔
    ∃ rest, s.rest = c :: rest ∧ t = s.step c rest := by
  constructor
  · intro h
    cases h with
    | char hrest hset =>
      obtain rfl := holds_one.mp hset
      exact ⟨_, hrest, rfl⟩
  · rintro ⟨rest, hrest, rfl⟩
    exact .char hrest (holds_one.mpr rfl)

theorem leads_textEnd_iff : (edge .textEnd).Leads s t ↔ s.rest = [] ∧ t = s := by
  constructor
  · intro h
    cases h with
    | edge he => exact ⟨by simpa [Edge.holds] using he, rfl⟩
  · rintro ⟨hrest, rfl⟩
    exact .edge (by simp [Edge.holds, hrest])

/-- A repetition of characters may stop after any stretch of them. -/
theorem leads_star_char (hs : 2 * loop ∉ s.marks) (hrest : s.rest = taken ++ rest)
    (hset : ∀ c ∈ taken, set.holds c = true) :
    ∃ t, (star loop greedy (char set)).Leads s t ∧ t.rest = rest := by
  have hmark : s.mark (2 * loop) = some { s with marks := 2 * loop :: s.marks } := by
    simp [Spot.mark, hs]
  induction taken generalizing s with
  | nil => exact ⟨_, .done hmark, hrest⟩
  | cons c taken ih =>
    obtain ⟨hc, hset⟩ := List.forall_mem_cons.mp hset
    obtain ⟨t, hway, ht⟩ := ih (s := s.step c (taken ++ rest)) List.not_mem_nil rfl hset rfl
    exact ⟨t, .more hmark (.char hrest hc) hway, ht⟩

end Pattern

theorem pattern_notApplicable : notApplicable.pattern =
    .cat (.edge .textStart) (.cat (.char (.one 'n')) (.cat (.star 0 true (.char .blank))
      (.cat (.char (.one '/')) (.cat (.star 1 true (.char .blank))
        (.cat (.char (.one 'a')) (.edge .textEnd)))))) := by
  decide +kernel

/-- The pattern accepts the letters in their order with white space between them. -/
theorem accepts_notApplicable {text : String} : notApplicable.accepts text = true ↔
    ∃ a b, (∀ c ∈ a, Text.isBlank c = true) ∧ (∀ c ∈ b, Text.isBlank c = true) ∧
      text.toList = 'n' :: (a ++ '/' :: (b ++ ['a'])) := by
  rw [Matcher.accepts, pattern_notApplicable, Pattern.search_textStart, Pattern.matchAt_isSome_iff]
  simp only [Pattern.leads_cat_iff, Pattern.leads_one_iff, Pattern.leads_textEnd_iff]
  constructor
  · rintro ⟨_, _, ⟨cs, htext, rfl⟩, u, hstar, _, ⟨cs', hu, rfl⟩, v, hstar', _, ⟨cs'', hv, rfl⟩,
      hend, -⟩
    obtain ⟨a, hcs, ha⟩ := hstar.steps
    obtain ⟨b, hcs', hb⟩ := hstar'.steps
    obtain rfl : cs = a ++ '/' :: cs' := hu ▸ hcs
    obtain rfl : cs'' = [] := hend
    obtain rfl : cs' = b ++ ['a'] := hv ▸ hcs'
    exact ⟨a, b, ha, hb, htext⟩
  · rintro ⟨a, b, ha, hb, htext⟩
    let start : Spot := ⟨none, text.toList, 0, [], []⟩
    obtain ⟨u, hstar, hu⟩ : ∃ u, (Pattern.star 0 true (.char .blank)).Leads
        (start.step 'n' (a ++ '/' :: (b ++ ['a']))) u ∧ u.rest = '/' :: (b ++ ['a']) :=
      Pattern.leads_star_char List.not_mem_nil rfl ha
    obtain ⟨v, hstar', hv⟩ : ∃ v, (Pattern.star 1 true (.char .blank)).Leads
        (u.step '/' (b ++ ['a'])) v ∧ v.rest = ['a'] :=
      Pattern.leads_star_char List.not_mem_nil rfl hb
    exact ⟨_, _, ⟨_, htext, rfl⟩, u, hstar, _, ⟨_, hu, rfl⟩, v, hstar', _, ⟨_, hv, rfl⟩, rfl, rfl⟩

namespace CardText

variable {ls ls' : List String}

/-- All that the lines say, put together without white space. -/
def squeezed (ls : List String) : String := String.ofList (Text.squeeze (String.join ls).toList)

theorem squeezed_mem_iff : squeezed ls ∈ ["n/a", "N/a", "n/A", "N/A"] ↔
    Text.squeeze (String.join ls).toList ∈ Text.nullSpellings := by
  have hmap : ["n/a", "N/a", "n/A", "N/A"] = Text.nullSpellings.map String.ofList := rfl
  rw [hmap, squeezed]
  exact List.mem_map_of_injective fun _ _ => String.ofList_inj.mp

theorem squeeze_joined (ls : List String) :
    Text.squeeze (" ".intercalate ls).toList = Text.squeeze (String.join ls).toList := by
  rw [String.toList_intercalate, String.toList_join, List.flatMap_def]
  exact Text.squeeze_intercalate _

theorem isNull_lines_iff : (lines ls).isNull = true ↔
    ls = [] ∨ Text.squeeze (String.join ls).toList ∈ Text.nullSpellings := by
  have htrimmed := Text.isTrimmed_normalChars (" ".intercalate ls).toList
  rw [isNull, Bool.or_eq_true, List.isEmpty_iff, accepts_notApplicable, Text.toList_normalize,
    ← htrimmed.squeeze_eq_iff (by decide) (by decide) (by decide),
    Text.squeeze_normalChars_eq_iff, squeeze_joined]

/-- A card that no casebook looks into: there is nothing to do, whatever the cases. -/
def SkipsCases (text : CardText) : Prop :=
  ∀ (b : Casebook) (source : String), b.build text source = .ok ⟨text, source, none⟩

theorem skipsCases_iff {text : CardText} : SkipsCases text ↔ text.isNull = true := by
  constructor
  · intro h
    -- A casebook without cases can only refuse a text that it looks into.
    have hbuild := h { lexicon := {} } ""
    by_contra hnull
    have hpatterns : text.firstLine?.bind (Casebook.patternCase? { lexicon := {} }) = none := by
      cases text.firstLine? <;> rfl
    rw [Casebook.build, Casebook.dispatch, if_neg hnull] at hbuild
    simp [hpatterns, fail] at hbuild
  · intro h b source
    simp [Casebook.build, Casebook.dispatch, h]

/-- One change in how a text is laid out or capitalized. -/
inductive Edit : List String → List String → Prop where
  | split (before after : List String) (a b : String) :
      Edit (before ++ (a ++ b) :: after) (before ++ a :: b :: after)
  | space (before after : List String) (a w b : String)
      (hw : ∀ c ∈ w.toList, Text.isBlank c = true) :
      Edit (before ++ (a ++ b) :: after) (before ++ (a ++ w ++ b) :: after)
  | blankLine (before after : List String) (w : String) (hw : ∀ c ∈ w.toList, Text.isBlank c = true)
      (hne : before ++ after ≠ []) : Edit (before ++ after) (before ++ w :: after)
  | recase (before after : List String) (a b : String)
      (h : Text.Case.lower a.toList = Text.Case.lower b.toList ∨
        Text.Case.upper a = Text.Case.upper b) :
      Edit (before ++ a :: after) (before ++ b :: after)

/-- What the lines say, as letters of "n/a". -/
def spelled? (ls : List String) : Option (List Char) := Text.spelling? (String.join ls).toList

theorem spelled?_singleton (a : String) : spelled? [a] = Text.spelling? a.toList := by
  simp [spelled?]

theorem spelled?_between {xs ys : List String} (before after : List String)
    (h : spelled? xs = spelled? ys) :
    spelled? (before ++ (xs ++ after)) = spelled? (before ++ (ys ++ after)) := by
  simp only [spelled?, String.toList_join, List.flatMap_append] at h ⊢
  exact Text.spelling?_append_congr rfl (Text.spelling?_append_congr h rfl)

theorem spelled?_space (a b : String) {w : String} (hw : ∀ c ∈ w.toList, Text.isBlank c = true) :
    spelled? [a ++ b] = spelled? [a ++ w ++ b] := by
  have hsame : Text.spelling? a.toList = Text.spelling? (a.toList ++ w.toList) := by
    rw [Text.spelling?, Text.spelling?, Text.squeeze_append, Text.squeeze_of_blank hw,
      List.append_nil]
  simp only [spelled?_singleton, String.toList_append]
  exact Text.spelling?_append_congr hsame rfl

theorem spelled?_recase {a b : String} (h : Text.Case.lower a.toList = Text.Case.lower b.toList ∨
    Text.Case.upper a = Text.Case.upper b) : spelled? [a] = spelled? [b] := by
  rw [spelled?_singleton, spelled?_singleton]
  rcases h with h | h
  · rw [← Text.spelling?_lower a.toList, h, Text.spelling?_lower]
  · rw [← Text.spelling?_upper a, h, Text.spelling?_upper]

/-- A change leaves lines to be read, and it changes nothing in what they spell. -/
theorem Edit.spelled?_eq (h : Edit ls ls') : ls ≠ [] ∧ ls' ≠ [] ∧ spelled? ls = spelled? ls' := by
  cases h with
  | split before after a b =>
    have hsame : spelled? [a ++ b] = spelled? [a, b] := by simp [spelled?]
    have hmid := spelled?_between before after hsame
    exact ⟨by simp, by simp, hmid⟩
  | space before after a w b hw =>
    have hmid := spelled?_between before after (spelled?_space a b hw)
    exact ⟨by simp, by simp, hmid⟩
  | blankLine before after w hw hne =>
    have hsame : spelled? [] = spelled? [w] := by
      rw [spelled?_singleton, Text.spelling?, Text.squeeze_of_blank hw]
      rfl
    have hmid := spelled?_between before after hsame
    exact ⟨hne, by simp, hmid⟩
  | recase before after a b hcase =>
    have hmid := spelled?_between before after (spelled?_recase hcase)
    exact ⟨by simp, by simp, hmid⟩

theorem Edit.isNull_eq (h : Edit ls ls') : (lines ls).isNull = (lines ls').isNull := by
  obtain ⟨hls, hls', hsame⟩ := h.spelled?_eq
  rw [Bool.eq_iff_iff, isNull_lines_iff, isNull_lines_iff, or_iff_right hls, or_iff_right hls',
    ← Text.spelling?_eq_iff, ← Text.spelling?_eq_iff]
  exact iff_of_eq (congrArg (· = _) hsame)

/-- A card has no rules exactly if there are no lines or all that they say is "n/a". So it does not
matter where the lines are broken, where there is white space, and what is written in capitals: a
casebook passes over both of two texts that differ in this only, or over neither. -/
theorem isNull_ignores_layout :
    (∀ ls, (lines ls).isNull = true ↔ ls = [] ∨ squeezed ls ∈ ["n/a", "N/a", "n/A", "N/A"]) ∧
    ∀ ls ls', Relation.EqvGen Edit ls ls' →
      (SkipsCases (lines ls) ↔ SkipsCases (lines ls')) := by
  constructor
  · intro ls
    rw [isNull_lines_iff, squeezed_mem_iff]
  · intro ls ls' h
    rw [skipsCases_iff, skipsCases_iff, ← Bool.eq_iff_iff]
    induction h with
    | rel _ _ hedit => exact hedit.isNull_eq
    | refl _ => rfl
    | symm _ _ _ ih => exact ih.symm
    | trans _ _ _ _ _ ih ih' => exact ih.trans ih'

/-- A capital, a break and a blank line make no difference, and the letters still say it. -/
theorem isNull_ignores_layout_broken :
    Relation.EqvGen Edit ["N/A"] ["n", "\t", " / a"] ∧ SkipsCases (lines ["n", "\t", " / a"]) := by
  have hrecase : Edit ["N/A"] ["n/a"] := .recase [] [] "N/A" "n/a" (.inl (by decide +kernel))
  have hblank : ∀ w ∈ [" ", "\t"], ∀ c ∈ w.toList, Text.isBlank c = true := by
    have hall : ([" ", "\t"].all fun w => w.toList.all Text.isBlank) = true := by decide
    simpa using hall
  have hspace : Edit ["n/a"] ["n/ a"] := .space [] [] "n/" " " "a" (hblank " " (by simp))
  have hspace' : Edit ["n/ a"] ["n / a"] := .space [] [] "n" " " "/ a" (hblank " " (by simp))
  have hsplit : Edit ["n / a"] ["n", " / a"] := .split [] [] "n" " / a"
  have hline : Edit ["n", " / a"] ["n", "\t", " / a"] :=
    .blankLine ["n"] [" / a"] "\t" (hblank "\t" (by simp)) (by simp)
  have hedits : Relation.EqvGen Edit ["N/A"] ["n", "\t", " / a"] :=
    (Relation.EqvGen.rel _ _ hrecase).trans _ _ _ <| (Relation.EqvGen.rel _ _ hspace).trans _ _ _ <|
      (Relation.EqvGen.rel _ _ hspace').trans _ _ _ <|
        (Relation.EqvGen.rel _ _ hsplit).trans _ _ _ (.rel _ _ hline)
  refine ⟨hedits, (isNull_ignores_layout.2 _ _ hedits).mp ?_⟩
  exact skipsCases_iff.mpr ((isNull_ignores_layout.1 _).mpr (.inr (by decide)))

end CardText

end RulesText
