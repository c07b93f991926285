import RulesText.Cards.Lexicon
import RulesText.Proofs.Lowering
import RulesText.Proofs.Occurrence
import RulesText.Proofs.Slack

/-!
Reading: a table whose rules pass on only what is shorter than the text reads every text. What it
builds are phrases: symbols with their declared fields and no lists between them.
-/
namespace RulesText

variable {vs : List Variant}

/-- A symbol of one of the variants, with a value for each declared field. -/
structure Symbol.IsDeclared (vs : List Variant) (s : Symbol) : Prop where
  variant : s.variant ∈ vs
  names : s.payload.map Prod.fst = s.variant.fields

namespace Value

/-- Every symbol inside is declared, and there is no list. -/
def IsPhrase (vs : List Variant) (v : Value) : Prop :=
  ∀ way w, v.inside? way = some w → w.list? = none ∧ ∀ s, w = .symbol s → s.IsDeclared vs

theorem isPhrase_leaf {v : Value} (hl : v.list? = none) (hs : v.symbol? = none) :
    v.IsPhrase vs := by
  intro way w hw
  cases way with
  | nil =>
    obtain rfl := Option.some.inj hw
    exact ⟨hl, fun s h => by simp [h, symbol?] at hs⟩
  | cons k way =>
    obtain ⟨u, hu, -⟩ := inside?_cons.mp hw
    cases v <;> simp [inner?, symbol?, list?] at hu hs hl

theorem isPhrase_symbol {s : Symbol} (hs : s.IsDeclared vs)
    (h : ∀ field ∈ s.payload, field.2.IsPhrase vs) : (Value.symbol s).IsPhrase vs := by
  intro way w hw
  cases way with
  | nil =>
    obtain rfl := Option.some.inj hw
    exact ⟨rfl, fun t ht => (Value.symbol.inj ht) ▸ hs⟩
  | cons k way =>
    obtain ⟨u, hu, hw⟩ := inside?_cons.mp hw
    exact forall_inner_symbol.mpr h k u hu way w hw

theorem isPhrase_ofText (text : String) : (ofText text).IsPhrase vs := by
  unfold ofText
  cases numeral? text <;> exact isPhrase_leaf rfl rfl

end Value

/-- A symbol built from one phrase for each field is a phrase. -/
theorem Variant.construct_phrase {v : Variant} {args : List Value} (text : Option String)
    (hv : v ∈ vs) (hlen : args.length = v.fields.length) (h : ∀ a ∈ args, a.IsPhrase vs) :
    ∃ s, v.construct args text = .ok s ∧ (Value.symbol s).IsPhrase vs := by
  refine ⟨⟨v, v.fields.zip args, text, []⟩, if_pos hlen, Value.isPhrase_symbol ⟨hv, ?_⟩ ?_⟩
  · exact List.map_fst_zip (Nat.le_of_eq hlen.symm)
  · exact fun field hfield => h field.2 (List.of_mem_zip hfield).2

theorem Variant.terminal_phrase {v : Variant} (text : Option String) (hv : v ∈ vs)
    (hfields : v.fields = []) :
    ∃ s, v.terminal text = .ok s ∧ (Value.symbol s).IsPhrase vs :=
  construct_phrase text hv (by simp [hfields]) fun _ ha => nomatch ha

namespace Outcome

variable {α β : Type}

theorem bind_ok {o : Outcome α} {x : α} (h : o = .ok x) (f : α → Outcome β) : o >>= f = f x := by
  rw [h]
  rfl

theorem map_ok {o : Outcome α} {x : α} (h : o = .ok x) (f : α → β) : f <$> o = .ok (f x) := by
  rw [h]
  rfl

theorem mapM_ok {f : α → Outcome β} {P : β → Prop} {xs : List α}
    (h : ∀ x ∈ xs, ∃ y, f x = .ok y ∧ P y) :
    ∃ ys, xs.mapM f = .ok ys ∧ ys.length = xs.length ∧ ∀ y ∈ ys, P y := by
  induction xs with
  | nil => exact ⟨[], rfl, rfl, fun y hy => nomatch hy⟩
  | cons x xs ih =>
    obtain ⟨y, hy, hP⟩ := h x (.head _)
    obtain ⟨ys, hys, hlen, hall⟩ := ih fun z hz => h z (.tail _ hz)
    refine ⟨y :: ys, ?_, by simp [hlen], List.forall_mem_cons.mpr ⟨hP, hall⟩⟩
    rw [List.mapM_cons, bind_ok hy, bind_ok hys]
    rfl

end Outcome

namespace TextReader

/-- Every text whose normal form is shorter than that is read, and into a phrase. -/
def ReadsBelow (vs : List Variant) (n : Nat) (read : TextReader) : Prop :=
  ∀ text, (Text.normalize text).length < n →
    ∃ o, read text = .ok o ∧ (Value.ofSymbol? o).IsPhrase vs

variable {read : TextReader} {n : Nat}

theorem ReadsBelow.mono {m : Nat} (h : read.ReadsBelow vs n) (hm : m ≤ n) :
    read.ReadsBelow vs m :=
  fun text ht => h text (Nat.lt_of_lt_of_le ht hm)

theorem ReadsBelow.value (h : read.ReadsBelow vs n) {fragment : Option String}
    (hf : ∀ text, fragment = some text → (Text.normalize text).length < n) :
    ∃ v, read.value fragment = .ok v ∧ v.IsPhrase vs := by
  cases fragment with
  | none => exact ⟨.nil, rfl, Value.isPhrase_leaf rfl rfl⟩
  | some text =>
    unfold TextReader.value
    simp only
    split
    · next k _ => exact ⟨.int k, rfl, Value.isPhrase_leaf rfl rfl⟩
    · obtain ⟨o, ho, hphrase⟩ := h text (hf text rfl)
      exact ⟨.ofSymbol? o, Outcome.map_ok ho _, hphrase⟩

end TextReader

/-- Whether a capture passes on only what is shorter than the text. -/
def Capture.shrinks (p : Pattern) : Capture → Bool
  | .lex i => i != 0 && 0 < p.slack i
  | .text _ => true

/-- The normal form of a captured fragment is shorter than the text, if the pattern has slack. -/
theorem Matcher.length_normalize_group_lt {m : Matcher} {text fragment : String}
    {groups : Captures} {i : Nat} (h : m.captures? text = some groups) (hi : i ≠ 0)
    (hslack : 0 < m.pattern.slack i) (hgroup : groups.group? i = some fragment)
    (htext : 'İ' ∉ text.toList) : (Text.normalize fragment).length < text.length := by
  obtain ⟨cs, hcs, rfl⟩ := Option.map_eq_some_iff.mp hgroup
  obtain ⟨hwidth, hsub⟩ := Matcher.group_of_captures? hi h hcs
  have hle : (Text.normalize (String.ofList cs)).length ≤ (String.ofList cs).length := by
    refine Text.length_normalize_le fun hmem => htext (hsub ?_)
    rwa [String.toList_ofList] at hmem
  rw [String.length_ofList] at hle
  omega

namespace Rule

variable {r : Rule} {text : String} {groups : Captures} {read : TextReader}

theorem captures?_of_accept? (h : r.accept? text = some groups) :
    r.inclusion.captures? text = some groups := by
  unfold accept? at h
  split at h
  · cases h
  · next hcaptures =>
    split at h
    · cases h
    · exact hcaptures.trans h

/-- What the rule accepts it builds, given a reader for all that is shorter. -/
def IsSound (vs : List Variant) (r : Rule) : Prop :=
  ∀ text groups read, 'İ' ∉ text.toList → r.accept? text = some groups →
    TextReader.ReadsBelow vs text.length read →
    ∃ o, r.build read groups text = .ok o ∧ (Value.ofSymbol? o).IsPhrase vs

/-- A rule without a constructor is sound if it has a capture for each field and what it passes on
shrinks. -/
def fits (vs : List Variant) (r : Rule) : Bool :=
  r.custom.isNone && vs.contains r.variant && r.captures.length == r.variant.fields.length &&
    r.captures.all (·.shrinks r.inclusion.pattern)

theorem captured_phrase {c : Capture} (hc : c.shrinks r.inclusion.pattern = true)
    (htext : 'İ' ∉ text.toList) (h : r.inclusion.captures? text = some groups)
    (hread : TextReader.ReadsBelow vs text.length read) :
    ∃ v, read.captured groups c = .ok v ∧ v.IsPhrase vs := by
  cases c with
  | lex i =>
    obtain ⟨hi, hslack⟩ : i ≠ 0 ∧ 0 < r.inclusion.pattern.slack i := by
      simpa [Capture.shrinks] using hc
    exact hread.value fun fragment hf =>
      Matcher.length_normalize_group_lt h hi hslack hf htext
  | text i =>
    refine ⟨_, rfl, ?_⟩
    cases groups.group? i with
    | none => exact Value.isPhrase_leaf rfl rfl
    | some g =>
      rw [Option.map_some, Option.getD_some]
      exact Value.isPhrase_ofText (Text.trim g)

theorem isSound_of_fits (h : r.fits vs = true) : r.IsSound vs := by
  obtain ⟨⟨⟨hcustom, hvariant⟩, hlen⟩, hshrinks⟩ : ((r.custom = none ∧ r.variant ∈ vs) ∧
      r.captures.length = r.variant.fields.length) ∧
      ∀ c ∈ r.captures, c.shrinks r.inclusion.pattern = true := by
    simpa [fits] using h
  intro text groups read htext haccept hread
  have hcaptures := captures?_of_accept? haccept
  obtain ⟨args, hargs, hcount, hphrases⟩ := Outcome.mapM_ok fun c hc =>
    captured_phrase (hshrinks c hc) htext hcaptures hread
  obtain ⟨s, hs, hphrase⟩ :=
    Variant.construct_phrase (some text) hvariant (hcount.trans hlen) hphrases
  refine ⟨some s, ?_, hphrase⟩
  have hframe : Outcome.inFrame (r.captures.mapM (read.captured groups)) r.variant.tag =
      .ok args := by
    rw [hargs]
    rfl
  simp only [build, hcustom]
  rw [Outcome.bind_ok hframe]
  exact Outcome.map_ok hs some

end Rule

namespace Lexicon

variable {l : Lexicon}

/-- All rules are sound, and what none accepts is kept in a symbol without fields. -/
structure IsSound (vs : List Variant) (l : Lexicon) : Prop where
  rules : ∀ r ∈ l.rules, r.IsSound vs
  fallback : ∃ v, l.fallback = some v ∧ v ∈ vs ∧ v.fields = []

variable (h : l.IsSound vs)
include h

theorem IsSound.lexNormal {read : TextReader} {text : String} (htext : 'İ' ∉ text.toList)
    (hread : read.ReadsBelow vs text.length) :
    ∃ o, l.lexNormal read text = .ok o ∧ (Value.ofSymbol? o).IsPhrase vs := by
  unfold Lexicon.lexNormal
  cases hfirst : l.firstRule? text with
  | some p =>
    obtain ⟨r, hr, hp⟩ := List.exists_of_findSome?_eq_some hfirst
    obtain ⟨groups, haccept, rfl⟩ := Option.map_eq_some_iff.mp hp
    exact h.rules r hr text groups read htext haccept hread
  | none =>
    obtain ⟨v, hv, hmem, hfields⟩ := h.fallback
    obtain ⟨s, hs, hphrase⟩ := v.terminal_phrase (some text) hmem hfields
    refine ⟨some s, ?_, hphrase⟩
    simp only [hv]
    exact Outcome.map_ok hs some

/-- As deep as the normal text is long is deep enough. -/
theorem IsSound.lexWithin (depth : Nat) : (l.lexWithin depth).ReadsBelow vs depth := by
  induction depth with
  | zero => exact fun text ht => absurd ht (Nat.not_lt_zero _)
  | succ depth ih =>
    -- Every fragment is shorter than this text, so one level less is enough for all of them.
    intro text ht
    unfold Lexicon.lexWithin
    simp only
    split
    · exact ⟨none, rfl, Value.isPhrase_leaf rfl rfl⟩
    · exact h.lexNormal (Text.dottedI_not_mem_normalize text) (ih.mono (Nat.le_of_lt_succ ht))

/-- Every text is read, and into a phrase. -/
theorem IsSound.lex (text : String) :
    ∃ o, l.lex text = .ok o ∧ (Value.ofSymbol? o).IsPhrase vs :=
  h.lexWithin _ text (Nat.lt_add_of_pos_right (by decide))

end Lexicon

namespace Cards

/-- The variants that rules build. -/
def phraseVariants : List Variant := variants.filter (·.shape != .sequence)

theorem imperativeGainRule_sound : imperativeGainRule.IsSound phraseVariants := by
  intro text groups read htext haccept hread
  have hcaptures := Rule.captures?_of_accept? haccept
  have hslack : 0 < imperativeGainRule.inclusion.pattern.slack 1 := by decide +kernel
  obtain ⟨subject, hsubject, hphrase⟩ : ∃ s, currInvestigator.terminal none = .ok s ∧
      (Value.symbol s).IsPhrase phraseVariants := Variant.terminal_phrase none (by decide) rfl
  obtain ⟨resource, hresource, hphrase'⟩ := hread.value fun fragment hf =>
    Matcher.length_normalize_group_lt hcaptures Nat.one_ne_zero hslack hf htext
  have hargs : ∀ a ∈ [.symbol subject, resource], a.IsPhrase phraseVariants := by
    simp [hphrase, hphrase']
  obtain ⟨s, hs, hs'⟩ := Variant.construct_phrase (some text) (by decide : gain ∈ _) rfl hargs
  refine ⟨some s, ?_, hs'⟩
  have hbuild : imperativeGain read groups text = .ok (some s) := by
    rw [imperativeGain, Outcome.bind_ok hsubject, Outcome.bind_ok hresource]
    exact Outcome.map_ok hs some
  rw [Rule.build]
  simp only [imperativeGainRule, hbuild]
  rfl

/-- Only one standard rule is built by hand. -/
theorem eq_imperativeGainRule {r : Rule} {construct : Constructor} (hr : r ∈ lexicon.rules)
    (hc : r.custom = some construct) : r = imperativeGainRule := by
  simp only [lexicon, List.mem_cons, List.not_mem_nil, or_false] at hr
  rcases hr with rfl | rfl | rfl | rfl | rfl | rfl | rfl | rfl | rfl
  all_goals first | (cases hc; done) | rfl

theorem lexicon_sound : lexicon.IsSound phraseVariants where
  rules := by
    have hfits : ∀ r ∈ lexicon.rules, r.custom.isNone → r.fits phraseVariants = true := by
      decide +kernel
    intro r hr
    cases hc : r.custom with
    | none => exact Rule.isSound_of_fits (hfits r hr (by rw [hc]; rfl))
    | some construct =>
      obtain rfl := eq_imperativeGainRule hr hc
      exact imperativeGainRule_sound
  fallback := ⟨text, rfl, by decide, rfl⟩

end Cards

end RulesText
