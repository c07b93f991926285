import RulesText.Proofs.CardTrees
import RulesText.Proofs.Provenance
import RulesText.Proofs.ShortestLead

/-!
Choices: where a card says what someone may do. One line that says so is read as a choice, and who
may choose is read off what stands before the first "may". So an effect, an amount and who may
choose hold no choice, however deep, and what a line hides can only be a condition of the other
kind.
-/
namespace RulesText

/-- Whether the pattern of the rule is for a text of one line. -/
def Rule.isForLines (r : Rule) : Bool :=
  r.inclusion.pattern.startsText && r.inclusion.pattern.endsText &&
    !r.inclusion.pattern.takes '\n'

theorem Rule.newline_not_mem {r : Rule} {text : String} {groups : Captures}
    (hr : r.isForLines = true) (h : r.accept? text = some groups) : '\n' ∉ text.toList := by
  rw [isForLines, Bool.and_eq_true, Bool.and_eq_true, Bool.not_eq_true'] at hr
  obtain ⟨⟨hstart, hend⟩, hnewline⟩ := hr
  obtain ⟨gs, hgs, -⟩ := Option.map_eq_some_iff.mp (captures?_of_accept? h)
  intro hmem
  rw [Pattern.takes_of_search hstart hend hgs _ hmem] at hnewline
  cases hnewline

namespace Cards

variable {cs ds : List Char} {s u w : Symbol} {text : String} {groups : Captures} {k : Nat}
  {way : List Nat}

/-- What divides who may do something from what that is. -/
def mayWord : List Char := [' ', 'm', 'a', 'y', ' ']

theorem mayWord_ne_nil : mayWord ≠ [] := List.cons_ne_nil _ _

/-- A text that says of someone what they may do. -/
def OffersChoice (cs : List Char) : Prop :=
  ∃ who what, cs = who ++ (mayWord ++ what) ∧ who ≠ [] ∧ what ≠ []

theorem OffersChoice.of_isInfix (h : OffersChoice cs) (hpart : cs <:+: ds) : OffersChoice ds := by
  obtain ⟨who, what, rfl, hwho, hwhat⟩ := h
  obtain ⟨before, after, rfl⟩ := hpart
  refine ⟨before ++ who, what ++ after, by simp, ?_, ?_⟩
  · exact List.append_ne_nil_of_right_ne_nil before hwho
  · exact List.append_ne_nil_of_left_ne_nil hwhat after

/-- The characters of a line. -/
def lineChar : CharSet := .compl (.one '\n')

theorem holds_lineChar {c : Char} : lineChar.holds c = true ↔ c ≠ '\n' := by
  rw [lineChar, CharSet.holds, Bool.not_eq_true', Bool.eq_false_iff, ne_eq, Pattern.holds_one]

/-- What the pattern of choices asks for once the word is found: perhaps a price, and an effect up
to the end of the text. -/
def mayTail : Pattern :=
  .cat (.opt true (.cat (.group 2 (.plus 1 false (.char lineChar)))
      (.spell [' ', 't', 'o'] (.char (.one ' ')))))
    (.cat (.group 3 (.plus 2 false (.char lineChar)))
      (.cat (.opt true (.char (.one '.'))) (.edge .textEnd)))

theorem pattern_mayRule :
    mayRule.inclusion.pattern = .leading 1 0 lineChar mayWord mayTail := by decide +kernel

/-- Whatever is left of a line can be an effect. -/
theorem run_mayTail {s : Spot} (hs : s.marks = []) (hne : s.rest ≠ []) (hline : '\n' ∉ s.rest) :
    mayTail.run Pattern.wholeMatch s ≠ none := by
  intro hnone
  rw [mayTail, Pattern.run, Pattern.run] at hnone
  obtain ⟨-, hrest⟩ := Pattern.prefer_eq_none hnone
  have hstop := Pattern.runPlus_char_eq_none (by simp [hs]) (Nat.le_refl _) hrest
    (List.append_nil _).symm hne fun c hc => holds_lineChar.mpr fun he => hline (he ▸ hc)
  cases hstop

theorem of_run_mayTail {s : Spot} {goal : Goal} {gs : Groups}
    (h : mayTail.run goal s = some gs) : s.rest ≠ [] := by
  obtain ⟨t, hway, -⟩ := mayTail.finds _ _ _ h
  have hslack : mayTail.slack 0 = 1 := rfl
  have hadv : s.Advances 0 (mayTail.slack 0) t := hway.advances
  have htakes := hadv.takes
  have hrest := hadv.conserved
  intro hnil
  rw [hnil, List.length_nil] at hrest
  omega

theorem captures?_mayRule : mayRule.accept? text = mayRule.inclusion.captures? text := by
  unfold Rule.accept?
  cases mayRule.inclusion.captures? text <;> rfl

/-- A line that offers a choice is read as one. -/
theorem accept?_mayRule_ne_none (hline : '\n' ∉ text.toList) (h : OffersChoice text.toList) :
    mayRule.accept? text ≠ none := by
  obtain ⟨who, what, htext, hwho, hwhat⟩ := h
  intro hnone
  rw [captures?_mayRule, Matcher.captures?, Option.map_eq_none_iff, pattern_mayRule, htext] at hnone
  rw [htext, List.mem_append, not_or, List.mem_append, not_or] at hline
  obtain ⟨hline, -, hline'⟩ := hline
  have hset : ∀ c ∈ who, lineChar.holds c = true :=
    fun c hc => holds_lineChar.mpr fun he => hline (he ▸ hc)
  have htail := Pattern.leading_eq_none mayWord_ne_nil hnone hwho hset
  exact run_mayTail rfl hwhat hline' htail

/-- Who may choose is told before the first word of choice. -/
theorem who_of_accept?_mayRule (h : mayRule.accept? text = some groups) :
    OffersChoice text.toList ∧
      ∃ who, groups.group? 1 = some who ∧ ¬ OffersChoice who.toList := by
  have hline : '\n' ∉ text.toList := mayRule.newline_not_mem (by decide +kernel) h
  rw [captures?_mayRule] at h
  obtain ⟨gs, hgs, rfl⟩ := Option.map_eq_some_iff.mp h
  rw [pattern_mayRule] at hgs
  obtain ⟨who, what, htext, hwho, hspan, hrun, hfirst⟩ :=
    Pattern.leading_eq_some mayWord_ne_nil Nat.one_ne_zero (by decide) hgs
  refine ⟨⟨who, what, htext, hwho, of_run_mayTail hrun⟩, String.ofList who, ?_, ?_⟩
  · simp [Captures.group?, Captures.chars?, hspan, htext]
  · rw [String.toList_ofList]
    rintro ⟨who', what', hsplit, hwho', -⟩
    -- An earlier word of choice would have been found first.
    have hearlier : text.toList = who' ++ (mayWord ++ (what' ++ (mayWord ++ what))) := by
      rw [htext, hsplit]
      simp
    have hshorter : who'.length < who.length := by
      have := List.length_pos_iff.mpr mayWord_ne_nil
      rw [hsplit, List.length_append, List.length_append]
      omega
    refine run_mayTail rfl ?_ ?_ (hfirst who' _ hearlier hwho' hshorter)
    · refine List.append_ne_nil_of_right_ne_nil what' ?_
      exact List.append_ne_nil_of_left_ne_nil mayWord_ne_nil what
    · intro hmem
      refine hline ?_
      rw [hearlier, List.mem_append, List.mem_append]
      exact .inr (.inr hmem)

/-- The investigator who gains what a card tells to gain. -/
def unnamed : Symbol := ⟨currInvestigator, [], none, []⟩

theorem of_build_imperativeGainRule {read : TextReader}
    (h : imperativeGainRule.build read groups text = .ok (some s)) :
    s.variant = gain ∧ s.text = some text ∧ ∀ k v, (Value.symbol s).inner? k = some v →
      v = .symbol unnamed ∨ read.captured groups (.lex 1) = .ok v := by
  obtain ⟨subject, hsubject, h⟩ := Outcome.of_bind_ok (Outcome.of_inFrame_ok h)
  obtain ⟨resource, hresource, h⟩ := Outcome.of_bind_ok h
  obtain ⟨s', hs, h⟩ := Outcome.of_map_ok h
  obtain rfl := Option.some.inj h
  obtain rfl : subject = unnamed := Variant.of_construct_ok hsubject
  refine ⟨by rw [Variant.of_construct_ok hs], by rw [Variant.of_construct_ok hs], fun k v hv => ?_⟩
  have hk := Variant.inner?_construct hs hv
  match k with
  | 0 => exact .inl (Option.some.inj hk).symm
  | 1 =>
    obtain rfl := Option.some.inj hk
    exact .inr hresource
  | k + 2 => cases hk

theorem lexicon_traces : lexicon.Traces (· = unnamed) where
  rereads := fun text s h => (congrFun lexicon_descends.lex_eq_readWith text).symm.trans h
  rules := by
    intro r hr text groups s haccept h
    cases hc : r.custom with
    | none => exact Rule.isTraced hc haccept h
    | some construct =>
      obtain rfl := eq_imperativeGainRule hr hc
      obtain ⟨-, htext, hfields⟩ := of_build_imperativeGainRule h
      refine ⟨htext, fun k v hv => ?_⟩
      rcases hfields k v hv with rfl | hcaptured
      · exact .inr ⟨unnamed, rfl, .inl rfl⟩
      · exact (Rule.traced_of_captured haccept hcaptured).imp_right
          fun ⟨u, hu, hread⟩ => ⟨u, hu, .inr hread⟩
  made := by
    rintro u rfl
    rfl

/-- A symbol is built by a rule of its variant, or it is text that no rule accepts. -/
theorem rule_of_lex (h : lexicon.lex text = .ok (some s)) :
    (∃ r groups, lexicon.firstRule? (Text.normalize text) = some (r, groups) ∧
      r.build lexicon.lex groups (Text.normalize text) = .ok (some s) ∧ s.variant = r.variant) ∨
    s.variant = Cards.text ∧ s.payload = [] := by
  obtain ⟨-, ⟨r, groups, hfirst, hbuild⟩ | ⟨v, hv, hs⟩⟩ :=
    Lexicon.of_readWith_ok (lexicon_traces.rereads text s h)
  · refine .inl ⟨r, groups, hfirst, hbuild, ?_⟩
    cases hc : r.custom with
    | none => exact (Rule.of_build_ok hc hbuild).1
    | some construct =>
      obtain rfl := eq_imperativeGainRule (Lexicon.firstRule?_eq_some hfirst).1 hc
      exact (of_build_imperativeGainRule hbuild).1
  · obtain rfl := Option.some.inj hv
    rw [Variant.of_construct_ok hs]
    exact .inr ⟨rfl, rfl⟩

theorem eq_mayRule {r : Rule} (hr : r ∈ lexicon.rules) (hv : r.variant = may) : r = mayRule := by
  simp only [lexicon, List.mem_cons, List.not_mem_nil, or_false] at hr
  rcases hr with rfl | rfl | rfl | rfl | rfl | rfl | rfl | rfl | rfl
  case inr.inr.inl => rfl
  all_goals exact absurd hv (by decide)

theorem mayRule_of_lex (h : lexicon.lex text = .ok (some s)) (hs : s.variant = may) :
    ∃ groups, mayRule.accept? (Text.normalize text) = some groups ∧
      mayRule.build lexicon.lex groups (Text.normalize text) = .ok (some s) := by
  rcases rule_of_lex h with ⟨r, groups, hfirst, hbuild, hr⟩ | ⟨htext, -⟩
  · obtain ⟨hmem, haccept⟩ := Lexicon.firstRule?_eq_some hfirst
    obtain rfl := eq_mayRule hmem (hr.symm.trans hs)
    exact ⟨groups, haccept, hbuild⟩
  · rw [htext] at hs
    exact absurd hs (by decide)

/-- Effects and amounts are read only if there is no choice to be read. -/
theorem accept?_mayRule_eq_none {r : Rule} (h : lexicon.firstRule? text = some (r, groups))
    (hr : r.variant = gain ∨ r.variant = quantity) : mayRule.accept? text = none := by
  let early : List Rule := [noOpRule, whileResolvingRule, mayRule]
  let late : List Rule := [imperativeGainRule, gainRule, quantityRule, skillRule,
    currInvestigatorRule, spellEffectsRule]
  have hrules : lexicon.rules = early ++ late := rfl
  have hother : ∀ r ∈ early, ¬ (r.variant = gain ∨ r.variant = quantity) := by decide
  rw [Lexicon.firstRule?, hrules, List.findSome?_append, Option.or_eq_some_iff] at h
  rcases h with h | ⟨h, -⟩
  · exact absurd hr (hother r (Lexicon.firstRule?_eq_some (l := ⟨early, none⟩) h).1)
  · exact Option.map_eq_none_iff.mp (List.findSome?_eq_none_iff.mp h mayRule (by simp [early]))

/-- A text that is read as an effect or an amount offers no choice. -/
theorem not_offersChoice_of_lex (h : lexicon.lex text = .ok (some s))
    (hs : s.variant = gain ∨ s.variant = quantity) :
    ¬ OffersChoice (Text.normalize text).toList := by
  rcases rule_of_lex h with ⟨r, groups, hfirst, -, hr⟩ | ⟨htext, -⟩
  · have hlines : ∀ r ∈ lexicon.rules, r.variant = gain ∨ r.variant = quantity →
        r.isForLines = true := by decide +kernel
    rw [hr] at hs
    obtain ⟨hmem, haccept⟩ := Lexicon.firstRule?_eq_some hfirst
    have hline := Rule.newline_not_mem (hlines r hmem hs) haccept
    intro hoffers
    exact accept?_mayRule_ne_none hline hoffers (accept?_mayRule_eq_none hfirst hs)
  · rw [htext] at hs
    exact absurd hs (by decide)

/-- Where no choice is offered, none is read. -/
theorem ne_may_of_inside (h : lexicon.lex text = .ok (some s))
    (hn : ¬ OffersChoice (Text.normalize text).toList)
    (hw : (Value.symbol s).inside? way = some (.symbol w)) : w.variant ≠ may := by
  rcases lexicon_traces.inside h hw with rfl | ⟨fragment, hpart, hlex⟩
  · decide
  · intro hv
    obtain ⟨groups, haccept, -⟩ := mayRule_of_lex hlex hv
    exact hn ((who_of_accept?_mayRule haccept).1.of_isInfix hpart)

/-- Who may choose holds no choice. -/
theorem ne_may_of_inside_who (h : lexicon.lex text = .ok (some s)) (hs : s.variant = may)
    (hw : (Value.symbol s).inside? (0 :: way) = some (.symbol w)) : w.variant ≠ may := by
  obtain ⟨groups, haccept, hbuild⟩ := mayRule_of_lex h hs
  obtain ⟨v, hv, hw⟩ := Value.inside?_cons.mp hw
  obtain ⟨c, hc, hcaptured⟩ := (Rule.of_build_ok rfl hbuild).2.2 0 v hv
  obtain rfl : .lex 1 = c := Option.some.inj hc
  rcases TextReader.captured_cases hcaptured with hleaf | ⟨i, who, u, hi, hgroup, hread, rfl⟩
  · exact absurd hw (hleaf.inside?_ne way)
  · obtain rfl := Capture.lex.inj hi
    obtain ⟨-, who', hgroup', hn⟩ := who_of_accept?_mayRule haccept
    obtain rfl := Option.some.inj (hgroup.symm.trans hgroup')
    refine ne_may_of_inside hread (fun hoffers => hn (hoffers.of_isInfix ?_)) hw
    rw [Text.normalize_of_isInfix (Rule.isInfix_group? haccept hgroup), Text.toList_trim]
    exact Text.isInfix_trimChars _

/-- Rules for anything but conditions read no fragment, or they build an effect or an amount. -/
theorem rules_of_plain : ∀ r ∈ lexicon.rules, r.variant.shape ≠ .condition →
    (r.custom.isNone ∧ ∀ c ∈ r.captures, c.read? = none) ∨ r.variant = gain ∨
      r.variant = quantity := by
  decide

/-- A symbol other than a condition holds no choice. -/
theorem ne_may_of_inside_plain (h : lexicon.lex text = .ok (some s)) (hs : s.shape ≠ .condition)
    (hw : (Value.symbol s).inside? (k :: way) = some (.symbol w)) : w.variant ≠ may := by
  obtain ⟨v, hv, hinner⟩ := Value.inside?_cons.mp hw
  rcases rule_of_lex h with ⟨r, groups, hfirst, hbuild, hr⟩ | ⟨-, hpayload⟩
  · have hmem := (Lexicon.firstRule?_eq_some hfirst).1
    rw [Symbol.shape, hr] at hs
    rcases rules_of_plain r hmem hs with ⟨hcustom, hcaptures⟩ | hvariant
    · obtain ⟨c, hc, hcaptured⟩ :=
        (Rule.of_build_ok (Option.isNone_iff_eq_none.mp hcustom) hbuild).2.2 k v hv
      have hread := hcaptures c (List.mem_of_getElem? hc)
      rcases TextReader.captured_cases hcaptured with hleaf | ⟨i, _, _, rfl, -⟩
      · exact absurd hinner (hleaf.inside?_ne way)
      · cases hread
    · exact ne_may_of_inside h (not_offersChoice_of_lex h (hr ▸ hvariant)) hw
  · obtain ⟨name, hk⟩ := Value.inner?_symbol.mp hv
    rw [hpayload] at hk
    cases hk

/-- No choice and no sequence stands anywhere inside. -/
def HoldsNoChoice (v : Value) : Prop :=
  ∀ way w, v.inside? way = some (.symbol w) → w.tag ≠ may.tag ∧ w.tag ≠ seq.tag

theorem tag_inj : ∀ v ∈ variants, ∀ v' ∈ variants, v.tag = v'.tag → v = v' := by decide

theorem phrase_of_lex (h : lexicon.lex text = .ok (some s)) :
    (Value.symbol s).IsPhrase phraseVariants :=
  IsReading.isPhrase (.inr ⟨text, s, h, rfl⟩)

theorem holdsNoChoice_of_lex {v : Value} (h : lexicon.lex text = .ok (some s))
    (hv : (Value.symbol s).inner? k = some v)
    (hmay : ∀ way w, (Value.symbol s).inside? (k :: way) = some (.symbol w) → w.variant ≠ may) :
    HoldsNoChoice v := by
  intro way w hw
  have hw := Value.inside?_cons.mpr ⟨v, hv, hw⟩
  obtain ⟨hvariant, hseq⟩ :=
    phraseVariants_subset _ ((phrase_of_lex h _ _ hw).2 w rfl).variant
  refine ⟨fun htag => hmay way w hw ?_, hseq⟩
  exact tag_inj _ hvariant may (by decide) htag

theorem payload_of_declared {vs : List Variant} (hs : s.IsDeclared vs) :
    ∃ values, values.length = s.variant.fields.length ∧
      s.payload = s.variant.fields.zip values := by
  refine ⟨s.payload.map Prod.snd, by rw [← hs.names, List.length_map, List.length_map], ?_⟩
  rw [← hs.names, ← List.unzip_fst, ← List.unzip_snd, List.zip_unzip]

/-- A choice holds who may choose, what has to be met and what follows. -/
theorem payload_may (hs : s.IsDeclared phraseVariants) (hv : s.variant = may) :
    ∃ who condition result, s.payload =
      [(subjectField, who), (conditionField, condition), (resultField, result)] := by
  obtain ⟨values, hlen, hpayload⟩ := payload_of_declared hs
  rw [hv] at hlen hpayload
  obtain ⟨who, condition, result, rfl⟩ := List.length_eq_three.mp hlen
  exact ⟨who, condition, result, hpayload⟩

theorem payload_whileResolving (hs : s.IsDeclared phraseVariants)
    (hv : s.variant = whileResolving) :
    ∃ condition result,
      s.payload = [(conditionField, condition), (resultField, result)] := by
  obtain ⟨values, hlen, hpayload⟩ := payload_of_declared hs
  rw [hv] at hlen hpayload
  obtain ⟨condition, result, rfl⟩ := List.length_eq_two.mp hlen
  exact ⟨condition, result, hpayload⟩

/-- The head of a condition holds nothing, that of a choice who may choose. -/
theorem inside_head {v : Value} (hs : s.IsDeclared phraseVariants)
    (hv : s.variant = may ∨ s.variant = whileResolving)
    (h : (Value.symbol s.head).inside? (k :: way) = some v) :
    s.variant = may ∧ (Value.symbol s).inside? (0 :: way) = some v := by
  rcases hv with hv | hv
  · obtain ⟨who, condition, result, hp⟩ := payload_may hs hv
    refine ⟨hv, ?_⟩
    obtain ⟨variant, payload, text, stripped⟩ := s
    obtain rfl : payload = _ := hp
    cases k with
    | zero => exact h
    | succ k => cases h
  · obtain ⟨condition, result, hp⟩ := payload_whileResolving hs hv
    obtain ⟨variant, payload, text, stripped⟩ := s
    obtain rfl : payload = _ := hp
    cases h

variable {v : Value}

/-- The symbols of a tree, sequences apart: they have been read, stand for the investigator who is
not named, or are the condition at the root. -/
theorem IsLogic.symbol_cases (h : IsLogic v) (hu : v.inside? way = some (.symbol u))
    (hs : u.shape ≠ .sequence) :
    (∃ text, lexicon.lex text = .ok (some u)) ∨ u = unnamed ∨
      u.IsDeclared phraseVariants ∧ u.variant = whileResolving := by
  rcases h.inside_reading hu with
    ⟨r, inner, hr, hu⟩ | ⟨condition, items, text, he⟩ | ⟨items, he, -⟩ | ⟨_, _, he, -⟩
  · rcases hr with hleaf | ⟨text, s, hlex, rfl⟩
    · exact absurd hu (hleaf.inside?_ne inner)
    · rcases lexicon_traces.inside hlex hu with rfl | ⟨fragment, -, hfragment⟩
      · exact .inr (.inl rfl)
      · exact .inl ⟨fragment, hfragment⟩
  · obtain rfl := Value.symbol.inj he
    exact .inr (.inr ⟨isPlain_resolving.2 _ rfl, rfl⟩)
  · obtain rfl := Value.symbol.inj he
    exact absurd rfl hs
  · cases he

theorem IsLogic.payload_holdsNoChoice (h : IsLogic v) (hu : v.inside? way = some (.symbol u))
    (htag : u.tag = gain.tag ∨ u.tag = quantity.tag) :
    ∀ field ∈ u.payload, HoldsNoChoice field.2 := by
  have hdeclared := h.wellPlaced.declared way u hu
  have hvariant : u.variant = gain ∨ u.variant = quantity :=
    htag.imp (tag_inj _ hdeclared.variant gain (by decide))
      (tag_inj _ hdeclared.variant quantity (by decide))
  have hplain : u.shape = .plain := by
    rcases hvariant with hv | hv <;> rw [Symbol.shape, hv] <;> rfl
  rcases h.symbol_cases hu (by simp [hplain]) with ⟨text, hlex⟩ | rfl | ⟨-, hv⟩
  · refine Value.forall_inner_symbol.mp fun k value hvalue => ?_
    refine holdsNoChoice_of_lex hlex hvalue fun inner w hw => ?_
    exact ne_may_of_inside_plain hlex (by simp [hplain]) hw
  · exact absurd htag (by decide)
  · rw [hv] at hvariant
    exact absurd hvariant (by decide)

theorem IsLogic.subject_holdsNoChoice (h : IsLogic v) (hu : v.inside? way = some (.symbol u))
    (htag : u.tag = may.tag) : HoldsNoChoice (u.getD subjectField) := by
  have hdeclared := h.wellPlaced.declared way u hu
  have hvariant : u.variant = may := tag_inj _ hdeclared.variant may (by decide) htag
  have hcondition : u.shape = .condition := by rw [Symbol.shape, hvariant]; rfl
  rcases h.symbol_cases hu (by simp [hcondition]) with ⟨text, hlex⟩ | rfl | ⟨-, hv⟩
  · obtain ⟨who, condition, result, hp⟩ :=
      payload_may ((phrase_of_lex hlex [] _ rfl).2 u rfl) hvariant
    have hwho : (Value.symbol u).inner? 0 = some who :=
      Value.inner?_symbol.mpr ⟨subjectField, by rw [hp]; rfl⟩
    have hget : u.getD subjectField = who := by
      rw [Symbol.getD, Symbol.get?, hp]
      rfl
    rw [hget]
    exact holdsNoChoice_of_lex hlex hwho fun inner w hw => ne_may_of_inside_who hlex hvariant hw
  · exact absurd htag (by decide)
  · rw [hv] at hvariant
    exact absurd hvariant (by decide)

theorem conditions_of_phrases : ∀ v ∈ phraseVariants,
    (v.shape = .condition ∨ v.tag = may.tag → v = may ∨ v = whileResolving) ∧
    (v.shape = .sequence ∨ v.shape = .condition → v ≠ may → v = whileResolving) := by
  decide

/-- A node that is written without its branches is a choice or waits for something to be
resolved. -/
theorem variant_of_hasBranches (hs : s.IsDeclared phraseVariants)
    (hb : s.hasBranches layout.handles = true) : s.variant = may ∨ s.variant = whileResolving := by
  refine (conditions_of_phrases _ hs.variant).1 ?_
  rw [Symbol.hasBranches, Bool.or_eq_true, Bool.and_eq_true, beq_iff_eq] at hb
  exact hb.imp_right fun hplain => Layout.isStandard_cards.tag_of_handles hplain.2

/-- No line of a tree hides a choice. -/
theorem IsLogic.compound_of_line {policy : Policy} {indent : Int} {line : Line} {t : Symbol}
    (h : IsLogic v) (hl : line ∈ v.lines layout.handles policy indent) (ht : line.symbol? = some t)
    (hw : (Value.symbol t).inside? (k :: way) = some (.symbol w)) (hc : w.shape.IsCompound) :
    w.variant = whileResolving := by
  obtain ⟨outer, u, hu, hshape, rfl⟩ := Value.node_of_line hl ht
  rcases h.symbol_cases hu hshape with ⟨text, hlex⟩ | rfl | ⟨hdeclared, hv⟩
  · have hphrase := phrase_of_lex hlex
    have hresolving : ∀ j, (Value.symbol u).inside? (j :: way) = some (.symbol w) →
        w.variant ≠ may → w.variant = whileResolving := by
      intro j hw hmay
      exact (conditions_of_phrases _ ((hphrase _ _ hw).2 w rfl).variant).2 hc hmay
    split at hw
    · next hb =>
      have hdeclared := (hphrase [] _ rfl).2 u rfl
      obtain ⟨hmay, hw⟩ := inside_head hdeclared (variant_of_hasBranches hdeclared hb) hw
      exact hresolving 0 hw (ne_may_of_inside_who hlex hmay hw)
    · next hb =>
      have hcondition : u.shape ≠ .condition := by
        intro hs
        simp [Symbol.hasBranches, hs] at hb
      exact hresolving k hw (ne_may_of_inside_plain hlex hcondition hw)
  · -- The investigator who is not named has no payload, with or without branches.
    split at hw <;> cases hw
  · have hb : u.hasBranches layout.handles = true := by
      rw [Symbol.hasBranches, Symbol.shape, hv]
      rfl
    rw [if_pos hb] at hw
    obtain ⟨hmay, -⟩ := inside_head hdeclared (.inr hv) hw
    rw [hv] at hmay
    exact absurd hmay (by decide)

/-- A tree that cannot be written out is told to hide the condition of resolving something. -/
theorem IsLogic.cause_of_flatten {policy : Policy} {tree : Tree} {fault : Fault}
    (h : IsLogic (.ofSymbol? tree.logic)) (he : layout.flatten tree policy = .error fault) :
    ∃ i line s field, (tree.lines layout.handles policy)[i]? = some line ∧
      line.symbol? = some s ∧
      fault.cause = .nonFlat ((Offence.nested field s.tag whileResolving.tag).describe i) := by
  obtain ⟨i, line, s, field, inner, hi, hs, hnested, hcause⟩ :=
    Layout.isStandard_cards.flatten_eq_error h.fault?_eq_none he
  obtain ⟨k, way, t, ht, hc, htag⟩ := Symbol.nestedField?_eq_some hnested
  have hvariant := h.compound_of_line (List.mem_of_getElem? hi) hs ht hc
  rw [Symbol.tag, hvariant] at htag
  exact ⟨i, line, s, field, hi, hs, htag ▸ hcause⟩

end Cards

namespace Grammar

theorem process_of_parse {g : Grammar} {text : CardText} {source : String} {policy : Policy}
    {tree : Tree} (h : g.parse text source = .ok tree) :
    g.process text source policy = (g.layout.flatten tree policy).map (tree, ·) := by
  rw [process, Outcome.bind_ok h]
  rfl

/-- In the tree of a card no effect, no amount and no one who may choose holds a choice or a
sequence, however deep. So what the lines of a card hide are conditions of resolving something, and
a card that fails is told to hide one. -/
theorem standard_hides_no_choice (text : CardText) (source : String) :
    ∃ logic, standard.parse text source = .ok ⟨text, source, logic⟩ ∧
      (∀ way u, (Value.ofSymbol? logic).inside? way = some (.symbol u) →
        (u.tag = Cards.gain.tag ∨ u.tag = Cards.quantity.tag →
          ∀ field ∈ u.payload, Cards.HoldsNoChoice field.2) ∧
        (u.tag = Cards.may.tag → Cards.HoldsNoChoice (u.getD Cards.subjectField))) ∧
      ∀ policy,
        let written := (Cards.layout.emit ⟨text, source, logic⟩ policy).2.sink.finish
        (∀ line ∈ written, ∀ s, line.symbol? = some s → ∀ k way t,
          (Value.symbol s).inside? (k :: way) = some (.symbol t) → t.shape.IsCompound →
            t.variant = Cards.whileResolving) ∧
        ∀ fault, standard.process text source policy = .error fault →
          ∃ i line s field, written[i]? = some line ∧ line.symbol? = some s ∧
            fault.cause =
              .nonFlat ((Offence.nested field s.tag Cards.whileResolving.tag).describe i) := by
  obtain ⟨logic, hlogic, hshape⟩ := Cards.dispatch_logic text source
  have hparse : standard.parse text source = .ok ⟨text, source, logic⟩ := by
    change Cards.casebook.build text source = _
    rw [Casebook.build, hlogic]
  refine ⟨logic, hparse, fun way u hu => ?_, fun policy => ?_⟩
  · exact ⟨hshape.payload_holdsNoChoice hu, hshape.subject_holdsNoChoice hu⟩
  · intro written
    have hwritten : written = Tree.lines Cards.layout.handles policy ⟨text, source, logic⟩ :=
      Layout.isStandard_cards.finish_emit hshape.fault?_eq_none
    rw [hwritten]
    refine ⟨fun line hl s hs k way t ht hc => hshape.compound_of_line hl hs ht hc, ?_⟩
    intro fault he
    rw [process_of_parse hparse] at he
    refine Cards.IsLogic.cause_of_flatten hshape ?_
    cases hflatten : standard.layout.flatten ⟨text, source, logic⟩ policy with
    | error f =>
      rw [hflatten] at he
      exact hflatten.trans (congrArg _ (Except.error.inj he))
    | ok q =>
      rw [hflatten] at he
      cases he

end Grammar

end RulesText
