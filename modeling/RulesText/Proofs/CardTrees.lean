import RulesText.Cards.Grammar
import RulesText.Proofs.Flatness
import RulesText.Proofs.Reading

/-!
Card trees: what the standard cases make of the phrases that the standard rules read. Every card has
one, and its sequence can only fail on what a line hides.
-/
namespace RulesText

variable {choice : String → Bool} {policy : Policy}

namespace Value

variable {vs : List Variant} {s : Symbol}

theorem IsPhrase.getD (h : (Value.symbol s).IsPhrase vs) (name : String) :
    (s.getD name).IsPhrase vs := by
  have hfields : ∀ field ∈ s.payload, field.2.IsPhrase vs :=
    forall_inner_symbol.mp fun k w hw way u hu => h (k :: way) u (inside?_cons.mpr ⟨w, hw, hu⟩)
  unfold Symbol.getD Symbol.get? Payload.get?
  cases hg : s.payload.lookup name with
  | none => exact isPhrase_leaf rfl rfl
  | some w =>
    obtain ⟨before, after, hp, -⟩ := List.lookup_eq_some_iff.mp hg
    exact hfields (name, w) (by simp [hp])

theorem IsPhrase.children (h : (Value.symbol s).IsPhrase vs) : s.children = [] := by
  refine List.eq_nil_iff_forall_not_mem.mpr fun w hw => ?_
  obtain ⟨items, hitems, -⟩ := Symbol.mem_children hw
  have hlist := (h.getD symbolsField [] _ rfl).1
  rw [hitems] at hlist
  cases hlist

/-- In a phrase every node position holds a node or nothing. -/
theorem IsPhrase.fault?_eq_none {v : Value} (h : v.IsPhrase vs) :
    (v.outline choice).fault? policy = none := by
  induction v using Value.node_induction with
  | leaf v hv =>
    cases v with
    | symbol s => cases hv
    | list items => cases (h [] _ rfl).1
    | _ => rfl
  | node s ih _ =>
    have hfield := fun name => ih name (h.getD name)
    rw [Value.outline, Symbol.outline_eq, h.children]
    split
    · rfl
    · rfl
    · cases policy <;> simp [Outline.fault?, hfield]
    · cases policy <;> simp [Outline.fault?, hfield]
    · cases policy <;> simp [Outline.fault?, hfield]
    · rfl

end Value

namespace Cards

/-- The patterns of the standard rules and cases, and of texts that say nothing, can all be read: no
standard matcher is one that matches nothing because of how it is written. -/
theorem compile_standard_matchers :
    (∀ r ∈ lexicon.rules, ∀ m ∈ r.inclusion :: r.exclusions,
      Matcher.compile m.source = .ok m) ∧
    (∀ c ∈ casebook.patterns, Matcher.compile c.1.source = .ok c.1) ∧
    Matcher.compile notApplicable.source = .ok notApplicable := by
  refine ⟨?_, ?_, ?_⟩
  · simp only [lexicon, noOpRule, whileResolvingRule, mayRule, imperativeGainRule, gainRule,
      quantityRule, skillRule, currInvestigatorRule, spellEffectsRule, List.forall_mem_cons,
      List.not_mem_nil, false_imp_iff, implies_true, and_true]
    refine ⟨?_, ?_, ?_, ?_, ⟨?_, ?_⟩, ?_, ?_, ?_, ?_⟩
    all_goals exact Matcher.compile_ofSource (by decide +kernel)
  · intro c hc
    obtain rfl := List.mem_singleton.mp hc
    exact Matcher.compile_ofSource (by decide +kernel)
  · exact Matcher.compile_ofSource (by decide +kernel)

/-- A sequence of these values. -/
def block (items : List Value) : Symbol := ⟨seq, [(symbolsField, .list items)], none, []⟩

/-- A sequence that is carried out while a condition holds. -/
def resolving (condition : Value) (items : List Value) (text : Option String) : Symbol :=
  ⟨whileResolving, [(conditionField, condition), (resultField, .symbol (block items))], text, []⟩

/-- What the standard rules make of a text or a fragment. -/
def IsReading (v : Value) : Prop :=
  v.IsLeaf ∨ ∃ text s, lexicon.lex text = .ok (some s) ∧ v = .symbol s

theorem IsReading.isPhrase {v : Value} (h : IsReading v) : v.IsPhrase phraseVariants := by
  rcases h with ⟨hlist, hsymbol⟩ | ⟨text, s, hs, rfl⟩
  · exact Value.isPhrase_leaf hlist hsymbol
  · obtain ⟨o, ho, hphrase⟩ := lexicon_sound.lex text
    obtain rfl := Except.ok.inj (hs.symm.trans ho)
    exact hphrase

theorem lex_reading (text : String) :
    ∃ o, lexicon.lex text = .ok o ∧ IsReading (.ofSymbol? o) := by
  obtain ⟨o, ho, -⟩ := lexicon_sound.lex text
  refine ⟨o, ho, ?_⟩
  cases o with
  | none => exact .inl ⟨rfl, rfl⟩
  | some s => exact .inr ⟨text, s, ho, rfl⟩

theorem lexValue_reading (fragment : Option String) :
    ∃ v, lexicon.lexValue fragment = .ok v ∧ IsReading v := by
  cases fragment with
  | none => exact ⟨.nil, rfl, .inl ⟨rfl, rfl⟩⟩
  | some text =>
    unfold Lexicon.lexValue TextReader.value
    simp only
    split
    · next n _ => exact ⟨.int n, rfl, .inl ⟨rfl, rfl⟩⟩
    · obtain ⟨o, ho, hreading⟩ := lex_reading text
      exact ⟨.ofSymbol? o, Outcome.map_ok ho _, hreading⟩

/-- What the standard cases build: a reading, a sequence of readings, or such a sequence under a
condition. -/
inductive IsLogic : Value → Prop where
  | ofReading {v : Value} (h : IsReading v) : IsLogic v
  | ofBlock {items : List Value} (h : ∀ v ∈ items, IsReading v) : IsLogic (.symbol (block items))
  | ofResolving {condition : Value} {items : List Value} {text : Option String}
    (hc : IsReading condition) (h : ∀ v ∈ items, IsReading v) :
    IsLogic (.symbol (resolving condition items text))

theorem sequence_block (texts : List String) :
    ∃ items, sequence lexicon texts = .ok (some (block items)) ∧ ∀ v ∈ items, IsReading v := by
  obtain ⟨os, hos, -, hreadings⟩ := Outcome.mapM_ok fun text (_ : text ∈ texts) => lex_reading text
  have hss : lexicon.lexAll texts = .ok (os.filterMap id) := Outcome.bind_ok hos _
  refine ⟨(os.filterMap id).map .symbol, Outcome.bind_ok hss _, fun v hv => ?_⟩
  obtain ⟨s, hs, rfl⟩ := List.mem_map.mp hv
  exact hreadings (some s) (by simpa using hs)

theorem lineByLine_logic (texts : List String) :
    ∃ o, lineByLine lexicon texts = .ok o ∧ IsLogic (.ofSymbol? o) := by
  unfold lineByLine
  split
  · next text =>
    obtain ⟨o, ho, hreading⟩ := lex_reading text
    exact ⟨o, ho, .ofReading hreading⟩
  · obtain ⟨items, hitems, hreadings⟩ := sequence_block _
    exact ⟨some (block items), hitems, .ofBlock hreadings⟩

theorem oneClause_logic (texts : List String) :
    ∃ o, oneClause lexicon texts = .ok o ∧ IsLogic (.ofSymbol? o) := by
  obtain ⟨o, ho, hreading⟩ := lex_reading (" ".intercalate texts)
  exact ⟨o, ho, .ofReading hreading⟩

theorem whileResolvingLines_logic (texts : List String) (groups : Captures) :
    ∃ o, whileResolvingLines lexicon texts groups = .ok o ∧ IsLogic (.ofSymbol? o) := by
  obtain ⟨condition, hcondition, hreading⟩ := lexValue_reading (groups.group? 1)
  obtain ⟨items, hitems, hreadings⟩ := sequence_block ((groups.group? 2).getD "" :: texts.drop 1)
  refine ⟨some (resolving condition items (some (Text.normalize (" ".intercalate texts)))), ?_,
    .ofResolving hreading hreadings⟩
  rw [whileResolvingLines, Outcome.bind_ok hcondition, Outcome.bind_ok hitems]
  rfl

/-- Every card text is covered by a case. -/
theorem dispatch_logic (text : CardText) (source : String) :
    ∃ o, casebook.dispatch text source = .ok o ∧ IsLogic (.ofSymbol? o) := by
  unfold Casebook.dispatch
  split
  · exact ⟨none, rfl, .ofReading (.inl ⟨rfl, rfl⟩)⟩
  · split
    · next logic hsource =>
      obtain ⟨before, after, hsources, -⟩ := List.lookup_eq_some_iff.mp hsource
      have hmem : (source, logic) ∈ casebook.sources := by simp [hsources]
      obtain ⟨-, rfl⟩ := Prod.mk.inj (List.mem_singleton.mp hmem)
      exact oneClause_logic _
    · split
      · next logic groups hpattern =>
        obtain ⟨first, -, hcase⟩ := Option.bind_eq_some_iff.mp hpattern
        obtain ⟨p, hmem, hp⟩ := List.exists_of_findSome?_eq_some hcase
        obtain rfl := List.mem_singleton.mp hmem
        obtain ⟨_, -, heq⟩ := Option.map_eq_some_iff.mp hp
        obtain ⟨rfl, -⟩ := Prod.mk.inj heq
        exact whileResolvingLines_logic _ _
      · exact lineByLine_logic _

theorem fault?_block {items : List Value} (h : ∀ v ∈ items, v.IsPhrase phraseVariants) :
    ((Value.symbol (block items)).outline choice).fault? policy = none := by
  have hall : (Outline.all (items.map (·.outline choice))).fault? policy = none := by
    rw [Outline.fault?_all]
    intro o ho
    obtain ⟨v, hv, rfl⟩ := List.mem_map.mp ho
    exact (h v hv).fault?_eq_none
  have houtline : (Value.symbol (block items)).outline choice =
      .sequence seq.tag (.all (items.map (·.outline choice))) := by
    rw [Value.outline, Symbol.outline_eq]
    rfl
  rw [houtline, Outline.fault?, hall, Option.map_none]

theorem IsLogic.fault?_eq_none {v : Value} (h : IsLogic v) :
    (v.outline choice).fault? policy = none := by
  cases h with
  | ofReading h => exact h.isPhrase.fault?_eq_none
  | ofBlock h => exact fault?_block fun v hv => (h v hv).isPhrase
  | @ofResolving condition items text hc h =>
    have hcondition : (((resolving condition items text).getD conditionField).outline
        choice).fault? policy = none := hc.isPhrase.fault?_eq_none
    have hresult : (((resolving condition items text).getD resultField).outline
        choice).fault? policy = none := fault?_block fun v hv => (h v hv).isPhrase
    have hsubject : (((resolving condition items text).getD subjectField).outline
        choice).fault? policy = none := rfl
    have hshape : (resolving condition items text).shape = .condition := rfl
    rw [Value.outline, Symbol.outline_eq, hshape]
    cases choice (resolving condition items text).tag <;> cases policy <;>
      simp [Outline.fault?, hcondition, hresult, hsubject]

/-- How symbols and lists are placed in the tree of a card. -/
structure WellPlaced (v : Value) : Prop where
  /-- Symbols are of the standard variants and hold the declared fields in order. -/
  declared : ∀ way s, v.inside? way = some (.symbol s) → s.IsDeclared variants
  /-- A list is what a sequence holds. -/
  lists : ∀ way items, v.inside? way = some (.list items) →
    ∃ outer k s, way = outer ++ [k] ∧ v.inside? outer = some (.symbol s) ∧ s.variant = seq
  /-- A sequence is the root, or the result of a condition that is the root. -/
  sequences : ∀ way s, v.inside? way = some (.symbol s) → s.tag = seq.tag →
    way = [] ∨ ∃ root k, v = .symbol root ∧ root.variant = whileResolving ∧ way = [k] ∧
      root.payload[k]? = some (resultField, .symbol s)

variable {v w condition : Value} {items : List Value} {text : Option String} {way : List Nat}

/-- What may stand in a phrase: no list, and no symbol other than a declared one. -/
def IsPlain (w : Value) : Prop :=
  w.list? = none ∧ ∀ s, w = .symbol s → s.IsDeclared phraseVariants

theorem inside_block (hw : (Value.symbol (block items)).inside? way = some w) :
    (∃ v ∈ items, ∃ inner, v.inside? inner = some w) ∨
      (way = [] ∧ w = .symbol (block items)) ∨ (way = [0] ∧ w = .list items) := by
  match way with
  | [] => exact .inr (.inl ⟨rfl, (Option.some.inj hw).symm⟩)
  | [0] => exact .inr (.inr ⟨rfl, (Option.some.inj hw).symm⟩)
  | 0 :: k :: way =>
    obtain ⟨_, hlist, hw⟩ := Value.inside?_cons.mp hw
    obtain rfl := Option.some.inj hlist
    obtain ⟨v, hv, hw⟩ := Value.inside?_cons.mp hw
    exact .inl ⟨v, List.mem_of_getElem? hv, way, hw⟩
  | (k + 1) :: way =>
    obtain ⟨_, hnone, -⟩ := Value.inside?_cons.mp hw
    cases hnone

theorem inside_resolving
    (hw : (Value.symbol (resolving condition items text)).inside? way = some w) :
    (∃ inner, condition.inside? inner = some w) ∨
      (way = [] ∧ w = .symbol (resolving condition items text)) ∨
      ∃ inner, way = 1 :: inner ∧ (Value.symbol (block items)).inside? inner = some w := by
  match way with
  | [] => exact .inr (.inl ⟨rfl, (Option.some.inj hw).symm⟩)
  | 0 :: way =>
    obtain ⟨_, hcondition, hw⟩ := Value.inside?_cons.mp hw
    obtain rfl := Option.some.inj hcondition
    exact .inl ⟨way, hw⟩
  | 1 :: way =>
    obtain ⟨_, hresult, hw⟩ := Value.inside?_cons.mp hw
    obtain rfl := Option.some.inj hresult
    exact .inr (.inr ⟨way, rfl, hw⟩)
  | (k + 2) :: way =>
    obtain ⟨_, hnone, -⟩ := Value.inside?_cons.mp hw
    cases hnone

theorem isPlain_resolving : IsPlain (.symbol (resolving condition items text)) := by
  refine ⟨rfl, fun s hs => ?_⟩
  obtain rfl := Value.symbol.inj hs
  exact ⟨(by decide : whileResolving ∈ phraseVariants), rfl⟩

/-- Besides what stands in readings there are only the condition at the root, sequences and the
lists they hold. -/
theorem IsLogic.inside_reading (h : IsLogic v) (hw : v.inside? way = some w) :
    (∃ r inner, IsReading r ∧ r.inside? inner = some w) ∨
    (∃ condition items text, w = .symbol (resolving condition items text)) ∨
    (∃ items, w = .symbol (block items) ∧
      (way = [] ∨ way = [1] ∧ ∃ condition text, v = .symbol (resolving condition items text))) ∨
    ∃ items outer, w = .list items ∧ way = outer ++ [0] ∧
      v.inside? outer = some (.symbol (block items)) := by
  cases h with
  | ofReading h => exact .inl ⟨v, way, h, hw⟩
  | ofBlock h =>
    rcases inside_block hw with ⟨v, hv, inner, hw⟩ | ⟨rfl, rfl⟩ | ⟨rfl, rfl⟩
    · exact .inl ⟨v, inner, h v hv, hw⟩
    · exact .inr (.inr (.inl ⟨_, rfl, .inl rfl⟩))
    · exact .inr (.inr (.inr ⟨_, [], rfl, rfl, rfl⟩))
  | ofResolving hc h =>
    rcases inside_resolving hw with ⟨inner, hw⟩ | ⟨-, rfl⟩ | ⟨inner, rfl, hw⟩
    · exact .inl ⟨_, inner, hc, hw⟩
    · exact .inr (.inl ⟨_, _, _, rfl⟩)
    · rcases inside_block hw with ⟨v, hv, inner, hw⟩ | ⟨rfl, rfl⟩ | ⟨rfl, rfl⟩
      · exact .inl ⟨v, inner, h v hv, hw⟩
      · exact .inr (.inr (.inl ⟨_, rfl, .inr ⟨rfl, _, _, rfl⟩⟩))
      · exact .inr (.inr (.inr ⟨_, [1], rfl, rfl, rfl⟩))

/-- Besides what stands in phrases there are only sequences and the lists they hold. -/
theorem IsLogic.inside (h : IsLogic v) (hw : v.inside? way = some w) :
    IsPlain w ∨
    (∃ items, w = .symbol (block items) ∧
      (way = [] ∨ way = [1] ∧ ∃ condition text, v = .symbol (resolving condition items text))) ∨
    ∃ items outer, w = .list items ∧ way = outer ++ [0] ∧
      v.inside? outer = some (.symbol (block items)) := by
  rcases h.inside_reading hw with ⟨r, inner, hr, hw⟩ | ⟨condition, items, text, rfl⟩ | hrest
  · exact .inl (hr.isPhrase inner w hw)
  · exact .inl isPlain_resolving
  · exact .inr hrest

theorem phraseVariants_subset : ∀ v ∈ phraseVariants, v ∈ variants ∧ v.tag ≠ seq.tag := by decide

theorem IsLogic.wellPlaced (h : IsLogic v) : WellPlaced v where
  declared := by
    intro way s hs
    rcases h.inside hs with hplain | ⟨items, hblock, -⟩ | ⟨items, outer, hlist, -⟩
    · obtain ⟨hvariant, hnames⟩ := hplain.2 s rfl
      exact ⟨(phraseVariants_subset _ hvariant).1, hnames⟩
    · obtain rfl := Value.symbol.inj hblock
      exact ⟨(by decide : seq ∈ variants), rfl⟩
    · cases hlist
  lists := by
    intro way items hitems
    rcases h.inside hitems with hplain | ⟨_, hblock, -⟩ | ⟨_, outer, -, hway, houter⟩
    · cases hplain.1
    · cases hblock
    · exact ⟨outer, 0, _, hway, houter, rfl⟩
  sequences := by
    intro way s hs htag
    rcases h.inside hs with hplain | ⟨items, hblock, hway⟩ | ⟨_, _, hlist, -⟩
    · exact absurd htag (phraseVariants_subset _ (hplain.2 s rfl).variant).2
    · obtain rfl := Value.symbol.inj hblock
      rcases hway with rfl | ⟨rfl, condition, text, rfl⟩
      · exact .inl rfl
      · exact .inr ⟨_, 1, rfl, rfl, rfl, rfl⟩
    · cases hlist

end Cards

namespace Grammar

/-- The standard grammar makes a tree of every card text, and its sequence fails exactly if a line
hides a sequence or a condition. -/
theorem standard_process_nonFlat_iff (text : CardText) (source : String) (policy : Policy) :
    ∃ logic, standard.parse text source = .ok ⟨text, source, logic⟩ ∧
      Cards.WellPlaced (.ofSymbol? logic) ∧
      ((∃ q, standard.process text source policy = .ok (⟨text, source, logic⟩, q)) ∨
        ∃ detail c, standard.process text source policy = .error ⟨.nonFlat detail, c⟩) ∧
      ((∃ detail c, standard.process text source policy = .error ⟨.nonFlat detail, c⟩) ↔
        ∃ line ∈ (Cards.layout.emit ⟨text, source, logic⟩ policy).2.sink.finish,
          ∃ s, line.symbol? = some s ∧ s.Hides) := by
  obtain ⟨logic, hlogic, hshape⟩ := Cards.dispatch_logic text source
  have hparse : standard.parse text source = .ok ⟨text, source, logic⟩ := by
    change Cards.casebook.build text source = _
    rw [Casebook.build, hlogic]
  refine ⟨logic, hparse, hshape.wellPlaced, ?_⟩
  generalize htree : (⟨text, source, logic⟩ : Tree) = tree at hparse ⊢
  have hfault : (tree.outline Cards.layout.handles).fault? policy = none := by
    rw [← htree]
    exact hshape.fault?_eq_none
  have hprocess : standard.process text source policy =
      (Cards.layout.flatten tree policy).map (tree, ·) := by
    rw [process, Outcome.bind_ok hparse]
    rfl
  rw [hprocess]
  rcases Layout.isStandard_cards.flatten_cases hfault with
    ⟨q, hok, hall⟩ | ⟨i, t, field, inner, ⟨⟨line, hi, ht⟩, hhides, -⟩, -, herr⟩
  · rw [hok]
    refine ⟨.inl ⟨q, rfl⟩, iff_of_false ?_ ?_⟩
    · rintro ⟨detail, c, he⟩
      cases he
    · rintro ⟨line, hline, s, hs, hhides⟩
      exact hall line hline s hs hhides
  · rw [herr]
    generalize (Offence.nested field t.tag inner).describe i = told
    have hfails : ∃ detail c, (Except.error ⟨.nonFlat told, some (tree.context [])⟩ :
        Outcome Sequence).map (tree, ·) = .error ⟨.nonFlat detail, c⟩ := ⟨_, _, rfl⟩
    exact ⟨.inr hfails, iff_of_true hfails ⟨line, List.mem_of_getElem? hi, t, ht, hhides⟩⟩

/-- An effect keeps the condition that its text holds. -/
example : (standard.process (.lines ["gain while resolving x, y"]) "skill").isOk = false := by
  decide +kernel

end Grammar

end RulesText
