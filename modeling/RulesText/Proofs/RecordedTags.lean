import RulesText.Proofs.Flatness

/-!
Recorded tags. Collapsing comes to fewer nodes than expanding, and both stay inside the tree, all of
whose symbols are come to by an extraction. No line has a tag that was not recorded.
-/
namespace RulesText

variable {choice : String → Bool} {policy : Policy} {n : Int} {tag : String} {v : Value}
  {s : Symbol}
  {line : Line}

namespace Value

/-- A symbol with that tag stands somewhere inside, or is the value itself. -/
def Mentions (tag : String) (v : Value) : Prop :=
  ∃ way s, v.inside? way = some (.symbol s) ∧ s.tag = tag

theorem mentions_self (s : Symbol) : (Value.symbol s).Mentions s.tag := ⟨[], s, rfl, rfl⟩

theorem Mentions.of_inner {w : Value} {k : Nat} (h : w.Mentions tag) (hk : v.inner? k = some w) :
    v.Mentions tag := by
  obtain ⟨way, s, hs, htag⟩ := h
  exact ⟨k :: way, s, inside?_cons.mpr ⟨w, hk, hs⟩, htag⟩

theorem tagsList_eq (vs : List Value) : Value.tagsList vs = vs.flatMap Value.tags := by
  induction vs with
  | nil => rfl
  | cons v vs ih => simp [Value.tagsList, ih]

theorem tagsFields_eq (p : Payload) : Value.tagsFields p = p.flatMap fun field => field.2.tags := by
  induction p with
  | nil => rfl
  | cons field rest ih => simp [Value.tagsFields, ih]

theorem tags_symbol (s : Symbol) :
    (Value.symbol s).tags = s.tag :: s.payload.flatMap fun field => field.2.tags := by
  obtain ⟨variant, payload, text, stripped⟩ := s
  rw [Value.tags, Symbol.tags, tagsFields_eq]
  rfl

theorem tags_subset_of_inner {w : Value} {k : Nat} (h : v.inner? k = some w) : w.tags ⊆ v.tags := by
  intro tag htag
  cases v with
  | symbol s =>
    obtain ⟨name, hk⟩ := inner?_symbol.mp h
    rw [tags_symbol]
    exact .tail _ (List.mem_flatMap.mpr ⟨(name, w), List.mem_of_getElem? hk, htag⟩)
  | list vs =>
    rw [Value.tags, tagsList_eq]
    exact List.mem_flatMap.mpr ⟨w, List.mem_of_getElem? h, htag⟩
  | _ => cases h

theorem mentions_of_mem_tags (h : tag ∈ v.tags) : v.Mentions tag := by
  induction v using Value.inner_induction with
  | value v ih =>
    cases v with
    | symbol s =>
      rw [tags_symbol] at h
      rcases List.mem_cons.mp h with rfl | h
      · exact mentions_self s
      · obtain ⟨⟨name, w⟩, hfield, hw⟩ := List.mem_flatMap.mp h
        obtain ⟨k, hk⟩ := List.mem_iff_getElem?.mp hfield
        have hinner := inner?_symbol.mpr ⟨name, hk⟩
        exact (ih k w hinner hw).of_inner hinner
    | list vs =>
      rw [Value.tags, tagsList_eq] at h
      obtain ⟨w, hitem, hw⟩ := List.mem_flatMap.mp h
      obtain ⟨k, hk⟩ := List.mem_iff_getElem?.mp hitem
      exact (ih k w hk hw).of_inner hk
    | _ => cases h

/-- The tags of a value are those of all symbols inside. -/
theorem mem_tags_iff : tag ∈ v.tags ↔ v.Mentions tag := by
  refine ⟨mentions_of_mem_tags, ?_⟩
  rintro ⟨way, s, hs, rfl⟩
  induction way generalizing v with
  | nil =>
    obtain rfl := Option.some.inj hs
    rw [tags_symbol]
    exact .head _
  | cons k way ih =>
    obtain ⟨w, hw, hs⟩ := inside?_cons.mp hs
    exact tags_subset_of_inner hw (ih hs)

end Value

/-! What is written out is a part of the tree. -/

theorem Outline.tags_collapse_subset (o : Outline) : o.tags .collapse ⊆ o.tags .expand := by
  induction o with
  | blank | bareList | noOp | line => exact List.Subset.refl _
  | both o o' ih ih' =>
    intro tag h
    exact List.mem_append.mpr ((List.mem_append.mp h).imp (@ih tag) (@ih' tag))
  | sequence t body ih => exact List.cons_subset_cons t ih
  | condition s c r _ ihr =>
    exact List.cons_subset_cons s.tag (List.subset_append_of_subset_right _ ihr)
  | choice s c b r _ ihb ihr =>
    apply List.cons_subset_cons s.tag
    apply List.subset_append_of_subset_right
    intro tag h
    exact List.mem_append.mpr ((List.mem_append.mp h).imp (@ihb tag) (@ihr tag))

/-- What is recorded at a node is its tag, or recorded at a part of it. -/
theorem Symbol.mem_tags_outline (h : tag ∈ ((Value.symbol s).outline choice).tags .expand) :
    tag = s.tag ∨ (∃ name, tag ∈ ((s.getD name).outline choice).tags .expand) ∨
      ∃ w ∈ s.children, tag ∈ (w.outline choice).tags .expand := by
  rw [Value.outline, Symbol.outline_eq] at h
  split at h
  all_goals
    simp only [Outline.tags, Outline.tags_all, List.flatMap_map, List.mem_cons, List.mem_append,
      List.mem_flatMap, List.not_mem_nil, or_false] at h
    grind

/-- Whatever is recorded on the way is the tag of a symbol of the tree. -/
theorem Value.mentions_of_mem_outline (h : tag ∈ (v.outline choice).tags .expand) :
    v.Mentions tag := by
  induction v using Value.node_induction with
  | leaf v hv =>
    cases v with
    | symbol s => cases hv
    | _ => cases h
  | node s ih ihc =>
    rcases Symbol.mem_tags_outline h with rfl | ⟨name, h⟩ | ⟨w, hw, h⟩
    · exact mentions_self s
    · obtain ⟨way, t, ht, htag⟩ := ih name h
      obtain ⟨k, hk⟩ := Symbol.inside_getD ht Value.noConfusion
      exact ⟨k :: way, t, hk, htag⟩
    · obtain ⟨way, t, ht, htag⟩ := ihc w hw h
      obtain ⟨k, j, hk⟩ := Symbol.inside_child hw ht
      exact ⟨k :: j :: way, t, hk, htag⟩

theorem Symbol.tag_of_mem_framed {c r : List Line} (h : line ∈ s.framed policy n c r) :
    line.tag = s.tag ∨ (policy = .expand ∧ line ∈ c) ∨ line ∈ r := by
  rcases Symbol.framed_cases h with rfl | ⟨m, rfl⟩ | h | h
  · exact .inl s.tag_head
  · exact .inl rfl
  · exact .inr (.inl h)
  · exact .inr (.inr h)

namespace Outline

variable {c b r : Outline}

theorem tags_result_subset : r.tags policy ⊆ (Outline.condition s c r).tags policy := by
  intro tag h
  cases policy with
  | expand => exact .tail _ (List.mem_append_right _ h)
  | collapse => exact .tail _ h

theorem tags_bound_subset :
    b.tags policy ++ r.tags policy ⊆ (Outline.choice s c b r).tags policy := by
  intro tag h
  cases policy with
  | expand => exact .tail _ (List.mem_append_right _ h)
  | collapse => exact .tail _ h

/-- The tag of every line is met before the line is written. -/
theorem tag_mem_tags (o : Outline) (h : line ∈ o.lines policy n) : line.tag ∈ o.tags policy := by
  induction o generalizing n with
  | blank | bareList | noOp => cases h
  | both o o' ih ih' =>
    rcases List.mem_append.mp h with h | h
    · exact List.mem_append_left _ (ih h)
    · exact List.mem_append_right _ (ih' h)
  | sequence t body ih => exact .tail _ (ih h)
  | line s =>
    obtain rfl := List.mem_singleton.mp h
    exact .head _
  | condition s c r ihc ihr =>
    rcases Symbol.tag_of_mem_framed h with htag | ⟨rfl, h⟩ | h
    · exact htag ▸ .head _
    · exact .tail _ (List.mem_append_left _ (ihc h))
    · exact tags_result_subset (ihr h)
  | choice s c b r ihc ihb ihr =>
    rcases Symbol.tag_of_mem_framed h with htag | ⟨rfl, h⟩ | h
    · exact htag ▸ .head _
    · exact .tail _ (List.mem_append_left _ (ihc h))
    · rcases List.mem_append.mp h with h | h
      · rcases List.mem_cons.mp h with rfl | h
        · exact .head _
        · exact tags_bound_subset (List.mem_append_left _ (ihb h))
      · exact tags_bound_subset (List.mem_append_right _ (ihr h))

end Outline

namespace Layout

variable {l x : Layout} {tree : Tree} {q expanded collapsed : Sequence}

/-- What a standard layout records, and that it covers the lines. -/
theorem IsStandard.tags_of_flatten (h : l.IsStandard) (hr : l.recordTags = true)
    (hq : l.flatten tree policy = .ok q) :
    ∃ ls, q.tags = some (.ofList ((tree.outline l.handles).tags policy)) ∧ q.linear? = some ls ∧
      ∀ line ∈ ls, line.tag ∈ TagSet.ofList ((tree.outline l.handles).tags policy) := by
  obtain ⟨-, -, rfl⟩ := h.flatten_eq_ok_iff.mp hq
  refine ⟨_, by rw [if_pos hr], rfl, fun line hl => ?_⟩
  exact TagSet.mem_ofList.mpr (Outline.tag_mem_tags _ hl)

/-- An extraction records the tags of all symbols of the tree. -/
theorem tags_of_extraction (hx : x.isExtracting = true) (hr : x.recordTags = true) (tree : Tree) :
    ∃ q tags, (∀ policy, x.flatten tree policy = .ok q) ∧ q.tags = some tags ∧
      ∀ tag, tag ∈ tags ↔ (Value.ofSymbol? tree.logic).Mentions tag := by
  obtain ⟨text, source, logic⟩ := tree
  refine ⟨x.extract ⟨text, source, logic⟩, .ofList (Value.ofSymbol? logic).tags, ?_, ?_, ?_⟩
  · intro policy
    rw [flatten, run, if_pos hx]
  · cases logic with
    | none =>
      rw [extract, if_pos hr]
      rfl
    | some root =>
      rw [extract, if_pos hr]
      rfl
  · intro tag
    rw [TagSet.mem_ofList, Value.mem_tags_iff]

/-- Collapsing records no more than expanding, and expanding no more than extraction, which records
the tags of all symbols in the tree. The tag of every line is recorded with it. -/
theorem IsStandard.recorded_tags_nested (h : l.IsStandard) (hr : l.recordTags = true)
    (hx : x.isExtracting = true) (hxr : x.recordTags = true)
    (he : l.flatten tree .expand = .ok expanded) (hc : l.flatten tree .collapse = .ok collapsed) :
    ∃ extracted full less all lines fewer, (∀ policy, x.flatten tree policy = .ok extracted) ∧
      expanded.tags = some full ∧ collapsed.tags = some less ∧ extracted.tags = some all ∧
      less ⊆ full ∧ full ⊆ all ∧
      (∀ tag, tag ∈ all ↔ ∃ way s,
        (Value.ofSymbol? tree.logic).inside? way = some (.symbol s) ∧ s.tag = tag) ∧
      expanded.linear? = some lines ∧ (∀ line ∈ lines, line.tag ∈ full) ∧
      collapsed.linear? = some fewer ∧ ∀ line ∈ fewer, line.tag ∈ less := by
  obtain ⟨extracted, all, hextracted, hall, hmentions⟩ := tags_of_extraction hx hxr tree
  obtain ⟨lines, hfull, hlines, hcovered⟩ := h.tags_of_flatten hr he
  obtain ⟨fewer, hless, hfewer, hcovered'⟩ := h.tags_of_flatten hr hc
  refine ⟨extracted, _, _, all, lines, fewer, hextracted, hfull, hless, hall, ?_, ?_, hmentions,
    hlines, hcovered, hfewer, hcovered'⟩
  · intro tag htag
    rw [TagSet.mem_ofList] at htag ⊢
    exact Outline.tags_collapse_subset _ htag
  · intro tag htag
    rw [TagSet.mem_ofList] at htag
    exact (hmentions tag).mpr (Value.mentions_of_mem_outline htag)

/-- Without handlers, collapsing does not come to the condition, and no policy to the subjects. -/
theorem nestedChoicesCard_records :
    let l : Layout := { recordTags := true }
    let x : Layout := { extractionTags := ["GAIN"], recordTags := true }
    l.IsStandard ∧ l.recordTags = true ∧ x.isExtracting = true ∧ x.recordTags = true ∧
    ∃ expanded collapsed extracted full less all,
      l.flatten nestedChoicesCard .expand = .ok expanded ∧
      l.flatten nestedChoicesCard .collapse = .ok collapsed ∧
      (∀ policy, x.flatten nestedChoicesCard policy = .ok extracted) ∧
      expanded.tags = some full ∧ collapsed.tags = some less ∧ extracted.tags = some all ∧
      less ⊆ full ∧ full ⊆ all ∧
      Cards.spellEffects.tag ∈ full ∧ Cards.spellEffects.tag ∉ less ∧
      Cards.currInvestigator.tag ∈ all ∧ Cards.currInvestigator.tag ∉ full := by
  intro l x
  have h : l.IsStandard := ⟨rfl, .inl rfl⟩
  have he : l.flatten nestedChoicesCard .expand = .ok _ :=
    h.flatten_eq_ok_iff.mpr ⟨rfl, rfl, rfl⟩
  have hc : l.flatten nestedChoicesCard .collapse = .ok _ :=
    h.flatten_eq_ok_iff.mpr ⟨rfl, rfl, rfl⟩
  obtain ⟨extracted, full, less, all, _, _, hx, hfull, hless, hall, hlf, hfa, hmem, -⟩ :=
    h.recorded_tags_nested rfl (x := x) rfl rfl he hc
  obtain ⟨_, he', -⟩ := h.tags_of_flatten rfl he
  obtain ⟨_, hc', -⟩ := h.tags_of_flatten rfl hc
  obtain rfl := Option.some.inj (he'.symm.trans hfull)
  obtain rfl := Option.some.inj (hc'.symm.trans hless)
  refine ⟨h, rfl, rfl, rfl, _, _, extracted, _, _, all, he, hc, hx, hfull, hless, hall, hlf, hfa,
    ?_, ?_, ?_, ?_⟩
  · exact TagSet.mem_ofList.mpr (by decide)
  · exact mt TagSet.mem_ofList.mp (by decide)
  · exact (hmem _).mpr ⟨[0, 0, 0], _, rfl, rfl⟩
  · exact mt TagSet.mem_ofList.mp (by decide)

end Layout

end RulesText
