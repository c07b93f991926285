import Mathlib.Data.List.Forall2
import RulesText.Cards.Variants
import RulesText.Flatten.Layout
import RulesText.Proofs.Occurrence
import RulesText.Proofs.Stripping

/-!
Extraction finds the occurrences of symbols in post-order. Which of them are guards is said on the
way down to an occurrence, without the walk that looks for them.
-/
namespace RulesText

/-- The order of ways in post-order: what stands inside comes before what it stands in, and else the
earlier position comes first. -/
def PostBefore : List Nat → List Nat → Prop
  | [], _ => False
  | _ :: _, [] => True
  | i :: way, j :: way' => i < j ∨ i = j ∧ PostBefore way way'

theorem postBefore_cons {k : Nat} {way way' : List Nat} :
    PostBefore (k :: way) (k :: way') ↔ PostBefore way way' := by
  simp [PostBefore]

namespace Value

variable {v w u : Value} {k : Nat} {way : List Nat} {guard g : Bool}

/-- The way leads from lists to their items only. -/
def OnlyLists : Value → List Nat → Prop
  | _, [] => True
  | .list vs, k :: way => ∃ w, vs[k]? = some w ∧ OnlyLists w way
  | _, _ :: _ => False

/-- The end of the way is a guard: the nearest symbol around it is a condition, and the way leads
through its condition field and from there through lists. -/
def IsGuard (v : Value) (way : List Nat) : Prop :=
  ∃ outer k items s w, way = outer ++ k :: items ∧ v.inside? outer = some (.symbol s) ∧
    s.shape = .condition ∧ s.payload[k]? = some (conditionField, w) ∧ w.OnlyLists items

theorem not_isGuard_nil : ¬ v.IsGuard [] := by
  rintro ⟨outer, k, items, s, w, h, -⟩
  simp at h

/-- A guard is one at the first step already, or one of what the first step leads to. -/
theorem isGuard_cons (h : v.inner? k = some u) : v.IsGuard (k :: way) ↔
    (∃ s, v = .symbol s ∧ s.shape = .condition ∧ s.payload[k]? = some (conditionField, u) ∧
      u.OnlyLists way) ∨ u.IsGuard way := by
  constructor
  · rintro ⟨outer, j, items, s, w, hway, hs, hc, hw, hl⟩
    cases outer with
    | nil =>
      obtain ⟨rfl, rfl⟩ := List.cons.inj hway
      obtain rfl : v = .symbol s := Option.some.inj hs
      obtain ⟨name, hu⟩ := inner?_symbol.mp h
      obtain ⟨rfl, rfl⟩ := Prod.mk.inj (Option.some.inj (hu.symm.trans hw))
      exact .inl ⟨s, rfl, hc, hw, hl⟩
    | cons i outer =>
      obtain ⟨rfl, rfl⟩ := List.cons.inj hway
      obtain ⟨u', hu', hs⟩ := inside?_cons.mp hs
      obtain rfl := Option.some.inj (h.symm.trans hu')
      exact .inr ⟨outer, j, items, s, w, rfl, hs, hc, hw, hl⟩
  · rintro (⟨s, rfl, hc, hw, hl⟩ | ⟨outer, j, items, s, w, rfl, hs, hc, hw, hl⟩)
    · exact ⟨[], k, way, s, u, rfl, rfl, hc, hw, hl⟩
    · exact ⟨k :: outer, j, items, s, w, rfl, inside?_cons.mpr ⟨u, h, hs⟩, hc, hw, hl⟩

/-- What stands directly inside a value, each with whether it is a guard when the value itself is
one or not. -/
def parts (guard : Bool) : Value → List (Bool × Value)
  | .symbol s => s.payload.map fun field =>
    (s.shape == .condition && field.1 == conditionField, field.2)
  | .list vs => vs.map (guard, ·)
  | .nil | .bool _ | .int _ | .str _ => []

theorem inner?_eq_some_iff (guard : Bool) :
    v.inner? k = some u ↔ ∃ g, (v.parts guard)[k]? = some (g, u) := by
  have h : v.inner? k = ((v.parts guard)[k]?).map Prod.snd := by
    cases v <;> simp [inner?, parts, Function.comp_def]
  simp [h]

/-- Whether the end of a way is taken for a guard on the walk down. -/
def guardAt (guard : Bool) : Value → List Nat → Bool
  | _, [] => guard
  | v, k :: way =>
    match (v.parts guard)[k]? with
    | some (g, w) => guardAt g w way
    | none => guard

theorem guardAt_cons (h : (v.parts guard)[k]? = some (g, w)) :
    v.guardAt guard (k :: way) = w.guardAt g way := by
  simp [guardAt, h]

/-- The walk passes the role of a value on through lists and forgets it at the next symbol. -/
theorem guardAt_iff (h : v.inside? way = some w) :
    v.guardAt guard way = true ↔ (guard = true ∧ v.OnlyLists way) ∨ v.IsGuard way := by
  induction way generalizing v guard with
  | nil => simp [guardAt, OnlyLists, not_isGuard_nil]
  | cons k way ih =>
    obtain ⟨u, hk, hu⟩ := inside?_cons.mp h
    obtain ⟨g, hg⟩ := (inner?_eq_some_iff guard).mp hk
    rw [guardAt_cons hg, ih hu, isGuard_cons hk]
    cases v with
    | symbol s =>
      obtain ⟨name, hp⟩ := inner?_symbol.mp hk
      have hrole : (s.shape == .condition && name == conditionField) = g := by
        simpa [parts, hp] using hg
      simp only [← hrole, Bool.and_eq_true, beq_iff_eq, OnlyLists, and_false, false_or, hp,
        symbol.injEq, exists_eq_left', Option.some.injEq, Prod.mk.injEq, and_true, and_assoc]
    | list vs =>
      have hrole : guard = g ∧ vs[k]? = some u := by
        simpa [parts, and_comm] using hg
      obtain ⟨rfl, hvs⟩ := hrole
      simp [OnlyLists, hvs]
    | _ => cases hk

/-- What a value is itself, if it is a symbol and no guard. -/
def own (guard : Bool) : Value → List Symbol
  | .symbol s => if guard then [] else [s]
  | .nil | .bool _ | .int _ | .str _ | .list _ => []

theorem mem_own {s : Symbol} : s ∈ v.own guard ↔ v = .symbol s ∧ guard = false := by
  cases v <;> cases guard <;> simp [own, eq_comm]

theorem collectFields_eq (shape : Shape) (p : Payload) :
    Value.collectFields shape p = p.flatMap fun field =>
      field.2.collect (shape == .condition && field.1 == conditionField) := by
  induction p with
  | nil => rfl
  | cons field rest ih => simp [Value.collectFields, ih]

theorem collectList_eq (vs : List Value) :
    Value.collectList guard vs = vs.flatMap (·.collect guard) := by
  induction vs with
  | nil => rfl
  | cons v vs ih => simp [Value.collectList, ih]

theorem collect_eq : v.collect guard =
    (v.parts guard).flatMap (fun part => part.2.collect part.1) ++ v.own guard := by
  cases v with
  | symbol s =>
    cases s
    simp [Value.collect, Symbol.collect, collectFields_eq, parts, own, List.flatMap_map,
      Symbol.shape]
  | list vs => simp [Value.collect, collectList_eq, parts, own, List.flatMap_map]
  | _ => rfl

/-- These are the symbols in a value that are no guards, in post-order, each with its way. -/
structure Walk (guard : Bool) (v : Value) (found : List (List Nat × Symbol)) : Prop where
  sorted : found.Pairwise fun a b => PostBefore a.1 b.1
  mem_iff : ∀ way s, (way, s) ∈ found ↔
    v.inside? way = some (.symbol s) ∧ v.guardAt guard way = false
  symbols : found.map Prod.snd = v.collect guard

/-- The same for parts that stand side by side, the first of them at position `start`. -/
structure WalkAll (start : Nat) (ps : List (Bool × Value)) (found : List (List Nat × Symbol)) :
    Prop where
  sorted : found.Pairwise fun a b => PostBefore a.1 b.1
  mem_iff : ∀ way s, (way, s) ∈ found ↔ ∃ k g w rest, way = (start + k) :: rest ∧
    ps[k]? = some (g, w) ∧ w.inside? rest = some (.symbol s) ∧ w.guardAt g rest = false
  symbols : found.map Prod.snd = ps.flatMap fun part => part.2.collect part.1

theorem exists_walkAll {ps : List (Bool × Value)} (start : Nat)
    (h : ∀ part ∈ ps, ∃ found, Walk part.1 part.2 found) : ∃ found, WalkAll start ps found := by
  induction ps generalizing start with
  | nil => exact ⟨[], .nil, by simp, rfl⟩
  | cons part ps ih =>
    obtain ⟨g, w⟩ := part
    obtain ⟨first, hfirst⟩ := h (g, w) (.head _)
    obtain ⟨later, hlater⟩ := ih (start + 1) fun part hp => h part (.tail _ hp)
    refine ⟨first.map (fun p => (start :: p.1, p.2)) ++ later, ?_, ?_, ?_⟩
    · rw [List.pairwise_append, List.pairwise_map]
      refine ⟨hfirst.sorted.imp postBefore_cons.mpr, hlater.sorted, ?_⟩
      rintro a ha ⟨way, s⟩ hb
      obtain ⟨p, -, rfl⟩ := List.mem_map.mp ha
      obtain ⟨k, _, _, rest, rfl, -⟩ := (hlater.mem_iff way s).mp hb
      exact .inl (by omega)
    · intro way s
      rw [List.mem_append, hlater.mem_iff]
      constructor
      · rintro (ha | ⟨k, g', w', rest, rfl, hk, hs⟩)
        · obtain ⟨⟨rest, s⟩, hp, heq⟩ := List.mem_map.mp ha
          obtain ⟨rfl, rfl⟩ := Prod.mk.inj heq
          exact ⟨0, g, w, rest, rfl, rfl, (hfirst.mem_iff rest s).mp hp⟩
        · exact ⟨k + 1, g', w', rest, by rw [Nat.add_right_comm, Nat.add_assoc], hk, hs⟩
      · rintro ⟨_ | k, g', w', rest, rfl, hk, hs⟩
        · obtain ⟨rfl, rfl⟩ := Prod.mk.inj (Option.some.inj hk)
          exact .inl (List.mem_map.mpr ⟨(rest, s), (hfirst.mem_iff rest s).mpr hs, rfl⟩)
        · exact .inr ⟨k, g', w', rest, by rw [Nat.add_right_comm, Nat.add_assoc], hk, hs⟩
    · rw [List.map_append, List.map_map, hlater.symbols, List.flatMap_cons, ← hfirst.symbols]
      rfl

/-- The walk finds each symbol that is no guard once, after everything inside it. -/
theorem exists_walk (guard : Bool) (v : Value) : ∃ found, Walk guard v found := by
  induction v using Value.inner_induction generalizing guard with
  | value v ih =>
    have hparts : ∀ part ∈ v.parts guard, ∃ found, Walk part.1 part.2 found := by
      rintro ⟨g, w⟩ hp
      obtain ⟨k, hk⟩ := List.mem_iff_getElem?.mp hp
      exact ih k w ((inner?_eq_some_iff guard).mpr ⟨g, hk⟩) g
    obtain ⟨inner, hinner⟩ := exists_walkAll 0 hparts
    refine ⟨inner ++ (v.own guard).map fun s => ([], s), ?_, ?_, ?_⟩
    · rw [List.pairwise_append]
      refine ⟨hinner.sorted, ?_, ?_⟩
      · cases v <;> cases guard <;> simp [own]
      · rintro ⟨way, s⟩ ha b hb
        obtain ⟨t, -, rfl⟩ := List.mem_map.mp hb
        obtain ⟨k, _, _, rest, rfl, -⟩ := (hinner.mem_iff way s).mp ha
        trivial
    · intro way s
      rw [List.mem_append, hinner.mem_iff]
      cases way with
      | nil => simp [mem_own, inside?, guardAt]
      | cons i way =>
        constructor
        · rintro (⟨k, g, w, rest, heq, hk, hs, hg⟩ | hb)
          · rw [Nat.zero_add] at heq
            obtain ⟨rfl, rfl⟩ := List.cons.inj heq
            exact ⟨inside?_cons.mpr ⟨w, (inner?_eq_some_iff guard).mpr ⟨g, hk⟩, hs⟩,
              (guardAt_cons hk).trans hg⟩
          · simp at hb
        · rintro ⟨hs, hg⟩
          obtain ⟨w, hw, hs⟩ := inside?_cons.mp hs
          obtain ⟨g, hk⟩ := (inner?_eq_some_iff guard).mp hw
          rw [guardAt_cons hk] at hg
          exact .inl ⟨i, g, w, way, by rw [Nat.zero_add], hk, hs, hg⟩
    · rw [List.map_append, hinner.symbols, List.map_map, collect_eq]
      simp [Function.comp_def]

end Value

namespace Symbol

/-- How an extracted symbol differs from its occurrence: with a collapse tag, the first result is
taken out and noted, and all else stays. -/
def TrimmedTo (collapse : TagSet) (s t : Symbol) : Prop :=
  (s.tag ∈ collapse ∧ ∃ before v after, s.payload = before ++ (resultField, v) :: after ∧
    (∀ field ∈ before, field.1 ≠ resultField) ∧
    t = ⟨s.variant, before ++ after, s.text, s.stripped ++ [resultField]⟩) ∨
  ((s.tag ∉ collapse ∨ ∀ field ∈ s.payload, field.1 ≠ resultField) ∧ t = s)

theorem trimmedTo_extracted (collapse : TagSet) (s : Symbol) :
    s.TrimmedTo collapse (if collapse.contains s.tag then s.without resultField else s) := by
  by_cases ht : s.tag ∈ collapse
  · rw [if_pos (List.contains_iff_mem.mpr ht)]
    rcases s.takesFirst_strip resultField with
      ⟨before, v, after, hp, hb, -, hleft⟩ | ⟨hall, -, hleft⟩
    · exact .inl ⟨ht, before, v, after, hp, hb, hleft⟩
    · exact .inr ⟨.inr hall, hleft⟩
  · rw [if_neg (mt List.contains_iff_mem.mp ht)]
    exact .inr ⟨.inl ht, rfl⟩

end Symbol

namespace Layout

variable {l : Layout}

/-- With an extraction tag, a layout gives the occurrences of wanted symbols that are no guards, in
post-order, whatever the policy and the handlers are. -/
theorem flatten_extracts_occurrences (h : l.isExtracting = true) (tree : Tree) :
    ∃ (q : Sequence) (items : List Symbol) (found : List (List Nat × Symbol)),
      (∀ policy, l.flatten tree policy = .ok q) ∧
      (∀ handlers policy, ({ l with handlers } : Layout).flatten tree policy = .ok q) ∧
      q.text = tree.text ∧ q.source = tree.source ∧ q.extracted? = some items ∧
      found.Pairwise (fun a b => PostBefore a.1 b.1) ∧
      (∀ way s, (way, s) ∈ found ↔
        (Value.ofSymbol? tree.logic).inside? way = some (.symbol s) ∧
        s.tag ∈ l.extractionTags ∧ ¬ (Value.ofSymbol? tree.logic).IsGuard way) ∧
      List.Forall₂ (fun occurrence item => occurrence.2.TrimmedTo l.collapseTags item)
        found items := by
  have hok : ∀ handlers policy,
      ({ l with handlers } : Layout).flatten tree policy = .ok (l.extract tree) := by
    intro handlers policy
    have h' : ({ l with handlers } : Layout).isExtracting = true := h
    rw [flatten, run, if_pos h']
    rfl
  obtain ⟨found, hfound⟩ := Value.exists_walk false (Value.ofSymbol? tree.logic)
  let wanted := found.filter fun occurrence => l.extractionTags.contains occurrence.2.tag
  have hitems : (l.extract tree).extracted? = some (wanted.map fun occurrence =>
      if l.collapseTags.contains occurrence.2.tag then occurrence.2.without resultField
      else occurrence.2) := by
    have hs := hfound.symbols
    obtain ⟨text, source, logic⟩ := tree
    cases logic with
    | none =>
      obtain rfl : found = [] := List.map_eq_nil_iff.mp hs
      rfl
    | some root =>
      change some (root.extract l.extractionTags l.collapseTags) = _
      have hs : found.map Prod.snd = root.collect false := hs
      rw [Symbol.extract, ← hs, List.filter_map, List.map_map]
      rfl
  refine ⟨l.extract tree, _, wanted, hok l.handlers, hok, rfl, rfl, hitems, ?_, ?_, ?_⟩
  · exact hfound.sorted.filter _
  · intro way s
    rw [List.mem_filter, hfound.mem_iff, List.contains_iff_mem]
    constructor
    · rintro ⟨⟨hs, hg⟩, ht⟩
      refine ⟨hs, ht, fun hguard => ?_⟩
      rw [(Value.guardAt_iff hs).mpr (.inr hguard)] at hg
      cases hg
    · rintro ⟨hs, ht, hg⟩
      refine ⟨⟨hs, ?_⟩, ht⟩
      rw [Bool.eq_false_iff]
      intro hguard
      rcases (Value.guardAt_iff hs).mp hguard with ⟨hf, -⟩ | hguard
      · cases hf
      · exact hg hguard
  · rw [List.forall₂_map_right_iff, List.forall₂_same]
    intro occurrence _
    exact Symbol.trimmedTo_extracted _ _

/-- A condition that is guarded by a list of an effect and of a list with a choice of another. -/
def guardedCard : Tree :=
  let investigator : Value := .symbol ⟨Cards.currInvestigator, [], none, []⟩
  let effect (n : Int64) : Value :=
    .symbol ⟨Cards.gain, Cards.gain.fields.zip [investigator, .int n], none, []⟩
  let choice : Value :=
    .symbol ⟨Cards.may, Cards.may.fields.zip [investigator, .nil, effect 2], none, []⟩
  let resolving : Value := .symbol ⟨Cards.whileResolving,
    Cards.whileResolving.fields.zip [.list [effect 1, .list [choice]], effect 3], none, []⟩
  ⟨.absent, "", some ⟨Cards.seq, Cards.seq.fields.zip [.list [resolving, effect 4]], none, []⟩⟩

/-- The effect and the choice in the guard are left out, but not the effect of the choice. -/
theorem guardedCard_extracts :
    let l : Layout := { extractionTags := ["GAIN", "MAY", "WHILE_RESOLVING"]
                        collapseTags := ["WHILE_RESOLVING"] }
    l.isExtracting = true ∧ ∃ q items found,
      (∀ policy, l.flatten guardedCard policy = .ok q) ∧ q.extracted? = some items ∧
      items.map Symbol.tag = ["GAIN", "GAIN", "WHILE_RESOLVING", "GAIN"] ∧
      (∀ s, ([0, 0, 0, 0], s) ∉ found ∧ ([0, 0, 0, 1, 0], s) ∉ found) ∧
      List.Forall₂ (fun (occurrence : List Nat × Symbol) item =>
        occurrence.2.TrimmedTo l.collapseTags item) found items := by
  intro l
  have h : l.isExtracting = true := rfl
  obtain ⟨q, items, found, hok, -, -, -, hitems, -, hmem, htrim⟩ :=
    flatten_extracts_occurrences h guardedCard
  obtain rfl : l.extract guardedCard = q := Except.ok.inj (hok .expand)
  obtain rfl := Option.some.inj hitems
  refine ⟨h, _, _, found, hok, rfl, rfl, fun s => ⟨fun hs => ?_, fun hs => ?_⟩, htrim⟩
  · exact ((hmem _ _).mp hs).2.2 ⟨[0, 0], 0, [0], _, _, rfl, rfl, rfl, rfl, _, rfl, trivial⟩
  · exact ((hmem _ _).mp hs).2.2
      ⟨[0, 0], 0, [1, 0], _, _, rfl, rfl, rfl, rfl, _, rfl, _, rfl, trivial⟩

end Layout

end RulesText
