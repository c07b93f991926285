import Mathlib.Tactic.Choose
import RulesText.Proofs.Failure

/-!
Falling back: a handler that does no more than the rule of conditions. It writes the same lines and
records the same tags as no handler, and a fault that passes through it has one frame more.
-/
namespace RulesText

open Emit

variable {policy : Policy} {tags : List String} {s : Symbol} {v w : Value}

/-- Writes a node by the rule of conditions. -/
def Handler.fallback : Handler := fun s => s.conditionRule s.indent

/-- The handlers that fall back on these tags, and no others. -/
def Handler.fallbacks (tags : List String) (tag : String) : Option Handler :=
  if tag ∈ tags then some fallback else none

namespace Symbol

/-- The frames that a fault passes on its way out of a part of a node: that of the part, and then
that of the handler, if the node is a condition that falls back. -/
def framesOut (tags : List String) (s : Symbol) (frame : String) : List String :=
  if s.shape = .condition ∧ s.tag ∈ tags then [frame, s.tag] else [frame]

/-- A fault of a part, as it comes out of the node. -/
def leave (tags : List String) (s : Symbol) (frame : String) (f : Fault) : Fault :=
  (s.framesOut tags frame).foldl Fault.inFrame f

theorem leave_of_handled (hs : s.shape = .condition) (ht : s.tag ∈ tags) :
    s.leave tags = fun frame f => (f.inFrame frame).inFrame s.tag := by
  funext frame f
  simp [leave, framesOut, hs, ht]

theorem leave_of_not_handled (h : s.shape = .condition → s.tag ∉ tags) :
    s.leave tags = fun frame f => f.inFrame frame := by
  funext frame f
  rw [leave, framesOut, if_neg fun hc => h hc.1 hc.2]
  rfl

theorem leave_through {c : Cause} {frame : String} {stack : List String} :
    s.leave tags frame (.through c stack) = .through c (stack ++ s.framesOut tags frame) := by
  unfold leave framesOut
  split <;> simp [Fault.inFrame_through]

end Symbol

/-- The node positions of a value, each with the frames around it where conditions with these tags
fall back. -/
inductive FallbackAt (policy : Policy) (tags : List String) :
    Value → List Turn → List String → Value → Prop where
  | here {v : Value} : FallbackAt policy tags v [] [] v
  | step {s : Symbol} {turn : Turn} {frame : String} {w u : Value} {way : List Turn}
      {wide : List String} (hs : (turn, frame, w) ∈ s.turns policy)
      (hu : FallbackAt policy tags w way wide u) :
      FallbackAt policy tags (.symbol s) (turn :: way) (wide ++ s.framesOut tags frame) u

/-- The two faults of a value, by the rules of the shapes and with the fallbacks, tell of the same
first bare list, or there are none. -/
def TellBoth (policy : Policy) (tags : List String) (v : Value) :
    Option Fault → Option Fault → Prop
  | none, g => g = none
  | some f, g => ∃ way stack wide vs, FirstBareList policy v way stack vs ∧
      FallbackAt policy tags v way wide (.list vs) ∧
      f = .through (.malformed (bareListDetail vs.length)) stack ∧
      g = some (.through (.malformed (bareListDetail vs.length)) wide)

/-- A node has the same part to blame in both. -/
theorem Symbol.tellBoth {g : Value → Option Fault} (h : ∀ p ∈ s.turns policy,
    TellBoth policy tags p.2.2 ((p.2.2.outline noChoices).fault? policy) (g p.2.2)) :
    TellBoth policy tags (.symbol s) (((Value.symbol s).outline noChoices).fault? policy)
      ((s.turns policy).findSome? fun p => (g p.2.2).map (s.leave tags p.2.1)) := by
  have hquiet : ∀ p ∈ s.turns policy, (p.2.2.outline noChoices).fault? policy = none →
      (g p.2.2).map (s.leave tags p.2.1) = none := by
    intro p hp hf
    have hp := h p hp
    rw [hf] at hp
    exact Option.map_eq_none_iff.mpr hp
  rw [Symbol.fault?_eq]
  cases hf : (s.turns policy).findSome? fun p =>
      ((p.2.2.outline noChoices).fault? policy).map (·.inFrame p.2.1) with
  | none =>
    refine List.findSome?_eq_none_iff.mpr fun p hp => hquiet p hp ?_
    exact Option.map_eq_none_iff.mp (List.findSome?_eq_none_iff.mp hf p hp)
  | some f =>
    obtain ⟨earlier, ⟨turn, frame, w⟩, later, hturns, hpart, hnone⟩ :=
      List.findSome?_eq_some_iff.mp hf
    have hnone : ∀ p ∈ earlier, p ∈ s.turns policy ∧
        (p.2.2.outline noChoices).fault? policy = none := fun p hp =>
      ⟨hturns ▸ List.mem_append_left _ hp, Option.map_eq_none_iff.mp (hnone p hp)⟩
    have hmem : (turn, frame, w) ∈ s.turns policy := by simp [hturns]
    obtain ⟨f, hw, rfl⟩ := Option.map_eq_some_iff.mp hpart
    have hp := h _ hmem
    rw [hw] at hp
    obtain ⟨way, stack, wide, vs, hfirst, hwide, rfl, hg⟩ := hp
    refine ⟨turn :: way, stack ++ [frame], _, vs, hfirst.step hturns ?_, .step hmem hwide,
      Fault.inFrame_through, ?_⟩
    · intro p hp
      have htells := p.2.2.tellsFirst policy
      rwa [(hnone p hp).2] at htells
    · refine List.findSome?_eq_some_iff.mpr ⟨earlier, (turn, frame, w), later, hturns, ?_, ?_⟩
      · rw [hg, Option.map_some, Symbol.leave_through]
      · exact fun p hp => hquiet p (hnone p hp).1 (hnone p hp).2

/-- Every symbol inside with one of these tags is a condition. -/
def Value.OnlyConditions (tags : List String) (v : Value) : Prop :=
  ∀ way t, v.inside? way = some (.symbol t) → t.tag ∈ tags → t.shape = .condition

namespace Value

@[simp]
theorem onlyConditions_nil : Value.nil.OnlyConditions tags := every_of_isLeaf ⟨rfl, rfl⟩

@[simp]
theorem onlyConditions_symbol : (Value.symbol s).OnlyConditions tags ↔
    (s.tag ∈ tags → s.shape = .condition) ∧ ∀ field ∈ s.payload, field.2.OnlyConditions tags :=
  every_symbol

@[simp]
theorem onlyConditions_list {vs : List Value} :
    (Value.list vs).OnlyConditions tags ↔ ∀ w ∈ vs, w.OnlyConditions tags :=
  every_list

theorem OnlyConditions.getD (h : (Value.symbol s).OnlyConditions tags) (name : String) :
    (s.getD name).OnlyConditions tags := by
  intro way t ht
  obtain ⟨k, hk⟩ := Symbol.inside_getD ht Value.noConfusion
  exact h (k :: way) t hk

theorem OnlyConditions.child (h : (Value.symbol s).OnlyConditions tags) (hw : w ∈ s.children) :
    w.OnlyConditions tags := by
  intro way t ht
  obtain ⟨k, j, hk⟩ := Symbol.inside_child hw ht
  exact h (k :: j :: way) t hk

end Value

/-- Flattening the value with fallbacks ends in that fault, if any, and else writes what its outline
says. -/
def Value.FallsBack (policy : Policy) (tags : List String) (v : Value) (g : Option Fault) : Prop :=
  ∀ indent, Writes policy 0 (v.flatten (Handler.fallbacks tags) indent) g v.scalar?
    (v.lines noChoices policy indent) ((v.outline noChoices).tags policy)

section

variable {g : Value → Option Fault}

theorem Symbol.node_site {indent : Int} :
    (s.site (Handler.fallbacks tags) indent).node = s := rfl

theorem Symbol.fallsBack_sequence (hs : s.shape = .sequence)
    (h : ∀ w ∈ s.children, w.FallsBack policy tags (g w)) (indent : Int) :
    Writes policy 0 (s.flatten (Handler.fallbacks tags) indent)
      ((s.turns policy).findSome? fun p => (g p.2.2).map (s.leave tags p.2.1)) ()
      ((s.outline noChoices).lines policy indent) ((s.outline noChoices).tags policy) := by
  rw [Symbol.leave_of_not_handled (by simp [hs]), Symbol.flatten_eq_write, Symbol.outline_eq, hs,
    Symbol.findSome?_turns_of_sequence hs fun frame w => (g w).map (·.inFrame frame)]
  simp only [Site.write, Symbol.node_site, hs, Symbol.sequenceRule_site hs, Outline.lines,
    Outline.tags, Outline.lines_all, Outline.tags_all, List.flatMap_map]
  exact writes_record.bind (writes_each fun w hw => (h w hw (indent + 1)).discarded.inFrame s.tag)

/-- Through the handler or not, a condition is written by the rule of conditions. -/
theorem Symbol.fallsBack_condition (hs : s.shape = .condition)
    (h : ∀ name, (s.getD name).FallsBack policy tags (g (s.getD name))) (indent : Int) :
    Writes policy 0 (s.flatten (Handler.fallbacks tags) indent)
      ((s.turns policy).findSome? fun p => (g p.2.2).map (s.leave tags p.2.1)) ()
      ((s.outline noChoices).lines policy indent) ((s.outline noChoices).tags policy) := by
  have hfield : ∀ name n, Writes policy 0 ((s.site (Handler.fallbacks tags) indent).flatten name n)
      (g (s.getD name)) (s.getD name).scalar? ((s.getD name).lines noChoices policy n)
      (((s.getD name).outline noChoices).tags policy) := by
    intro name n
    rw [Symbol.flatten_site]
    exact h name n
  have hrule := fun least : Nat => (Site.writes_conditionRule
    (hfield conditionField (indent + 1)) (hfield resultField (indent + 1)) :
      Writes policy least ((s.site (Handler.fallbacks tags) indent).conditionRule indent) _ () _ _)
  rw [Symbol.flatten_eq_write, Symbol.outline_eq, hs]
  by_cases ht : s.tag ∈ tags
  · rw [Symbol.leave_of_handled hs ht, Symbol.findSome?_turns_of_condition hs
      fun frame w => (g w).map fun f => (f.inFrame frame).inFrame s.tag]
    simp only [Site.write, Symbol.node_site, hs, Handler.fallbacks, if_pos ht]
    have h := (writes_record.bind ((hrule _).inFrame s.tag) :
      Writes policy 0 (Emit.record s.tag >>= fun _ => _) _ () _ _)
    cases policy with
    | expand =>
      simp only [Option.map_or, Option.map_map] at h
      exact h
    | collapse =>
      simp only [Option.map_map] at h
      exact h
  · rw [Symbol.leave_of_not_handled fun _ => ht, Symbol.findSome?_turns_of_condition hs
      fun frame w => (g w).map (·.inFrame frame)]
    simp only [Site.write, Symbol.node_site, hs, Handler.fallbacks, if_neg ht]
    have h := (writes_record.bind (hrule _) :
      Writes policy 0 (Emit.record s.tag >>= fun _ => _) _ () _ _)
    cases policy <;> exact h

/-- A node with fallbacks ends in the first fault of its parts. -/
theorem Symbol.fallsBack (hs : s.tag ∈ tags → s.shape = .condition)
    (h : ∀ w, (w ∈ s.children ∨ ∃ name, w = s.getD name) → w.FallsBack policy tags (g w))
    (indent : Int) :
    Writes policy 0 (s.flatten (Handler.fallbacks tags) indent)
      ((s.turns policy).findSome? fun p => (g p.2.2).map (s.leave tags p.2.1)) ()
      ((s.outline noChoices).lines policy indent) ((s.outline noChoices).tags policy) := by
  cases hshape : s.shape with
  | noOp =>
    have hnone : s.turns policy = [] := by simp [Symbol.turns, hshape]
    rw [hnone, Symbol.flatten_eq_write, Symbol.outline_eq, hshape]
    simp only [Site.write, Symbol.node_site, hshape]
    exact writes_record.bind writes_pure
  | plain =>
    -- A handler would write a plain node like a condition, but none of the tags stands on one.
    have hnone : s.turns policy = [] := by simp [Symbol.turns, hshape]
    have hout : s.tag ∉ tags := fun ht => by simp [hs ht] at hshape
    rw [hnone, Symbol.flatten_eq_write, Symbol.outline_eq, hshape]
    simp only [Site.write, Symbol.node_site, hshape, Handler.fallbacks, if_neg hout]
    exact writes_record.bind writes_push
  | sequence => exact Symbol.fallsBack_sequence hshape (fun w hw => h w (.inl hw)) indent
  | condition => exact Symbol.fallsBack_condition hshape (fun name => h _ (.inr ⟨name, rfl⟩)) indent

end

/-- Flattening with fallbacks and by the rules of the shapes differ in the fault at most, and both
faults tell of the same list. -/
theorem Value.fallsBack (policy : Policy) (h : v.OnlyConditions tags) :
    ∃ g, v.FallsBack policy tags g ∧
      TellBoth policy tags v ((v.outline noChoices).fault? policy) g := by
  induction v using Value.node_induction with
  | leaf v hv =>
    cases v with
    | symbol s => cases hv
    | list vs =>
      refine ⟨some ⟨.malformed (bareListDetail vs.length), none⟩, fun _ => writes_fail,
        [], [], [], vs, ⟨.here, ?_⟩, .here, rfl, rfl⟩
      intro way stack ws hw
      cases hw
      exact .inl rfl
    | _ => exact ⟨none, fun _ => writes_pure, rfl⟩
  | node s ih ihc =>
    have hparts : ∀ w, (w ∈ s.children ∨ ∃ name, w = s.getD name) → ∃ g,
        w.FallsBack policy tags g ∧
          TellBoth policy tags w ((w.outline noChoices).fault? policy) g := by
      rintro w (hw | ⟨name, rfl⟩)
      · exact ihc w hw (h.child hw)
      · exact ih name (h.getD name)
    choose! g hfalls htells using hparts
    refine ⟨_, fun indent => ?_, Symbol.tellBoth fun p hp => htells _ (Symbol.mem_turns hp)⟩
    have hnode : Writes policy 0 (Value.flatten (Handler.fallbacks tags) (.symbol s) indent)
        _ none _ _ := (Symbol.fallsBack (h [] s rfl) hfalls indent).bind writes_pure
    rw [Option.or_none, List.append_nil, List.append_nil] at hnode
    exact hnode

namespace Layout

variable {l : Layout} {tag : String}

/-- The layout with fallbacks for these tags. -/
def withFallbacks (l : Layout) (tags : List String) : Layout :=
  tags.foldl (·.register · Handler.fallback) l

/-- Only the handlers change. -/
theorem withFallbacks_eq (l : Layout) (tags : List String) :
    ∃ handlers, l.withFallbacks tags = { l with handlers } := by
  induction tags generalizing l with
  | nil => exact ⟨l.handlers, rfl⟩
  | cons tag tags ih =>
    obtain ⟨handlers, h⟩ := ih (l.register tag Handler.fallback)
    exact ⟨handlers, h⟩

theorem handler?_withFallbacks : (l.withFallbacks tags).handler? tag =
    if tag ∈ tags then some Handler.fallback else l.handler? tag := by
  induction tags generalizing l with
  | nil => rfl
  | cons other tags ih =>
    have hstep : l.withFallbacks (other :: tags) =
      (l.register other Handler.fallback).withFallbacks tags := rfl
    rw [hstep, ih, handler?_register]
    by_cases ht : tag ∈ tags
    · simp [ht]
    · simp [ht, eq_comm]

theorem isExtracting_withFallbacks : (l.withFallbacks tags).isExtracting = l.isExtracting := by
  obtain ⟨handlers, h⟩ := l.withFallbacks_eq tags
  rw [h]
  rfl

theorem emit_withFallbacks (hh : l.handlers = []) (tree : Tree) (policy : Policy) :
    (l.withFallbacks tags).emit tree policy =
      (discard ((Value.ofSymbol? tree.logic).flatten (Handler.fallbacks tags) (-1))).run
        (l.emitter policy) := by
  have hhandlers : (l.withFallbacks tags).handler? = Handler.fallbacks tags := by
    funext tag
    rw [handler?_withFallbacks, handler?, hh]
    rfl
  have hemitter : (l.withFallbacks tags).emitter policy = l.emitter policy := by
    obtain ⟨handlers, h⟩ := l.withFallbacks_eq tags
    rw [h]
    rfl
  rw [emit_eq_discard, hhandlers, hemitter]

/-- Where the tags stand on conditions only, falling back gives the same sequence as no handler, or
the same fault; only around a bare list, each frame of a branch of such a condition is followed by
one with the tag of its handler. -/
theorem flatten_withFallbacks (hl : l.isExtracting = false) (hh : l.handlers = []) (tree : Tree)
    (policy : Policy) (htags : (Value.ofSymbol? tree.logic).OnlyConditions tags) :
    (∃ q, l.flatten tree policy = .ok q ∧ (l.withFallbacks tags).flatten tree policy = .ok q) ∨
    (∃ way stack wide vs, FirstBareList policy (Value.ofSymbol? tree.logic) way stack vs ∧
      FallbackAt policy tags (Value.ofSymbol? tree.logic) way wide (.list vs) ∧
      l.flatten tree policy =
        .error ⟨.malformed (bareListDetail vs.length), some (tree.context stack)⟩ ∧
      (l.withFallbacks tags).flatten tree policy =
        .error ⟨.malformed (bareListDetail vs.length), some (tree.context wide)⟩) ∨
    ∃ detail, l.flatten tree policy = .error ⟨.nonFlat detail, some (tree.context [])⟩ ∧
      (l.withFallbacks tags).flatten tree policy =
        .error ⟨.nonFlat detail, some (tree.context [])⟩ := by
  have hl' : (l.withFallbacks tags).isExtracting = false := isExtracting_withFallbacks.trans hl
  have hstd : l.IsStandard := ⟨hl, .inl hh⟩
  obtain ⟨g, hfalls, htells⟩ : ∃ g, Value.FallsBack policy tags _ g ∧
      TellBoth policy tags _ ((tree.outline noChoices).fault? policy) g :=
    Value.fallsBack policy htags
  have hrun := (hfalls (-1)).discarded (l.emitter policy) rfl (Nat.zero_le _)
  rw [← emit_withFallbacks hh] at hrun
  have hplain := hstd.emit_eq tree policy
  rw [handles_eq_noChoices hh] at hplain
  cases hf : (tree.outline noChoices).fault? policy with
  | some f =>
    rw [hf] at htells hplain
    obtain ⟨way, stack, wide, vs, hfirst, hwide, rfl, rfl⟩ := htells
    refine .inr (.inl ⟨way, stack, wide, vs, hfirst, hwide, ?_, ?_⟩)
    · rw [flatten_of_fault hl hplain, Fault.located_through, Tree.context]
    · rw [flatten_of_fault hl' hrun, Fault.located_through, Tree.context]
  | none =>
    rw [hf] at htells hplain
    obtain rfl : g = none := htells
    have hemit : (l.withFallbacks tags).emit tree policy = l.emit tree policy :=
      hrun.trans hplain.symm
    have hsame : (l.withFallbacks tags).flatten tree policy = l.flatten tree policy := by
      simp only [flatten, run, hl, hl', linearize, hemit]
      rfl
    rw [hsame]
    rcases hstd.flatten_cases (handles_eq_noChoices hh ▸ hf) with
      ⟨q, hok, -⟩ | ⟨i, t, field, inner, -, -, herr⟩
    · exact .inl ⟨q, hok, hok⟩
    · exact .inr (.inr ⟨_, herr, herr⟩)

/-- The list stands in a condition that falls back, and that in a sequence. -/
theorem tangledCard_fallbacks :
    let l : Layout := {}
    let tags := [Cards.whileResolving.tag]
    let root := Value.ofSymbol? tangledCard.logic
    l.isExtracting = false ∧ l.handlers = [] ∧ root.OnlyConditions tags ∧
    ∃ way vs, FirstBareList .expand root way ["WHILE_RESOLVING.condition", "SEQ"] vs ∧
      FallbackAt .expand tags root way ["WHILE_RESOLVING.condition", "WHILE_RESOLVING", "SEQ"]
        (.list vs) := by
  intro l tags root
  have htags : root.OnlyConditions tags := by
    simp [root, tags, tangledCard, Value.ofSymbol?, Symbol.tag, Symbol.shape, Cards.seq,
      Cards.whileResolving, Cards.gain, Cards.may, Cards.currInvestigator, Variant.sequence,
      Variant.condition, Variant.plain, or_imp, forall_and]
  refine ⟨rfl, rfl, htags, ?_⟩
  have hplain : l.flatten tangledCard .expand = .error ⟨.malformed (bareListDetail 2),
    some (tangledCard.context ["WHILE_RESOLVING.condition", "SEQ"])⟩ := rfl
  have hwide : (l.withFallbacks tags).flatten tangledCard .expand =
    .error ⟨.malformed (bareListDetail 2), some (tangledCard.context
      ["WHILE_RESOLVING.condition", "WHILE_RESOLVING", "SEQ"])⟩ := rfl
  have hends := flatten_withFallbacks (l := l) rfl rfl tangledCard .expand htags
  rw [hplain, hwide] at hends
  rcases hends with ⟨q, h, -⟩ | ⟨way, stack, wide, vs, hfirst, hat, h, h'⟩ | ⟨detail, h, -⟩
  · cases h
  · simp only [Except.error.injEq, Fault.mk.injEq, Option.some.injEq, Tree.context,
      Context.mk.injEq] at h h'
    obtain ⟨-, -, -, rfl⟩ := h
    obtain ⟨-, -, -, rfl⟩ := h'
    exact ⟨way, vs, hfirst, hat⟩
  · cases h

end Layout

end RulesText
