import RulesText.Proofs.Flatness
import RulesText.Proofs.Pruning

/-!
When flattening by the rules of the shapes fails. Node positions are the places where a node is
expected; a bare list at one of them is a fault with the frames around the first such list, and only
without any does it matter what the lines hide.
-/
namespace RulesText

variable {policy : Policy} {s t : Symbol} {v w u : Value} {way : List Turn} {stack : List String}
  {n : Int}

/-- No tag is laid out as a choice. -/
def noChoices (_ : String) : Bool := false

namespace Fault

/-- A cause that has passed through these frames, the innermost first. -/
def through (c : Cause) (stack : List String) : Fault :=
  ⟨c, if stack = [] then none else some ⟨none, none, stack⟩⟩

theorem inFrame_through {c : Cause} {frame : String} :
    (through c stack).inFrame frame = through c (stack ++ [frame]) := by
  cases stack <;> simp [through, inFrame, withContext]

theorem located_through {c : Cause} {source text : String} :
    (through c stack).located source text = ⟨c, some ⟨some source, some text, stack⟩⟩ := by
  cases stack <;> simp [through, located, withContext]

end Fault

namespace Turn

/-- The order in which the parts of a node are written. -/
def Before : Turn → Turn → Prop
  | .child i, .child j => i < j
  | .condition, .result => True
  | _, _ => False

end Turn

/-- The order in which places are come to: a node before what is inside it, and else by the first
turn that differs. -/
def WayBefore : List Turn → List Turn → Prop
  | _, [] => False
  | [], _ :: _ => True
  | turn :: way, turn' :: way' => turn.Before turn' ∨ turn = turn' ∧ WayBefore way way'

namespace Symbol

/-- Where a policy goes on from a node, in order, each time with the frame around it: to the
children of a sequence, and to the condition, if it expands, and the result of a condition. -/
def turns (policy : Policy) (s : Symbol) : List (Turn × String × Value) :=
  match s.shape, policy with
  | .sequence, _ => s.children.zipIdx.map fun p => (.child p.2, s.tag, p.1)
  | .condition, .expand =>
    [(.condition, s.tag ++ "." ++ conditionField, s.getD conditionField),
      (.result, s.tag ++ "." ++ resultField, s.getD resultField)]
  | .condition, .collapse => [(.result, s.tag ++ "." ++ resultField, s.getD resultField)]
  | .noOp, _ | .plain, _ => []

theorem pairwise_turns (policy : Policy) (s : Symbol) :
    (s.turns policy).Pairwise fun a b => a.1.Before b.1 := by
  unfold turns
  split
  · have h : (s.children.zipIdx.map Prod.snd).Pairwise (· < ·) := by
      rw [List.zipIdx_map_snd]
      exact List.pairwise_lt_range'
    rw [List.pairwise_map] at h ⊢
    exact h
  · simp [Turn.Before]
  · simp
  · exact .nil
  · exact .nil

/-- The parts of a sequence are its children. -/
theorem findSome?_turns_of_sequence {β : Type} (hs : s.shape = .sequence)
    (f : String → Value → Option β) :
    ((s.turns policy).findSome? fun p => f p.2.1 p.2.2) = s.children.findSome? (f s.tag) := by
  have hfst : (s.children.zipIdx.map Prod.fst).findSome? (f s.tag) =
      s.children.findSome? (f s.tag) := by rw [List.zipIdx_map_fst]
  simp only [← hfst, turns, hs, List.findSome?_map]
  rfl

/-- The parts of a condition are the branches that the policy writes. -/
theorem findSome?_turns_of_condition {β : Type} (hs : s.shape = .condition)
    (f : String → Value → Option β) :
    ((s.turns policy).findSome? fun p => f p.2.1 p.2.2) =
      let result := f (s.tag ++ "." ++ resultField) (s.getD resultField)
      match policy with
      | .expand => (f (s.tag ++ "." ++ conditionField) (s.getD conditionField)).or result
      | .collapse => result := by
  cases policy with
  | expand =>
    simp only [turns, hs, List.findSome?_cons, List.findSome?_nil]
    cases f (s.tag ++ "." ++ conditionField) (s.getD conditionField) with
    | some b => rfl
    | none => cases f (s.tag ++ "." ++ resultField) (s.getD resultField) <;> rfl
  | collapse =>
    simp only [turns, hs, List.findSome?_cons, List.findSome?_nil]
    cases f (s.tag ++ "." ++ resultField) (s.getD resultField) <;> rfl

/-- What is shown of a node on its own line: all of a plain one, and the head of a condition. -/
def shown? (s : Symbol) : Option Symbol :=
  match s.shape with
  | .plain => some s
  | .condition => some s.head
  | .noOp | .sequence => none

theorem mem_turns {p : Turn × String × Value} (h : p ∈ s.turns policy) :
    p.2.2 ∈ s.children ∨ ∃ name, p.2.2 = s.getD name := by
  unfold turns at h
  split at h
  · obtain ⟨⟨w, k⟩, hp, rfl⟩ := List.mem_map.mp h
    exact .inl (List.mem_of_getElem? (List.mem_zipIdx_iff_getElem?.mp hp))
  · simp only [List.mem_cons, List.not_mem_nil, or_false] at h
    rcases h with rfl | rfl
    · exact .inr ⟨_, rfl⟩
    · exact .inr ⟨_, rfl⟩
  · obtain rfl := List.mem_singleton.mp h
    exact .inr ⟨_, rfl⟩
  · cases h
  · cases h

end Symbol

/-- The node positions of a value under a policy: the value itself, and those of all that the policy
goes on to. Each has a way down to it and the frames around it, the innermost first. -/
inductive NodeAt (policy : Policy) : Value → List Turn → List String → Value → Prop where
  | here {v : Value} : NodeAt policy v [] [] v
  | step {s : Symbol} {turn : Turn} {frame : String} {w u : Value} {way : List Turn}
      {stack : List String} (hs : (turn, frame, w) ∈ s.turns policy)
      (hu : NodeAt policy w way stack u) :
      NodeAt policy (.symbol s) (turn :: way) (stack ++ [frame]) u

/-- A node has the fault of the first part, in order, that has one. -/
theorem Symbol.fault?_eq (policy : Policy) (s : Symbol) :
    ((Value.symbol s).outline noChoices).fault? policy = (s.turns policy).findSome? fun p =>
      ((p.2.2.outline noChoices).fault? policy).map (·.inFrame p.2.1) := by
  rw [Value.outline, Symbol.outline_eq]
  cases hs : s.shape with
  | noOp => simp [Symbol.turns, hs, Outline.fault?]
  | plain => simp [Symbol.turns, hs, noChoices, Outline.fault?]
  | sequence =>
    rw [Symbol.findSome?_turns_of_sequence hs fun frame w =>
      ((w.outline noChoices).fault? policy).map (·.inFrame frame)]
    simp only [Outline.fault?, Outline.fault?_all_eq, List.findSome?_map, List.map_findSome?]
    rfl
  | condition =>
    rw [Symbol.findSome?_turns_of_condition hs fun frame w =>
      ((w.outline noChoices).fault? policy).map (·.inFrame frame)]
    rfl

/-- A list stands at the node position at the end of the way, and none at an earlier one. -/
structure FirstBareList (policy : Policy) (v : Value) (way : List Turn) (stack : List String)
    (vs : List Value) : Prop where
  here : NodeAt policy v way stack (.list vs)
  first : ∀ way' stack' vs', NodeAt policy v way' stack' (.list vs') →
    way' = way ∨ WayBefore way way'

/-- What is first in the first part that has any is first in the node. -/
theorem FirstBareList.step {turn : Turn} {frame : String}
    {earlier later : List (Turn × String × Value)} {vs : List Value}
    (hturns : s.turns policy = earlier ++ (turn, frame, w) :: later)
    (hnone : ∀ p ∈ earlier, ∀ way stack vs, ¬ NodeAt policy p.2.2 way stack (.list vs))
    (h : FirstBareList policy w way stack vs) :
    FirstBareList policy (.symbol s) (turn :: way) (stack ++ [frame]) vs := by
  refine ⟨.step (by simp [hturns]) h.here, ?_⟩
  -- An earlier part has no bare list, and a later one comes after this part in any case.
  intro way' stack' vs' hlist
  cases hlist with
  | @step _ turn' frame' w' _ way' stack' hs hu =>
    have hsorted := Symbol.pairwise_turns policy s
    rw [hturns] at hs hsorted
    rcases List.mem_append.mp hs with he | hs
    · exact absurd hu (hnone _ he way' stack' vs')
    · rcases List.mem_cons.mp hs with heq | hl
      · obtain ⟨rfl, rfl, rfl⟩ : turn' = turn ∧ frame' = frame ∧ w' = w := by
          simpa using heq
        rcases h.first way' stack' vs' hu with rfl | hb
        · exact .inl rfl
        · exact .inr (.inr ⟨rfl, hb⟩)
      · have hrest := (List.pairwise_append.mp hsorted).2.1
        exact .inr (.inl ((List.pairwise_cons.mp hrest).1 _ hl))

/-- A fault tells of the first bare list in a value, and no fault of there being none. -/
def TellsFirst (policy : Policy) (v : Value) : Option Fault → Prop
  | none => ∀ way stack vs, ¬ NodeAt policy v way stack (.list vs)
  | some f => ∃ way stack vs, FirstBareList policy v way stack vs ∧
      f = .through (.malformed (bareListDetail vs.length)) stack

/-- A node tells of the first bare list if its parts do. -/
theorem Symbol.tellsFirst (h : ∀ p ∈ s.turns policy,
    TellsFirst policy p.2.2 ((p.2.2.outline noChoices).fault? policy)) :
    TellsFirst policy (.symbol s) (((Value.symbol s).outline noChoices).fault? policy) := by
  rw [Symbol.fault?_eq]
  cases hf : (s.turns policy).findSome? fun p =>
      ((p.2.2.outline noChoices).fault? policy).map (·.inFrame p.2.1) with
  | none =>
    intro way stack vs hlist
    cases hlist with
    | @step _ turn frame w _ way stack hs hu =>
      have hp := h _ hs
      rw [Option.map_eq_none_iff.mp (List.findSome?_eq_none_iff.mp hf _ hs)] at hp
      exact hp way stack vs hu
  | some f =>
    obtain ⟨earlier, ⟨turn, frame, w⟩, later, hturns, hpart, hnone⟩ :=
      List.findSome?_eq_some_iff.mp hf
    obtain ⟨f, hw, rfl⟩ := Option.map_eq_some_iff.mp hpart
    have hmem : (turn, frame, w) ∈ s.turns policy := by simp [hturns]
    have hp := h _ hmem
    rw [hw] at hp
    obtain ⟨way, stack, vs, hfirst, rfl⟩ := hp
    refine ⟨turn :: way, stack ++ [frame], vs, hfirst.step hturns ?_, Fault.inFrame_through⟩
    intro p he
    have hp := h _ (hturns ▸ List.mem_append_left _ he)
    rwa [Option.map_eq_none_iff.mp (hnone _ he)] at hp

theorem Value.tellsFirst (policy : Policy) (v : Value) :
    TellsFirst policy v ((v.outline noChoices).fault? policy) := by
  induction v using Value.node_induction with
  | leaf v hv =>
    cases v with
    | symbol s => cases hv
    | list vs =>
      refine ⟨[], [], vs, ⟨.here, ?_⟩, rfl⟩
      intro way stack ws h
      cases h
      exact .inl rfl
    | _ =>
      intro way stack vs h
      cases h
  | node s ih ihc =>
    apply Symbol.tellsFirst
    intro p hp
    rcases Symbol.mem_turns hp with hw | ⟨name, hw⟩
    · exact ihc _ hw
    · rw [hw]
      exact ih name

/-! The lines of nodes show what stands at node positions. -/

theorem Symbol.mem_lines_iff :
    (∃ line ∈ (Value.symbol s).lines noChoices policy n, line.symbol? = some t) ↔
      s.shown? = some t ∨ ∃ p ∈ s.turns policy,
        ∃ line ∈ p.2.2.lines noChoices policy (n + 1), line.symbol? = some t := by
  have hmark : ∀ tag m k, (Line.marker tag m k).symbol? = none := fun _ _ _ => rfl
  have hnode : ∀ s k, (Line.node s k).symbol? = some s := fun _ _ => rfl
  rw [Value.lines_symbol]
  unfold Symbol.turns Symbol.shown?
  cases s.shape with
  | noOp => simp
  | plain => simp [noChoices, hnode]
  | sequence =>
    simp only [List.mem_flatMap, List.mem_map, reduceCtorEq, false_or]
    constructor
    · rintro ⟨line, ⟨w, hw, hl⟩, ht⟩
      obtain ⟨k, hk⟩ := List.mem_iff_getElem?.mp hw
      exact ⟨_, ⟨(w, k), List.mem_zipIdx_iff_getElem?.mpr hk, rfl⟩, line, hl, ht⟩
    · rintro ⟨_, ⟨⟨w, k⟩, hp, rfl⟩, line, hl, ht⟩
      exact ⟨line, ⟨w, List.mem_of_getElem? (List.mem_zipIdx_iff_getElem?.mp hp), hl⟩, ht⟩
  | condition =>
    cases policy <;>
      simp [noChoices, Symbol.framed, hmark, hnode, or_and_right, exists_or]

/-- The nodes on lines are those shown at node positions. -/
theorem Value.exists_line_iff (v : Value) (n : Int) :
    (∃ line ∈ v.lines noChoices policy n, line.symbol? = some t) ↔
      ∃ way stack s, NodeAt policy v way stack (.symbol s) ∧ s.shown? = some t := by
  induction v using Value.node_induction generalizing n with
  | leaf v hv =>
    cases v with
    | symbol s => cases hv
    | _ =>
      constructor
      · rintro ⟨line, hl, -⟩
        cases hl
      · rintro ⟨way, stack, s, h, -⟩
        cases h
  | node s ih ihc =>
    have hparts : ∀ p ∈ s.turns policy,
        ((∃ line ∈ p.2.2.lines noChoices policy (n + 1), line.symbol? = some t) ↔
          ∃ way stack s, NodeAt policy p.2.2 way stack (.symbol s) ∧ s.shown? = some t) := by
      intro p hp
      rcases Symbol.mem_turns hp with hw | ⟨name, hw⟩
      · exact ihc _ hw (n + 1)
      · rw [hw]
        exact ih name (n + 1)
    rw [Symbol.mem_lines_iff]
    constructor
    · rintro (hs | ⟨⟨turn, frame, w⟩, hp, hl⟩)
      · exact ⟨[], [], s, .here, hs⟩
      · obtain ⟨way, stack, u, hu, ht⟩ := (hparts _ hp).mp hl
        exact ⟨turn :: way, stack ++ [frame], u, .step hp hu, ht⟩
    · rintro ⟨way, stack, u, hu, ht⟩
      cases hu with
      | here => exact .inl ht
      | step hs hu => exact .inr ⟨_, hs, (hparts _ hs).mpr ⟨_, _, _, hu, ht⟩⟩

namespace Tree

variable {tree : Tree}

/-- A list stands at a node position. -/
def HasBareList (policy : Policy) (tree : Tree) : Prop :=
  ∃ way stack vs, NodeAt policy (Value.ofSymbol? tree.logic) way stack (.list vs)

/-- A node at a node position hides a sequence or a condition in what is shown of it. -/
def HasHidden (policy : Policy) (tree : Tree) : Prop :=
  ∃ way stack s t, NodeAt policy (Value.ofSymbol? tree.logic) way stack (.symbol s) ∧
    s.shown? = some t ∧ t.Hides

theorem exists_line_iff : (∃ line ∈ tree.lines noChoices policy, line.symbol? = some t) ↔
    ∃ way stack s, NodeAt policy (Value.ofSymbol? tree.logic) way stack (.symbol s) ∧
      s.shown? = some t :=
  Value.exists_line_iff _ (-1)

end Tree

namespace Layout

variable {l : Layout}

theorem handles_eq_noChoices (hh : l.handlers = []) : l.handles = noChoices := by
  funext tag
  simp [handles, handler?, hh, noChoices]

/-- The three ends of a flattening without handlers. -/
theorem flatten_cases (hl : l.isExtracting = false) (hh : l.handlers = []) (tree : Tree)
    (policy : Policy) :
    (∃ way stack vs, FirstBareList policy (Value.ofSymbol? tree.logic) way stack vs ∧
      l.flatten tree policy =
        .error ⟨.malformed (bareListDetail vs.length), some (tree.context stack)⟩) ∨
    (¬ tree.HasBareList policy ∧ tree.HasHidden policy ∧ ∃ i t field inner,
      FirstHiding (l.emit tree policy).2.sink.finish i t ∧
      t.nestedField? = some (field, inner) ∧
      l.flatten tree policy = .error
        ⟨.nonFlat ((Offence.nested field t.tag inner).describe i), some (tree.context [])⟩) ∨
    (¬ tree.HasBareList policy ∧ ¬ tree.HasHidden policy ∧
      ∃ q, l.flatten tree policy = .ok q) := by
  have hstd : l.IsStandard := ⟨hl, .inl hh⟩
  have hnone := handles_eq_noChoices hh
  have htells := (Value.ofSymbol? tree.logic).tellsFirst policy
  cases hf : (tree.outline noChoices).fault? policy with
  | some f =>
    have htells : TellsFirst policy (Value.ofSymbol? tree.logic) (some f) := hf ▸ htells
    obtain ⟨way, stack, vs, hfirst, rfl⟩ := htells
    have hflat := hstd.flatten_eq tree policy
    rw [hnone] at hflat
    simp only [hf, Fault.located_through] at hflat
    exact .inl ⟨way, stack, vs, hfirst, hflat⟩
  | none =>
    have htells : TellsFirst policy (Value.ofSymbol? tree.logic) none := hf ▸ htells
    have hbare : ¬ tree.HasBareList policy := by
      rintro ⟨way, stack, vs, h⟩
      exact htells way stack vs h
    have hf : (tree.outline l.handles).fault? policy = none := by rwa [hnone]
    have hwritten : (l.emit tree policy).2.sink.finish = tree.lines noChoices policy := by
      rw [hstd.finish_emit hf, hnone]
    rcases hstd.flatten_cases hf with
      ⟨q, hok, hall⟩ | ⟨i, t, field, inner, hfirst, hnested, herr⟩
    · refine .inr (.inr ⟨hbare, ?_, q, hok⟩)
      rintro ⟨way, stack, s, t, hs, hshown, hhides⟩
      obtain ⟨line, hmem, ht⟩ := Tree.exists_line_iff.mpr ⟨way, stack, s, hs, hshown⟩
      exact hall line (hwritten ▸ hmem) t ht hhides
    · obtain ⟨line, hi, ht⟩ := hfirst.1
      have hhides := hfirst.2.1
      have hmem : line ∈ tree.lines noChoices policy := hwritten ▸ List.mem_of_getElem? hi
      obtain ⟨way, stack, s, hs, hshown⟩ := Tree.exists_line_iff.mp ⟨line, hmem, ht⟩
      exact .inr (.inl ⟨hbare, ⟨way, stack, s, t, hs, hshown, hhides⟩, i, t, field, inner,
        hfirst, hnested, herr⟩)

/-- A list where a condition is expected, and behind it an effect that hides a choice. -/
def tangledCard : Tree :=
  let investigator : Value := .symbol ⟨Cards.currInvestigator, [], none, []⟩
  let choice : Value :=
    .symbol ⟨Cards.may, Cards.may.fields.zip [investigator, .nil, .nil], none, []⟩
  let effect : Value :=
    .symbol ⟨Cards.gain, Cards.gain.fields.zip [investigator, .list [choice]], none, []⟩
  let resolving : Value := .symbol ⟨Cards.whileResolving,
    Cards.whileResolving.fields.zip [.list [.nil, .nil], effect], none, []⟩
  ⟨.absent, "skill", some ⟨Cards.seq, Cards.seq.fields.zip [.list [.nil, resolving]], none, []⟩⟩

end Layout

end RulesText
