import RulesText.Proofs.Nesting

/-!
Pruning: a node is named by the way down to it, and taking it out of the tree takes its lines out of
the lines of the tree. Stepping over a branch passes the lines that pruning takes out.
-/
namespace RulesText

variable {choice : String → Bool} {n : Int} {k : Nat} {ls : List Line} {s : Symbol} {v w : Value}
  {f : Value → Value} {name other : String}

/-- A turn on the way down: where to go from a node. -/
inductive Turn where
  | child (k : Nat)
  | condition
  | result

namespace Payload

/-- Changes the first field of that name. -/
def modify (f : Value → Value) (name : String) : Payload → Payload
  | [] => []
  | (field, v) :: rest =>
    if field = name then (field, f v) :: rest else (field, v) :: modify f name rest

variable {p : Payload}

theorem get?_modify_self : (p.modify f name).get? name = (p.get? name).map f := by
  induction p with
  | nil => rfl
  | cons field rest ih =>
    obtain ⟨field, v⟩ := field
    rw [modify]
    split <;> simp_all [get?_cons]

theorem get?_modify_ne (h : name ≠ other) : (p.modify f name).get? other = p.get? other := by
  induction p with
  | nil => rfl
  | cons field rest ih =>
    obtain ⟨field, v⟩ := field
    rw [modify]
    split <;> simp_all [get?_cons]

theorem modify_of_get?_eq_none (h : p.get? name = none) : p.modify f name = p := by
  induction p with
  | nil => rfl
  | cons field rest ih =>
    obtain ⟨field, v⟩ := field
    rw [get?_cons] at h
    split at h
    · cases h
    · next hf => rw [modify, if_neg hf, ih h]

theorem erase_modify_self : (p.modify f name).erase name = p.erase name := by
  induction p with
  | nil => rfl
  | cons field rest ih =>
    obtain ⟨field, v⟩ := field
    rw [modify]
    split <;> simp_all [erase]

theorem erase_modify_ne (h : name ≠ other) :
    (p.modify f name).erase other = (p.erase other).modify f name := by
  induction p with
  | nil => rfl
  | cons field rest ih =>
    obtain ⟨field, v⟩ := field
    by_cases hf : field = name
    · subst hf
      simp [modify, erase, h]
    · by_cases ho : field = other
      · subst ho
        simp [modify, erase, hf]
      · simp [modify, erase, hf, ho, ih]

end Payload

namespace Symbol

/-- Changes the first field of that name. -/
def modify (s : Symbol) (f : Value → Value) (name : String) : Symbol :=
  { s with payload := Payload.modify f name s.payload }

theorem get?_modify_self : (s.modify f name).get? name = (s.get? name).map f :=
  Payload.get?_modify_self

theorem get?_modify_ne (h : name ≠ other) : (s.modify f name).get? other = s.get? other :=
  Payload.get?_modify_ne h

theorem getD_modify_self (hf : f .nil = .nil) : (s.modify f name).getD name = f (s.getD name) := by
  rw [getD, getD, get?_modify_self]
  cases s.get? name <;> simp [hf]

theorem getD_modify_ne (h : name ≠ other) : (s.modify f name).getD other = s.getD other := by
  rw [getD, getD, get?_modify_ne h]

theorem without_modify_self : (s.modify f name).without name = s.without name := by
  rw [without, without, get?_modify_self]
  cases h : s.get? name with
  | none =>
    obtain ⟨variant, p, text, stripped⟩ := s
    have hp : Payload.modify f name p = p := Payload.modify_of_get?_eq_none h
    simp [modify, hp]
  | some v => simp [modify, Payload.erase_modify_self]

theorem without_modify_ne (h : name ≠ other) :
    (s.modify f name).without other = (s.without other).modify f name := by
  rw [without, without, get?_modify_ne h]
  cases s.get? other with
  | none => rfl
  | some v => simp [modify, Payload.erase_modify_ne h]

/-- The head of a node does not show what its branches hold. -/
theorem head_modify (h : name = conditionField ∨ name = resultField) :
    (s.modify f name).head = s.head := by
  rcases h with rfl | rfl
  · simp [head, withoutAll, without_modify_self]
  · have hne : resultField ≠ conditionField := by decide
    simp [head, withoutAll, without_modify_ne hne, without_modify_self]

/-- The part of a node that a turn leads to, where it is written out. -/
def part? (choice : String → Bool) (s : Symbol) : Turn → Option Value
  | .child k => s.children[k]?
  | .condition => if s.hasBranches choice then some (s.getD conditionField) else none
  | .result => if s.hasBranches choice then some (s.getD resultField) else none

theorem part?_condition : s.part? choice .condition = some w ↔
    s.hasBranches choice = true ∧ s.getD conditionField = w := by
  simp [part?]

theorem part?_result : s.part? choice .result = some w ↔
    s.hasBranches choice = true ∧ s.getD resultField = w := by
  simp [part?]

/-- Changes the part of a node that a turn leads to. -/
def modifyPart (s : Symbol) (f : Value → Value) : Turn → Symbol
  | .child k => s.modify (fun | .list vs => .list (vs.modify k f) | v => v) symbolsField
  | .condition => s.modify f conditionField
  | .result => s.modify f resultField

theorem children_modifyPart : (s.modifyPart f (.child k)).children = s.children.modify k f := by
  have hshape : (s.modifyPart f (.child k)).shape = s.shape := rfl
  rw [children, children, hshape, modifyPart, get?_modify_self]
  cases s.shape with
  | sequence =>
    cases s.get? symbolsField with
    | none => simp
    | some v => cases v <;> simp [Value.list?]
  | noOp | condition | plain => simp

theorem hasBranches_modifyPart {turn : Turn} :
    (s.modifyPart f turn).hasBranches choice = s.hasBranches choice := by
  cases turn <;> rfl

theorem part?_modifyPart {turn : Turn} (hf : f .nil = .nil) (h : s.part? choice turn = some w) :
    (s.modifyPart f turn).part? choice turn = some (f w) := by
  cases turn with
  | child k =>
    rw [part?] at h ⊢
    rw [children_modifyPart, List.getElem?_modify_eq, h]
    rfl
  | condition =>
    obtain ⟨hb, rfl⟩ := part?_condition.mp h
    exact part?_condition.mpr ⟨hasBranches_modifyPart.trans hb, getD_modify_self hf⟩
  | result =>
    obtain ⟨hb, rfl⟩ := part?_result.mp h
    exact part?_result.mpr ⟨hasBranches_modifyPart.trans hb, getD_modify_self hf⟩

/-- The lines of a node before a part of it. -/
def before (choice : String → Bool) (s : Symbol) (n : Int) : Turn → List Line
  | .child k => (s.children.take k).flatMap (·.lines choice .expand (n + 1))
  | .condition => [.node s.head n, .marker s.tag .conditionStart n]
  | .result =>
    .node s.head n :: .marker s.tag .conditionStart n ::
      ((s.getD conditionField).lines choice .expand (n + 1) ++
        .marker s.tag .resultStart n :: s.bound choice .expand n)

/-- The lines of a node after a part of it. -/
def after (choice : String → Bool) (s : Symbol) (n : Int) : Turn → List Line
  | .child k => (s.children.drop (k + 1)).flatMap (·.lines choice .expand (n + 1))
  | .condition =>
    .marker s.tag .resultStart n :: (s.bound choice .expand n ++
      (s.getD resultField).lines choice .expand (n + 1) ++ [.marker s.tag .sequenceEnd n])
  | .result => [.marker s.tag .sequenceEnd n]

theorem lines_of_child (h : s.children[k]? = some w) : (Value.symbol s).lines choice .expand n =
    s.children.flatMap (·.lines choice .expand (n + 1)) := by
  rw [Value.lines_symbol]
  unfold children at h ⊢
  split <;> simp_all

/-- The lines of a part stand in the lines of the node. -/
theorem lines_part {turn : Turn} (h : s.part? choice turn = some w) :
    (Value.symbol s).lines choice .expand n =
      s.before choice n turn ++ (w.lines choice .expand (n + 1) ++ s.after choice n turn) := by
  cases turn with
  | child k =>
    have hw : s.children[k]? = some w := h
    obtain ⟨hk, hg⟩ := List.getElem?_eq_some_iff.mp hw
    have hc : s.children.take k ++ w :: s.children.drop (k + 1) = s.children := by
      rw [← hg, ← List.drop_eq_getElem_cons hk, List.take_append_drop]
    calc (Value.symbol s).lines choice .expand n
      _ = s.children.flatMap (·.lines choice .expand (n + 1)) := lines_of_child hw
      _ = (s.children.take k ++ w :: s.children.drop (k + 1)).flatMap
            (·.lines choice .expand (n + 1)) := by rw [hc]
      _ = _ := by simp [before, after]
  | condition =>
    obtain ⟨hb, rfl⟩ := part?_condition.mp h
    rw [lines_of_hasBranches hb]
    simp [framed, before, after]
  | result =>
    obtain ⟨hb, rfl⟩ := part?_result.mp h
    rw [lines_of_hasBranches hb]
    simp [framed, before, after]

theorem detached_after {turn : Turn} : Detached (s.after choice n turn) := by
  cases turn with
  | child k => exact (Framed.flatMap fun v _ => v.lines_framed (n + 1)).detached
  | condition | result => exact detached_marker (by decide)

theorem bound_modify (h : name ≠ Cards.subjectField) :
    (s.modify f name).bound choice .expand n = s.bound choice .expand n := by
  rw [bound, binding, getD_modify_ne h]
  rfl

theorem before_modifyPart {turn : Turn} :
    (s.modifyPart f turn).before choice n turn = s.before choice n turn := by
  cases turn with
  | child k =>
    have hk : (s.children.take k).length ≤ k := List.length_take_le k s.children
    rw [before, children_modifyPart, List.take_modify, List.modify_eq_self hk, before]
  | condition =>
    rw [before, modifyPart, head_modify (.inl rfl)]
    rfl
  | result =>
    have hc : resultField ≠ conditionField := by decide
    rw [before, modifyPart, head_modify (.inr rfl), getD_modify_ne hc, bound_modify (by decide)]
    rfl

theorem after_modifyPart {turn : Turn} :
    (s.modifyPart f turn).after choice n turn = s.after choice n turn := by
  cases turn with
  | child k =>
    have hk : k < k + 1 := Nat.lt_succ_self k
    rw [after, children_modifyPart, List.drop_modify_of_lt _ _ _ _ hk, after]
  | condition =>
    have hr : conditionField ≠ resultField := by decide
    rw [after, modifyPart, getD_modify_ne hr, bound_modify (by decide)]
    rfl
  | result => rfl

/-- Changing a part of a node changes the lines of that part only. -/
theorem lines_modifyPart {turn : Turn} (hf : f .nil = .nil) (h : s.part? choice turn = some w) :
    (Value.symbol (s.modifyPart f turn)).lines choice .expand n =
      s.before choice n turn ++ ((f w).lines choice .expand (n + 1) ++ s.after choice n turn) := by
  rw [lines_part (part?_modifyPart hf h), before_modifyPart, after_modifyPart]

/-! What keeps a value from being written out in full. -/

theorem fault?_of_child (h : s.children[k]? = some w) :
    ((Value.symbol s).outline choice).fault? .expand = none ↔
      ∀ v ∈ s.children, (v.outline choice).fault? .expand = none := by
  have hs : s.shape = .sequence := by
    unfold children at h
    split at h
    · assumption
    all_goals cases h
  rw [Value.outline, outline_eq, hs]
  simp [Outline.fault?, Outline.fault?_all]

theorem fault?_of_hasBranches (h : s.hasBranches choice = true) :
    ((Value.symbol s).outline choice).fault? .expand = none ↔
      ((s.getD conditionField).outline choice).fault? .expand = none ∧
      (choice s.tag = true →
        ((s.getD Cards.subjectField).outline choice).fault? .expand = none) ∧
      ((s.getD resultField).outline choice).fault? .expand = none := by
  rw [Value.outline, outline_eq]
  split <;> simp_all [hasBranches, Outline.fault?]

/-- A node that can be written out still can be when a part of it is changed into such a value. -/
theorem fault?_modifyPart {turn : Turn} (hn : f .nil = .nil) (h : s.part? choice turn = some w)
    (hf : (w.outline choice).fault? .expand = none → ((f w).outline choice).fault? .expand = none)
    (hs : ((Value.symbol s).outline choice).fault? .expand = none) :
    ((Value.symbol (s.modifyPart f turn)).outline choice).fault? .expand = none := by
  have h' := part?_modifyPart hn h
  cases turn with
  | child k =>
    have hw : s.children[k]? = some w := h
    rw [fault?_of_child hw] at hs
    rw [fault?_of_child h', children_modifyPart]
    intro v hv
    obtain ⟨j, hj⟩ := List.mem_iff_getElem?.mp hv
    by_cases hk : k = j
    · subst hk
      rw [List.getElem?_modify_eq, hw] at hj
      obtain rfl := Option.some.inj hj
      exact hf (hs w (List.mem_of_getElem? hw))
    · rw [List.getElem?_modify_ne _ _ hk] at hj
      exact hs v (List.mem_of_getElem? hj)
  | condition =>
    obtain ⟨hb, rfl⟩ := part?_condition.mp h
    obtain ⟨hc, hsub, hr⟩ := (fault?_of_hasBranches hb).mp hs
    rw [fault?_of_hasBranches (hasBranches_modifyPart.trans hb), modifyPart,
      getD_modify_self hn, getD_modify_ne (by decide), getD_modify_ne (by decide)]
    exact ⟨hf hc, hsub, hr⟩
  | result =>
    obtain ⟨hb, rfl⟩ := part?_result.mp h
    obtain ⟨hc, hsub, hr⟩ := (fault?_of_hasBranches hb).mp hs
    rw [fault?_of_hasBranches (hasBranches_modifyPart.trans hb), modifyPart,
      getD_modify_self hn, getD_modify_ne (by decide), getD_modify_ne (by decide)]
    exact ⟨hc, hsub, hf hr⟩

end Symbol

namespace Value

/-- The value at the end of a way down, if all of the way is written out. -/
def at? (choice : String → Bool) : List Turn → Value → Option Value
  | [], v => some v
  | turn :: path, .symbol s => (s.part? choice turn).bind (at? choice path)
  | _ :: _, _ => none

/-- Takes out what stands at the end of a way down. -/
def prune : List Turn → Value → Value
  | [], _ => .nil
  | turn :: path, .symbol s => .symbol (s.modifyPart (prune path) turn)
  | _ :: _, v => v

/-- The lines of a value before what stands at the end of a way down. -/
def before (choice : String → Bool) : List Turn → Value → Int → List Line
  | turn :: path, .symbol s, n =>
    s.before choice n turn ++
      (s.part? choice turn).elim [] fun w => before choice path w (n + 1)
  | _, _, _ => []

variable {path : List Turn}

theorem prune_nil : Value.prune path .nil = .nil := by
  cases path <;> rfl

theorem at?_cons {turn : Turn} (h : v.at? choice (turn :: path) = some w) :
    ∃ s part, v = .symbol s ∧ s.part? choice turn = some part ∧ part.at? choice path = some w := by
  cases v with
  | symbol s =>
    obtain ⟨part, hp, hw⟩ := Option.bind_eq_some_iff.mp h
    exact ⟨s, part, rfl, hp, hw⟩
  | _ => cases h

/-- Pruning keeps the lines before and after what it takes out. -/
theorem lines_prune (h : v.at? choice path = some w) :
    ∃ after, Detached after ∧
      v.lines choice .expand n =
        v.before choice path n ++ (w.lines choice .expand (n + path.length) ++ after) ∧
      (v.prune path).lines choice .expand n = v.before choice path n ++ after := by
  -- Along the way down: each turn puts the other lines of its node around those of the part.
  induction path generalizing v n with
  | nil =>
    obtain rfl := Option.some.inj h
    exact ⟨[], detached_nil, by simp [before], rfl⟩
  | cons turn path ih =>
    obtain ⟨s, part, rfl, hp, hw⟩ := at?_cons h
    obtain ⟨after, ha, hl, hr⟩ := ih hw (n := n + 1)
    have hb : (Value.symbol s).before choice (turn :: path) n =
        s.before choice n turn ++ part.before choice path (n + 1) := by
      simp [before, hp]
    have hn : n + (turn :: path).length = n + 1 + path.length := by
      rw [List.length_cons]
      omega
    refine ⟨after ++ s.after choice n turn, ha.append Symbol.detached_after, ?_, ?_⟩
    · rw [Symbol.lines_part hp, hl, hb, hn]
      simp
    · rw [prune, Symbol.lines_modifyPart prune_nil hp, hr, hb]
      simp

theorem fault?_prune (h : v.at? choice path = some w)
    (hv : (v.outline choice).fault? .expand = none) :
    ((v.prune path).outline choice).fault? .expand = none := by
  induction path generalizing v with
  | nil => rfl
  | cons turn path ih =>
    obtain ⟨s, part, rfl, hp, hw⟩ := at?_cons h
    exact Symbol.fault?_modifyPart prune_nil hp (fun hpart => ih hw hpart) hv

end Value

/-- The lines of a node with branches are a frame around those of its branches. -/
theorem Symbol.frameAt_branches (h : s.hasBranches choice = true) :
    FrameAt choice ((Value.symbol s).lines choice .expand n) 0 s n
      ((s.getD conditionField).lines choice .expand (n + 1))
      (s.bound choice .expand n ++ (s.getD resultField).lines choice .expand (n + 1)) := by
  rw [lines_of_hasBranches h]
  refine .self (Value.lines_framed _ _) ?_ ?_ ?_
  · exact .append (.bound (Value.lines_framed _ _)) (Value.lines_framed _ _)
  · exact fun l hl => Value.indent_lt_of_mem hl
  · exact .bound fun l hl => Value.indent_lt_of_mem hl

/-- A node with branches opens a frame around all of its lines. -/
theorem Symbol.frameAt_lines (h : s.hasBranches choice = true) :
    ∃ c r, (Value.symbol s).lines choice .expand n = s.framed .expand n c r ∧
      FrameAt choice (s.framed .expand n c r) 0 s n c r := by
  have hframe := frameAt_branches (n := n) h
  rw [lines_of_hasBranches h] at hframe
  exact ⟨_, _, lines_of_hasBranches h, hframe⟩

/-- Stepping over a frame passes all of its lines. -/
theorem FrameAt.skipBranch_eq {i : Nat} {c r : List Line} (h : FrameAt choice ls i s n c r) :
    Cursor.skipBranch ⟨ls, i⟩ = (true, ⟨ls, i + (s.framed .expand n c r).length⟩) := by
  have hp : i + 3 + c.length + r.length + 1 = i + (s.framed .expand n c r).length := by
    rw [length_framed]
    omega
  rw [Cursor.skipBranch, h.branchEnd?_eq, ← hp]

namespace Tree

/-- What stands in a tree at the end of a way down. -/
def at? (choice : String → Bool) (path : List Turn) (t : Tree) : Option Value :=
  (Value.ofSymbol? t.logic).at? choice path

/-- Takes out what stands at the end of a way down. Without its root, a tree has no logic. -/
def prune (path : List Turn) (t : Tree) : Tree :=
  { t with logic := ((Value.ofSymbol? t.logic).prune path).symbol? }

/-- The index of the line at which what stands at the end of a way down begins. -/
def lineIndex (choice : String → Bool) (path : List Turn) (t : Tree) : Nat :=
  ((Value.ofSymbol? t.logic).before choice path (-1)).length

variable {path : List Turn} {t : Tree}

theorem ofSymbol?_prune :
    Value.ofSymbol? (t.prune path).logic = (Value.ofSymbol? t.logic).prune path := by
  unfold prune
  cases path <;> cases t.logic <;> rfl

theorem lines_prune (h : t.at? choice path = some w) :
    ∃ before after, before.length = t.lineIndex choice path ∧ Detached after ∧
      t.lines choice .expand =
        before ++ (w.lines choice .expand (path.length - 1) ++ after) ∧
      (t.prune path).lines choice .expand = before ++ after := by
  obtain ⟨after, ha, hl, hp⟩ := Value.lines_prune h (n := -1)
  refine ⟨_, after, rfl, ha, ?_, ?_⟩
  · rw [show (path.length : Int) - 1 = -1 + path.length by omega]
    exact hl
  · rw [lines, outline, ofSymbol?_prune]
    exact hp

end Tree

namespace Layout

variable {l : Layout} {tree : Tree} {q : Sequence} {path : List Turn}

/-- Stepping over a condition passes the lines that are gone when the condition is pruned. -/
theorem IsStandard.skipBranch_passes_pruned (h : l.IsStandard)
    (hq : l.flatten tree .expand = .ok q) (hl : q.linear? = some ls)
    (hs : tree.at? l.handles path = some (.symbol s)) (hc : s.shape = .condition) :
    ls[tree.lineIndex l.handles path]? = some (.node s.head (path.length - 1)) ∧
    ∃ p q', Cursor.skipBranch ⟨ls, tree.lineIndex l.handles path⟩ = (true, ⟨ls, p⟩) ∧
      tree.lineIndex l.handles path < p ∧
      l.flatten (tree.prune path) .expand = .ok q' ∧
      q'.linear? = some (ls.take (tree.lineIndex l.handles path) ++ ls.drop p) := by
  obtain ⟨hf, hflat, rfl⟩ := h.flatten_lines_iff.mp ⟨q, hq, hl⟩
  obtain ⟨before, after, hi, ha, hlines, hpruned⟩ := Tree.lines_prune hs
  have hb : s.hasBranches l.handles = true := by simp [Symbol.hasBranches, hc]
  obtain ⟨c, r, hframed, hself⟩ := Symbol.frameAt_lines (n := path.length - 1) hb
  rw [hframed] at hlines
  -- The frame of the node by itself is a frame of the tree, as what follows opens nothing in it.
  have hat : FrameAt l.handles (tree.lines l.handles .expand) (tree.lineIndex l.handles path)
      s (path.length - 1) c r := hself.of_occurs ⟨before, after, hlines, hi, ha⟩
  have hflat' : checkLines (before ++ after) = .ok () := by
    apply checkLines_of_subset hflat
    intro line hline
    simp only [hlines, List.mem_append] at hline ⊢
    exact hline.imp_right .inr
  have hf' : ((tree.prune path).outline l.handles).fault? .expand = none := by
    rw [Tree.outline, Tree.ofSymbol?_prune]
    exact Value.fault?_prune hs hf
  obtain ⟨q', hq', hl'⟩ := h.flatten_lines_iff.mpr ⟨hf', hflat', hpruned.symm⟩
  refine ⟨hat.head_eq, _, q', hat.skipBranch_eq, ?_, hq', ?_⟩
  · rw [length_framed]
    omega
  · rw [hl', hlines, ← hi, List.take_left, ← List.drop_drop, List.drop_left, List.drop_left]

/-- The inner choice is stepped over while the condition and the choice around it stay open. -/
theorem nestedChoicesCard_skipBranch :
    let path : List Turn := [.child 0, .result, .result]
    ∃ q ls s, Cards.layout.flatten nestedChoicesCard .expand = .ok q ∧ q.linear? = some ls ∧
      nestedChoicesCard.at? Cards.layout.handles path = some (.symbol s) ∧ s.shape = .condition ∧
      nestedChoicesCard.lineIndex Cards.layout.handles path = 9 ∧
      ∃ p q', Cursor.skipBranch ⟨ls, 9⟩ = (true, ⟨ls, p⟩) ∧ 9 < p ∧
        Cards.layout.flatten (nestedChoicesCard.prune path) .expand = .ok q' ∧
        q'.linear? = some (ls.take 9 ++ ls.drop p) := by
  intro path
  obtain ⟨q, hq, hl⟩ := nestedChoicesCard_flatten
  have hs : nestedChoicesCard.at? Cards.layout.handles path = some (.symbol _) := rfl
  have hi : nestedChoicesCard.lineIndex Cards.layout.handles path = 9 := rfl
  have h := (isStandard_cards.skipBranch_passes_pruned hq hl hs rfl).2
  rw [hi] at h
  exact ⟨q, _, _, hq, hl, hs, rfl, hi, h⟩

end Layout

end RulesText
