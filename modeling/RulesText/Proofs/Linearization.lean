import RulesText.Proofs.Emission
import RulesText.Proofs.Entries
import RulesText.Proofs.Outline

/-!
Flattening writes the outline. What is held and spliced on the way comes out in the order of the
outline, from every state of the sink, so the lines of a node do not depend on where it stands.
-/
namespace RulesText

open Emit

variable {policy : Policy} {least : Nat} {indent : Int} {α : Type}

namespace Site

variable {s : Site} {fc fb fr : Option Fault} {vc vb vr : Option Scalar}
  {lc lb lr : List Line} {tc tb tr : List String}

theorem writes_flattenFramed {name : String}
    (h : Writes policy 0 (s.flatten name indent) fr vr lr tr) :
    Writes policy least (s.flattenFramed name indent)
      (fr.map (·.inFrame (s.tag ++ "." ++ name))) () lr tr :=
  (h.discarded.inFrame _).mono (Nat.zero_le _)

theorem writes_conditionRule
    (hc : Writes policy 0 (s.flatten conditionField (indent + 1)) fc vc lc tc)
    (hr : Writes policy 0 (s.flatten resultField (indent + 1)) fr vr lr tr) :
    Writes policy least (s.conditionRule indent)
      (let result := fr.map (·.inFrame (s.tag ++ "." ++ resultField))
      match policy with
      | .expand => (fc.map (·.inFrame (s.tag ++ "." ++ conditionField))).or result
      | .collapse => result) ()
      (s.node.framed policy indent lc lr)
      (match policy with
      | .expand => tc ++ tr
      | .collapse => tr) := by
  cases policy with
  | expand =>
    have h : Writes .expand least (s.conditionRule indent) _ () _ _ :=
      writes_push.bind <| writes_policy.bind <| writes_push.bind <|
        (writes_flattenFramed hc).bind <| writes_push.bind <|
        (writes_flattenFramed hr).bind writes_push
    simpa [Symbol.framed, Symbol.head, Site.tag] using h
  | collapse =>
    have h : Writes .collapse least (s.conditionRule indent) _ () _ _ :=
      writes_push.bind <| writes_policy.bind <| writes_flattenFramed hr
    simpa [Symbol.framed, Symbol.head, Site.tag] using h

/-- The end marker is written before the result is, and still comes after it. -/
theorem writes_layOutMay
    (hc : Writes policy 0 (s.flatten conditionField (s.indent + 1)) fc vc lc tc)
    (hb : Writes policy 0 (s.flatten Cards.subjectField (s.indent + 1)) fb vb lb tb)
    (hr : Writes policy 0 (s.flatten resultField (s.indent + 1)) fr vr lr tr) :
    Writes policy least (Cards.layOutMay s)
      (match policy with
      | .expand => fc.or (fb.or fr)
      | .collapse => fb.or fr) ()
      (s.node.framed policy s.indent lc (s.node.binding s.indent :: lb ++ lr))
      (match policy with
      | .expand => tc ++ (tb ++ tr)
      | .collapse => tb ++ tr) := by
  have hc {least : Nat} := hc.discarded.mono (Nat.zero_le least)
  have hb {least : Nat} := hb.discarded.mono (Nat.zero_le least)
  cases policy with
  | expand =>
    have h : Writes .expand least (Cards.layOutMay s) _ () _ _ :=
      writes_push.bind <| writes_policy.bind <| writes_push.bind <| hc.bind <| writes_push.bind <|
        writes_push.bind <| hb.bind <| writes_spliced (by simp; omega) writes_push hr
    simpa [Symbol.framed, Symbol.head, Symbol.binding, Site.tag] using h
  | collapse =>
    have hs {least : Nat} (hl : 1 ≤ least) := writes_spliced hl writes_pure hr
    simp only [pure_bind] at hs
    have h : Writes .collapse least (Cards.layOutMay s) _ () _ _ :=
      writes_push.bind <| writes_policy.bind <| writes_push.bind <| hb.bind <|
        hs (by simp; omega)
    simpa [Symbol.framed, Symbol.head, Symbol.binding, Site.tag] using h

end Site

/-- A symbol together with the ways to write its fields. -/
def Symbol.site (handlers : String → Option Handler) (s : Symbol) (indent : Int) : Site :=
  ⟨s, indent, Value.branches handlers s.payload⟩

section

variable {handlers : String → Option Handler}

theorem Value.find?_branches (name : String) (p : Payload) :
    (Value.branches handlers p).find? (·.name == name) = (p.get? name).map fun v =>
      ⟨name, v, v.flatten handlers, v.itemsOf handlers⟩ := by
  induction p with
  | nil => rfl
  | cons field rest ih =>
    obtain ⟨field, v⟩ := field
    rw [Payload.get?_cons]
    by_cases h : field = name
    · subst h
      simp [Value.branches]
    · simpa [Value.branches, h] using ih

theorem Value.flattens_eq_map (vs : List Value) :
    Value.flattens handlers vs = vs.map (Value.flatten handlers) := by
  induction vs with
  | nil => rfl
  | cons v vs ih => simp [Value.flattens, ih]

theorem Symbol.flatten_site {s : Symbol} {n indent : Int} {name : String} :
    (s.site handlers n).flatten name indent = (s.getD name).flatten handlers indent := by
  rw [Site.flatten, Site.branch?, Symbol.site, Value.find?_branches, Symbol.getD, Symbol.get?]
  cases Payload.get? s.payload name <;> rfl

theorem Symbol.sequenceRule_site {s : Symbol} (h : s.shape = .sequence) :
    (s.site handlers indent).sequenceRule = Emit.each (s.children.map fun v =>
      Emit.inFrame s.tag (discard (v.flatten handlers (indent + 1)))) := by
  rw [Site.sequenceRule, Site.branch?, Symbol.site, Value.find?_branches, Symbol.children, h,
    Symbol.get?]
  cases Payload.get? s.payload symbolsField with
  | none => rfl
  | some v =>
    cases v with
    | list vs =>
      simp only [Value.itemsOf, Value.flattens_eq_map, Option.map_some, List.map_map]
      rfl
    | _ => rfl

theorem Symbol.flatten_eq_write {s : Symbol} :
    s.flatten handlers indent = (s.site handlers indent).write (handlers s.tag) := by
  cases s
  rfl

end

/-- The handlers that lay out these tags as choices, and no others. -/
def Cards.choiceHandlers (choice : String → Bool) (tag : String) : Option Handler :=
  if choice tag then some Cards.layOutMay else none

/-- Flattening the value writes its outline, at every depth and from every state. -/
def Value.WritesOutline (choice : String → Bool) (policy : Policy) (v : Value) : Prop :=
  ∀ indent, Writes policy 0 (v.flatten (Cards.choiceHandlers choice) indent)
    ((v.outline choice).fault? policy) v.scalar? (v.lines choice policy indent)
    ((v.outline choice).tags policy)

section

variable {choice : String → Bool}

theorem writes_children {tag : String} {vs : List Value}
    (h : ∀ v ∈ vs, v.WritesOutline choice policy) :
    Writes policy least (Emit.each (vs.map fun v =>
        Emit.inFrame tag (discard (v.flatten (Cards.choiceHandlers choice) indent))))
      (((Outline.all (vs.map (·.outline choice))).fault? policy).map (·.inFrame tag)) ()
      ((Outline.all (vs.map (·.outline choice))).lines policy indent)
      ((Outline.all (vs.map (·.outline choice))).tags policy) := by
  rw [Outline.fault?_all_eq, Outline.lines_all, Outline.tags_all, List.findSome?_map,
    List.map_findSome?, List.flatMap_map, List.flatMap_map]
  exact writes_each fun v hv => (h v hv indent).discarded.inFrame tag

theorem Value.WritesOutline.field {s : Symbol} {name : String} {n : Int}
    (h : (s.getD name).WritesOutline choice policy) :
    Writes policy 0 ((s.site (Cards.choiceHandlers choice) n).flatten name indent)
      (((s.getD name).outline choice).fault? policy) (s.getD name).scalar?
      ((s.getD name).lines choice policy indent) (((s.getD name).outline choice).tags policy) := by
  rw [Symbol.flatten_site]
  exact h indent

/-- What an outline of these branches says is what the rule of choices writes. -/
theorem Symbol.writes_choice {s : Symbol} (ih : ∀ name, (s.getD name).WritesOutline choice policy) :
    let site := s.site (Cards.choiceHandlers choice) indent
    let o := Outline.choice s ((s.getD conditionField).outline choice)
      ((s.getD Cards.subjectField).outline choice) ((s.getD resultField).outline choice)
    Writes policy least (do Emit.record s.tag; Emit.inFrame s.tag (Cards.layOutMay site))
      (o.fault? policy) () (o.lines policy indent) (o.tags policy) := by
  intro site o
  have h := fun n : Nat => (Site.writes_layOutMay (ih conditionField).field
    (ih Cards.subjectField).field (ih resultField).field :
      Writes policy n (Cards.layOutMay site) _ () _ _)
  have h := (writes_record.bind ((h _).inFrame s.tag) :
    Writes policy least (Emit.record s.tag >>= fun _ => _) _ () _ _)
  cases policy <;> exact h

theorem Symbol.writes_condition {s : Symbol}
    (ih : ∀ name, (s.getD name).WritesOutline choice policy) :
    let site := s.site (Cards.choiceHandlers choice) indent
    let o := Outline.condition s ((s.getD conditionField).outline choice)
      ((s.getD resultField).outline choice)
    Writes policy least (do Emit.record s.tag; site.conditionRule indent)
      (o.fault? policy) () (o.lines policy indent) (o.tags policy) := by
  intro site o
  have h := fun n : Nat => (Site.writes_conditionRule (ih conditionField).field
    (ih resultField).field : Writes policy n (site.conditionRule indent) _ () _ _)
  have h := (writes_record.bind (h _) :
    Writes policy least (Emit.record s.tag >>= fun _ => _) _ () _ _)
  cases policy <;> exact h

theorem Symbol.writes_outline {s : Symbol}
    (ih : ∀ name, (s.getD name).WritesOutline choice policy)
    (ihc : ∀ v ∈ s.children, v.WritesOutline choice policy) (indent : Int) :
    Writes policy 0 (s.flatten (Cards.choiceHandlers choice) indent)
      ((s.outline choice).fault? policy) () ((s.outline choice).lines policy indent)
      ((s.outline choice).tags policy) := by
  have hn : (s.site (Cards.choiceHandlers choice) indent).node = s := rfl
  rw [Symbol.flatten_eq_write, Symbol.outline_eq]
  cases hs : s.shape with
  | noOp =>
    simp only [Site.write, Cards.choiceHandlers, Site.tag, hn, hs]
    exact writes_record.bind writes_pure
  | sequence =>
    simp only [Site.write, Cards.choiceHandlers, Site.tag, hn, hs, Symbol.sequenceRule_site hs]
    exact writes_record.bind (writes_children ihc)
  | condition =>
    cases hc : choice s.tag with
    | true =>
      simp only [Site.write, Cards.choiceHandlers, Site.tag, hn, hs, hc]
      exact Symbol.writes_choice ih
    | false =>
      simp only [Site.write, Cards.choiceHandlers, Site.tag, hn, hs, hc]
      exact Symbol.writes_condition ih
  | plain =>
    cases hc : choice s.tag with
    | true =>
      simp only [Site.write, Cards.choiceHandlers, Site.tag, hn, hs, hc]
      exact Symbol.writes_choice ih
    | false =>
      simp only [Site.write, Cards.choiceHandlers, Site.tag, hn, hs, hc]
      exact writes_record.bind writes_push

theorem Value.writes_outline (v : Value) : v.WritesOutline choice policy := by
  induction v using Value.node_induction with
  | leaf v hv =>
    intro indent
    cases v with
    | symbol s => cases hv
    | list vs => exact writes_fail
    | _ => exact writes_pure
  | node s ih ihc =>
    intro indent
    have h : Writes policy 0 (Value.flatten (Cards.choiceHandlers choice) (.symbol s) indent)
        _ none _ _ := (Symbol.writes_outline ih ihc indent).bind writes_pure
    rw [Option.or_none, List.append_nil, List.append_nil] at h
    exact h

end

namespace Cards

/-- The tags that the standard layout writes as choices. -/
def isChoice (tag : String) : Bool := tag == may.tag

theorem handler?_layout : layout.handler? = choiceHandlers isChoice := by
  funext tag
  by_cases h : tag = may.tag
  · subst h
    rfl
  · have h' : (tag == may.tag) = false := by simpa using h
    simp [layout, Layout.register, Layout.handler?, List.lookup_cons, choiceHandlers, isChoice, h']

/-- Whatever is written and held so far, flattening a value adds its lines to the end of the target
and leaves every other frame alone. Its outcome depends on the policy, but not on what is there or
how deep the value stands. -/
theorem flatten_appends_lines (v : Value) (indent : Int) (e : Emitter) :
    (∀ r e', (v.flatten layout.handler? indent).run e = (.ok r, e') →
      e'.sink = (match e.sink.frames with
        | [] => ⟨e.sink.output ++ v.lines isChoice e.policy indent, []⟩
        | frame :: rest =>
          ⟨e.sink.output, (frame ++ v.lines isChoice e.policy indent) :: rest⟩) ∧
      e'.policy = e.policy ∧ e'.notes = e.notes ∧ r = v.scalar?) ∧
    ∀ (other : Emitter) (depth : Int), other.policy = e.policy →
      ((v.flatten layout.handler? depth).run other).1 =
        ((v.flatten layout.handler? indent).run e).1 := by
  have h : Value.WritesOutline isChoice e.policy v := v.writes_outline
  rw [handler?_layout]
  constructor
  · intro r e' hr
    obtain ⟨-, rfl, rfl⟩ := (h indent).of_ok rfl (Nat.zero_le _) hr
    refine ⟨?_, rfl, rfl, rfl⟩
    obtain ⟨policy, ⟨output, frames⟩, tags, notes⟩ := e
    cases frames <;> rfl
  · intro other depth ho
    rw [(h depth).outcome ho (Nat.zero_le _), (h indent).outcome rfl (Nat.zero_le _)]

/-- A choice inside a condition inside a choice, and an effect after it. -/
def nestedChoices : Symbol :=
  let investigator : Value := .symbol ⟨currInvestigator, [], none, []⟩
  let spell : Value := .symbol ⟨spellEffects, [], none, []⟩
  let effect : Value := .symbol ⟨gain, gain.fields.zip [investigator, .int 1], none, []⟩
  let choose (result : Value) : Value :=
    .symbol ⟨may, may.fields.zip [investigator, .nil, result], none, []⟩
  let resolving : Value :=
    .symbol ⟨whileResolving, whileResolving.fields.zip [spell, choose effect], none, []⟩
  ⟨seq, seq.fields.zip [.list [choose resolving, effect]], none, []⟩

theorem flatten_nestedChoices_appends :
    let held : Line := .marker may.tag .resultStart 0
    let e : Emitter := { policy := .expand, sink := ⟨[held], [[held, held], [held]]⟩ }
    ∃ e', ((Value.symbol nestedChoices).flatten layout.handler? 2).run e = (.ok none, e') ∧
      e'.sink = ⟨[held], [[held, held] ++ (Value.symbol nestedChoices).lines isChoice .expand 2,
        [held]]⟩ := by
  intro held e
  have h : Value.WritesOutline isChoice .expand (.symbol nestedChoices) := Value.writes_outline _
  have hr := (h 2).outcome (e := e) rfl (Nat.zero_le _)
  rw [← handler?_layout] at hr
  generalize hrun : ((Value.symbol nestedChoices).flatten layout.handler? 2).run e = run at hr
  obtain ⟨o, e'⟩ := run
  obtain rfl : o = .ok none := hr
  exact ⟨e', rfl, ((flatten_appends_lines _ 2 e).1 none e' hrun).1⟩

end Cards

theorem firstOffence?_eq_none_iff (start : Nat) {ls : List Line} :
    firstOffence? start ls = none ↔ ∀ l ∈ ls, l.symbol?.bind Symbol.offence? = none := by
  induction ls generalizing start with
  | nil => simp [firstOffence?]
  | cons l ls ih =>
    rw [firstOffence?, List.forall_mem_cons, ← ih (start + 1)]
    cases l.symbol?.bind Symbol.offence? <;> simp

theorem checkLines_eq_ok_iff {ls : List Line} :
    checkLines ls = .ok () ↔ ∀ l ∈ ls, l.symbol?.bind Symbol.offence? = none := by
  rw [← firstOffence?_eq_none_iff 0, checkLines]
  cases firstOffence? 0 ls <;> simp [fail]

/-- Some of the lines of a flat list, in any order, are flat. -/
theorem checkLines_of_subset {ls ls' : List Line} (h : checkLines ls = .ok ()) (hs : ls' ⊆ ls) :
    checkLines ls' = .ok () :=
  checkLines_eq_ok_iff.mpr fun l hl => checkLines_eq_ok_iff.mp h l (hs hl)

/-- The outline of the root; a tree without logic has nothing to write. -/
def Tree.outline (choice : String → Bool) (t : Tree) : Outline :=
  (Value.ofSymbol? t.logic).outline choice

/-- The lines of a tree, from the level above the outermost one. -/
def Tree.lines (choice : String → Bool) (policy : Policy) (t : Tree) : List Line :=
  (t.outline choice).lines policy (-1)

namespace Layout

/-- Whether a tag has a handler. -/
def handles (l : Layout) (tag : String) : Bool := (l.handler? tag).isSome

theorem handler?_register {l : Layout} {h : Handler} {tag other : String} :
    (l.register tag h).handler? other = if tag = other then some h else l.handler? other :=
  lookup_set h l.handlers

/-- Layouts that write out lines, by the rules of the shapes alone or with the standard handler of
choices. -/
structure IsStandard (l : Layout) : Prop where
  linear : l.isExtracting = false
  handlers : l.handlers = [] ∨ l.handlers = Cards.layout.handlers

variable {l : Layout} {tree : Tree}

theorem isStandard_cards : Cards.layout.IsStandard := ⟨rfl, .inr rfl⟩

theorem IsStandard.handler?_cases (h : l.IsStandard) (tag : String) :
    l.handler? tag = none ∨ l.handler? tag = Cards.choiceHandlers Cards.isChoice tag := by
  rcases h.handlers with hl | hl
  · exact .inl (by simp [handler?, hl])
  · exact .inr (by rw [← Cards.handler?_layout, handler?, hl, handler?])

theorem IsStandard.handler?_eq (h : l.IsStandard) :
    l.handler? = Cards.choiceHandlers l.handles := by
  funext tag
  rcases h.handler?_cases tag with ht | ht
  · simp [Cards.choiceHandlers, handles, ht]
  · cases hc : Cards.isChoice tag <;> simp [Cards.choiceHandlers, handles, ht, hc]

/-- Only choices have a handler of their own. -/
theorem IsStandard.tag_of_handles (h : l.IsStandard) {tag : String} (ht : l.handles tag = true) :
    tag = Cards.may.tag := by
  rcases h.handler?_cases tag with hn | hc
  · simp [handles, hn] at ht
  · simpa [handles, hc, Cards.choiceHandlers, Cards.isChoice] using ht

/-- Writing out a tree is flattening its root where a node is expected. -/
theorem emit_eq_discard (l : Layout) (tree : Tree) (policy : Policy) : l.emit tree policy =
    (discard ((Value.ofSymbol? tree.logic).flatten l.handler? (-1))).run (l.emitter policy) := by
  obtain ⟨text, source, logic⟩ := tree
  cases logic with
  | none => rfl
  | some root =>
    have hroot : (Value.ofSymbol? (some root)).flatten l.handler? (-1) =
      root.flatten l.handler? (-1) >>= fun _ => pure none := rfl
    rw [hroot, Emit.discard_eq_bind, bind_assoc]
    simp only [pure_bind, bind_pure_unit]
    rfl

theorem IsStandard.emit_eq (h : l.IsStandard) (tree : Tree) (policy : Policy) :
    match (tree.outline l.handles).fault? policy with
    | none => l.emit tree policy = (.ok (), (l.emitter policy).extend
        (tree.lines l.handles policy) ((tree.outline l.handles).tags policy))
    | some fault => (l.emit tree policy).1 = .error fault := by
  rw [emit_eq_discard, h.handler?_eq]
  exact (Value.writes_outline _ (-1)).discarded (l.emitter policy) rfl (Nat.zero_le _)

theorem flatten_of_fault {fault : Fault} (hl : l.isExtracting = false)
    (h : (l.emit tree policy).1 = .error fault) :
    l.flatten tree policy = .error (fault.located tree.source tree.text.joined) := by
  rw [flatten, run, hl, if_neg Bool.false_ne_true, linearize]
  generalize l.emit tree policy = r at h ⊢
  obtain ⟨o, e⟩ := r
  cases h
  rfl

/-- Once a tree is written out, all that can go wrong is the check of its lines. -/
theorem flatten_of_written {ls : List Line} {ts : List String} (hl : l.isExtracting = false)
    (h : l.emit tree policy = (.ok (), (l.emitter policy).extend ls ts)) :
    l.flatten tree policy =
      match checkLines ls with
      | .error fault => .error (fault.located tree.source tree.text.joined)
      | .ok () => .ok ⟨tree.text, tree.source, .linear ls,
        if l.recordTags then some (.ofList ts) else none⟩ := by
  have hs : (l.emitter policy).sink = {} := rfl
  have ht : (l.emitter policy).tags.map (TagSet.insertAll · ts) =
      if l.recordTags then some (.ofList ts) else none := by
    cases hr : l.recordTags <;> simp [emitter, hr, TagSet.ofList]
  rw [flatten, run, hl, if_neg Bool.false_ne_true, linearize, h]
  simp only [Emitter.extend, hs, Sink.finish_append_of_empty]
  rw [ht]
  cases checkLines ls with
  | error fault => rfl
  | ok _ => rfl

/-- What a standard layout makes of a tree, by the outline of the tree. -/
theorem IsStandard.flatten_eq (h : l.IsStandard) (tree : Tree) (policy : Policy) :
    l.flatten tree policy =
      match (tree.outline l.handles).fault? policy with
      | some fault => .error (fault.located tree.source tree.text.joined)
      | none =>
        match checkLines (tree.lines l.handles policy) with
        | .error fault => .error (fault.located tree.source tree.text.joined)
        | .ok () => .ok ⟨tree.text, tree.source, .linear (tree.lines l.handles policy),
          if l.recordTags then some (.ofList ((tree.outline l.handles).tags policy))
          else none⟩ := by
  have he := h.emit_eq tree policy
  cases hf : (tree.outline l.handles).fault? policy with
  | some fault =>
    simp only [hf] at he
    exact flatten_of_fault h.linear he
  | none =>
    simp only [hf] at he
    exact flatten_of_written h.linear he

/-- Without a list where a node is expected, all lines of the tree are written. -/
theorem IsStandard.finish_emit (h : l.IsStandard)
    (hf : (tree.outline l.handles).fault? policy = none) :
    (l.emit tree policy).2.sink.finish = tree.lines l.handles policy := by
  have he := h.emit_eq tree policy
  simp only [hf] at he
  rw [he]
  exact Sink.finish_append_of_empty

/-- A standard layout gives a sequence exactly if no list stands where a node is expected and all
lines are flat, and the sequence then holds the lines of the tree. -/
theorem IsStandard.flatten_eq_ok_iff (h : l.IsStandard) {q : Sequence} :
    l.flatten tree policy = .ok q ↔
      (tree.outline l.handles).fault? policy = none ∧
      checkLines (tree.lines l.handles policy) = .ok () ∧
      q = ⟨tree.text, tree.source, .linear (tree.lines l.handles policy),
        if l.recordTags then some (.ofList ((tree.outline l.handles).tags policy)) else none⟩ := by
  rw [h.flatten_eq]
  cases (tree.outline l.handles).fault? policy with
  | some fault => simp
  | none =>
    cases checkLines (tree.lines l.handles policy) with
    | error fault => simp
    | ok _ =>
      constructor
      · intro hq
        cases hq
        exact ⟨rfl, rfl, rfl⟩
      · rintro ⟨-, -, rfl⟩
        rfl

/-- When a standard layout gives these lines. -/
theorem IsStandard.flatten_lines_iff (h : l.IsStandard) {ls : List Line} :
    (∃ q, l.flatten tree policy = .ok q ∧ q.linear? = some ls) ↔
      (tree.outline l.handles).fault? policy = none ∧ checkLines ls = .ok () ∧
      ls = tree.lines l.handles policy := by
  constructor
  · rintro ⟨q, hq, hl⟩
    obtain ⟨hf, hc, rfl⟩ := h.flatten_eq_ok_iff.mp hq
    obtain rfl := Option.some.inj hl
    exact ⟨hf, hc, rfl⟩
  · rintro ⟨hf, hc, rfl⟩
    exact ⟨_, h.flatten_eq_ok_iff.mpr ⟨hf, hc, rfl⟩, rfl⟩

/-- A card that reads like that. -/
def nestedChoicesCard : Tree := ⟨.absent, "", some Cards.nestedChoices⟩

theorem nestedChoicesCard_flatten : ∃ q, Cards.layout.flatten nestedChoicesCard .expand = .ok q ∧
    q.linear? = some (nestedChoicesCard.lines Cards.layout.handles .expand) :=
  isStandard_cards.flatten_lines_iff.mpr ⟨rfl, rfl, rfl⟩

end Layout

end RulesText
