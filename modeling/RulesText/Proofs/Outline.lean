import RulesText.Cards.Layout
import RulesText.Proofs.Stripping

/-!
Outlines: what of a tree is written out, with the fields looked up. The lines of an outline are put
together by concatenation alone, with nothing held back.
-/
namespace RulesText

/-- What is written of a value where a node is expected. -/
inductive Outline where
  /-- Nothing. -/
  | blank
  /-- A list of that many values, which cannot stand there. -/
  | bareList (size : Nat)
  | both (first second : Outline)
  | noOp (tag : String)
  | sequence (tag : String) (body : Outline)
  /-- A node that is one line. -/
  | line (s : Symbol)
  | condition (s : Symbol) (condition result : Outline)
  /-- A node whose result follows the binding of its subject. -/
  | choice (s : Symbol) (condition subject result : Outline)

namespace Symbol

/-- A node without its two branches. -/
def head (s : Symbol) : Symbol := s.withoutAll [conditionField, resultField]

/-- The first condition is taken out and noted, then the first result, and all else is kept. -/
theorem head_takesFirst (s : Symbol) : ∃ t,
    s.TakesFirst conditionField (s.get? conditionField) t ∧
      t.TakesFirst resultField (s.get? resultField) s.head := by
  have hcondition := s.takesFirst_strip conditionField
  have hresult := (s.strip conditionField).2.takesFirst_strip resultField
  have hkept : (s.strip conditionField).2.get? resultField = s.get? resultField :=
    hcondition.get?_of_ne (by decide)
  exact ⟨_, hcondition, hkept ▸ hresult⟩

theorem variant_head (s : Symbol) : s.head.variant = s.variant := by
  obtain ⟨t, hcondition, hresult⟩ := s.head_takesFirst
  exact (hcondition.accounts.trans hresult.accounts).variant

theorem tag_head (s : Symbol) : s.head.tag = s.tag := congrArg Variant.tag s.variant_head

theorem shape_head (s : Symbol) : s.head.shape = s.shape := congrArg Variant.shape s.variant_head

/-- A node with branches, written out: the head, then the branches as the policy says. -/
def framed (s : Symbol) (policy : Policy) (indent : Int) (condition result : List Line) :
    List Line :=
  .node s.head indent :: match policy with
    | .expand =>
      .marker s.tag .conditionStart indent :: condition ++
        .marker s.tag .resultStart indent :: result ++ [.marker s.tag .sequenceEnd indent]
    | .collapse => result

/-- A line of a node with branches is its head, one of its markers, or a line of a branch. -/
theorem framed_cases {s : Symbol} {policy : Policy} {indent : Int} {c r : List Line} {l : Line}
    (h : l ∈ s.framed policy indent c r) :
    l = .node s.head indent ∨ (∃ m, l = .marker s.tag m indent) ∨ (policy = .expand ∧ l ∈ c) ∨
      l ∈ r := by
  cases policy with
  | expand =>
    simp only [framed, List.mem_cons, List.mem_append, List.not_mem_nil, or_false] at h
    rcases h with rfl | ((rfl | h) | (rfl | h)) | rfl
    · exact .inl rfl
    · exact .inr (.inl ⟨_, rfl⟩)
    · exact .inr (.inr (.inl ⟨rfl, h⟩))
    · exact .inr (.inl ⟨_, rfl⟩)
    · exact .inr (.inr (.inr h))
    · exact .inr (.inl ⟨_, rfl⟩)
  | collapse =>
    rcases List.mem_cons.mp h with rfl | h
    · exact .inl rfl
    · exact .inr (.inr (.inr h))

/-- The line that binds the subject of a choice. -/
def binding (s : Symbol) (indent : Int) : Line :=
  .param s.tag Cards.subjectField (s.getD Cards.subjectField).scalar? indent

end Symbol

namespace Outline

/-- The parts one after the other. -/
def all : List Outline → Outline
  | [] => blank
  | o :: rest => both o (all rest)

/-- The lines, from that depth on. -/
def lines (policy : Policy) : Outline → Int → List Line
  | blank, _ | bareList _, _ | noOp _, _ => []
  | both o o', indent => o.lines policy indent ++ o'.lines policy indent
  | sequence _ body, indent => body.lines policy (indent + 1)
  | line s, indent => [.node s indent]
  | condition s c r, indent =>
    s.framed policy indent (c.lines policy (indent + 1)) (r.lines policy (indent + 1))
  | choice s c b r, indent =>
    s.framed policy indent (c.lines policy (indent + 1))
      (s.binding indent :: b.lines policy (indent + 1) ++ r.lines policy (indent + 1))

/-- The fault of the first list that stands where a node is expected. -/
def fault? (policy : Policy) : Outline → Option Fault
  | blank | noOp _ | line _ => none
  | bareList size => some ⟨.malformed (bareListDetail size), none⟩
  | both o o' => (o.fault? policy).or (o'.fault? policy)
  | sequence tag body => (body.fault? policy).map (·.inFrame tag)
  | condition s c r =>
    let result := (r.fault? policy).map (·.inFrame (s.tag ++ "." ++ resultField))
    match policy with
    | .expand => ((c.fault? policy).map (·.inFrame (s.tag ++ "." ++ conditionField))).or result
    | .collapse => result
  | choice s c b r =>
    let bound := (b.fault? policy).or (r.fault? policy)
    match policy with
    | .expand => ((c.fault? policy).or bound).map (·.inFrame s.tag)
    | .collapse => bound.map (·.inFrame s.tag)

/-- The tags met on the way, in order. -/
def tags (policy : Policy) : Outline → List String
  | blank | bareList _ => []
  | both o o' => o.tags policy ++ o'.tags policy
  | noOp tag => [tag]
  | sequence tag body => tag :: body.tags policy
  | line s => [s.tag]
  | condition s c r =>
    s.tag :: match policy with
      | .expand => c.tags policy ++ r.tags policy
      | .collapse => r.tags policy
  | choice s c b r =>
    s.tag :: match policy with
      | .expand => c.tags policy ++ (b.tags policy ++ r.tags policy)
      | .collapse => b.tags policy ++ r.tags policy

end Outline

mutual

/-- The outline of a value where a node is expected. The given tags are laid out as choices. -/
def Value.outline (choice : String → Bool) : Value → Outline
  | .symbol s => Symbol.outline choice s
  | .list vs => .bareList vs.length
  | .nil | .bool _ | .int _ | .str _ => .blank

def Symbol.outline (choice : String → Bool) : Symbol → Outline
  | ⟨v, p, t, s⟩ =>
    match v.shape, choice v.tag with
    | .noOp, _ => .noOp v.tag
    | .sequence, _ => .sequence v.tag (Value.outlineItems choice p)
    | .condition, true | .plain, true =>
      .choice ⟨v, p, t, s⟩ (Value.outlineField choice conditionField p)
        (Value.outlineField choice Cards.subjectField p) (Value.outlineField choice resultField p)
    | .condition, false =>
      .condition ⟨v, p, t, s⟩ (Value.outlineField choice conditionField p)
        (Value.outlineField choice resultField p)
    | .plain, false => .line ⟨v, p, t, s⟩

/-- The outline of the first field of that name. -/
def Value.outlineField (choice : String → Bool) (name : String) : List (String × Value) → Outline
  | [] => .blank
  | (field, v) :: rest =>
    if name == field then Value.outline choice v else Value.outlineField choice name rest

/-- The outline of the children in the payload of a sequence. -/
def Value.outlineItems (choice : String → Bool) : List (String × Value) → Outline
  | [] => .blank
  | (field, v) :: rest =>
    if symbolsField == field then Value.outlineParts choice v else Value.outlineItems choice rest

/-- The outline of the items of a list; other values have none. -/
def Value.outlineParts (choice : String → Bool) : Value → Outline
  | .list vs => Value.outlineList choice vs
  | _ => .blank

def Value.outlineList (choice : String → Bool) : List Value → Outline
  | [] => .blank
  | v :: vs => .both (Value.outline choice v) (Value.outlineList choice vs)

end

section

variable {choice : String → Bool}

theorem Value.outlineField_eq (name : String) (p : Payload) :
    Value.outlineField choice name p = ((p.get? name).getD .nil).outline choice := by
  induction p with
  | nil => simp [Value.outlineField, Payload.get?, Value.outline]
  | cons field rest ih =>
    obtain ⟨field, v⟩ := field
    rw [Value.outlineField, ih, Payload.get?_cons]
    by_cases h : field = name
    · simp [h]
    · simp [h, Ne.symm h]

theorem Value.outlineList_eq (vs : List Value) :
    Value.outlineList choice vs = .all (vs.map (·.outline choice)) := by
  induction vs with
  | nil => rfl
  | cons v vs ih => simp [Value.outlineList, Outline.all, ih]

theorem Value.outlineItems_eq (p : Payload) :
    Value.outlineItems choice p =
      .all ((((p.get? symbolsField).bind Value.list?).getD []).map (·.outline choice)) := by
  induction p with
  | nil => rfl
  | cons field rest ih =>
    obtain ⟨field, v⟩ := field
    rw [Value.outlineItems, ih, Payload.get?_cons]
    by_cases h : field = symbolsField
    · cases v <;> simp [h, Value.outlineParts, Value.list?, Outline.all, Value.outlineList_eq]
    · simp [h, Ne.symm h]

theorem Symbol.outline_eq (s : Symbol) : s.outline choice =
    match s.shape, choice s.tag with
    | .noOp, _ => .noOp s.tag
    | .sequence, _ => .sequence s.tag (.all (s.children.map (·.outline choice)))
    | .condition, true | .plain, true =>
      .choice s ((s.getD conditionField).outline choice)
        ((s.getD Cards.subjectField).outline choice) ((s.getD resultField).outline choice)
    | .condition, false =>
      .condition s ((s.getD conditionField).outline choice) ((s.getD resultField).outline choice)
    | .plain, false => .line s := by
  obtain ⟨⟨tag, shape, fields⟩, p, t, stripped⟩ := s
  cases shape <;> cases h : choice tag <;>
    simp [Symbol.outline, Symbol.shape, Symbol.tag, Symbol.children, Symbol.getD, Symbol.get?, h,
      Value.outlineField_eq, Value.outlineItems_eq]

/-- The lines of a value where a node is expected, from that depth on. -/
def Value.lines (choice : String → Bool) (policy : Policy) (v : Value) (indent : Int) : List Line :=
  (v.outline choice).lines policy indent

theorem Outline.lines_all {policy : Policy} {indent : Int} (os : List Outline) :
    (Outline.all os).lines policy indent = os.flatMap (·.lines policy indent) := by
  induction os with
  | nil => rfl
  | cons o os ih => simp [Outline.all, Outline.lines, ih]

theorem Outline.tags_all {policy : Policy} (os : List Outline) :
    (Outline.all os).tags policy = os.flatMap (·.tags policy) := by
  induction os with
  | nil => rfl
  | cons o os ih => simp [Outline.all, Outline.tags, ih]

theorem Outline.fault?_all_eq {policy : Policy} (os : List Outline) :
    (Outline.all os).fault? policy = os.findSome? (·.fault? policy) := by
  induction os with
  | nil => rfl
  | cons o os ih =>
    rw [Outline.all, Outline.fault?, ih, List.findSome?_cons]
    cases o.fault? policy <;> rfl

theorem Outline.fault?_all {policy : Policy} (os : List Outline) :
    (Outline.all os).fault? policy = none ↔ ∀ o ∈ os, o.fault? policy = none := by
  rw [Outline.fault?_all_eq, List.findSome?_eq_none_iff]

/-- How the lines of a symbol are put together. -/
theorem Value.lines_symbol {policy : Policy} {indent : Int} (s : Symbol) :
    (Value.symbol s).lines choice policy indent =
      match s.shape, choice s.tag with
      | .noOp, _ => []
      | .sequence, _ => s.children.flatMap (·.lines choice policy (indent + 1))
      | .condition, true | .plain, true =>
        s.framed policy indent ((s.getD conditionField).lines choice policy (indent + 1))
          (s.binding indent :: (s.getD Cards.subjectField).lines choice policy (indent + 1) ++
            (s.getD resultField).lines choice policy (indent + 1))
      | .condition, false =>
        s.framed policy indent ((s.getD conditionField).lines choice policy (indent + 1))
          ((s.getD resultField).lines choice policy (indent + 1))
      | .plain, false => [.node s indent] := by
  rw [Value.lines, Value.outline, Symbol.outline_eq]
  split <;> simp [Outline.lines, Outline.lines_all, List.flatMap_map, Value.lines]

namespace Symbol

/-- Whether a node is written out with a condition and a result. -/
def hasBranches (choice : String → Bool) (s : Symbol) : Bool :=
  s.shape == .condition || (s.shape == .plain && choice s.tag)

/-- What stands before the result of a node: for a choice, its subject. -/
def bound (choice : String → Bool) (policy : Policy) (s : Symbol) (indent : Int) : List Line :=
  if choice s.tag then
    s.binding indent :: (s.getD Cards.subjectField).lines choice policy (indent + 1)
  else []

variable {policy : Policy} {indent : Int} {s : Symbol}

theorem lines_of_hasBranches (h : s.hasBranches choice = true) :
    (Value.symbol s).lines choice policy indent =
      s.framed policy indent ((s.getD conditionField).lines choice policy (indent + 1))
        (s.bound choice policy indent ++
          (s.getD resultField).lines choice policy (indent + 1)) := by
  rw [Value.lines_symbol, bound]
  split <;> simp_all [hasBranches]

theorem lines_of_not_hasBranches (h : s.hasBranches choice = false) :
    (Value.symbol s).lines choice policy indent =
      match s.shape with
      | .noOp => []
      | .sequence => s.children.flatMap (·.lines choice policy (indent + 1))
      | .condition | .plain => [.node s indent] := by
  rw [Value.lines_symbol]
  split <;> simp_all [hasBranches]

end Symbol

end

theorem Payload.sizeOf_get? {p : Payload} {name : String} {v : Value} (h : p.get? name = some v) :
    sizeOf v < sizeOf p := by
  induction p with
  | nil => simp [Payload.get?] at h
  | cons field rest ih =>
    obtain ⟨field, u⟩ := field
    rw [Payload.get?_cons] at h
    split at h
    · obtain rfl := Option.some.inj h
      simp only [List.cons.sizeOf_spec, Prod.mk.sizeOf_spec]
      omega
    · have := ih h
      simp only [List.cons.sizeOf_spec]
      omega

theorem Symbol.sizeOf_getD (s : Symbol) (name : String) :
    sizeOf (s.getD name) < sizeOf (Value.symbol s) := by
  obtain ⟨v, p, t, stripped⟩ := s
  rw [Symbol.getD, Symbol.get?, Value.symbol.sizeOf_spec, Symbol.mk.sizeOf_spec]
  cases h : Payload.get? p name with
  | none =>
    rw [Option.getD_none, Value.nil.sizeOf_spec]
    omega
  | some w =>
    have := Payload.sizeOf_get? h
    rw [Option.getD_some]
    omega

theorem Symbol.mem_children {s : Symbol} {w : Value} (h : w ∈ s.children) :
    ∃ vs, s.getD symbolsField = .list vs ∧ w ∈ vs := by
  unfold Symbol.children at h
  split at h
  · cases hg : s.get? symbolsField with
    | none => simp [hg] at h
    | some u =>
      cases u with
      | list vs => exact ⟨vs, by simp [Symbol.getD, hg], by simpa [hg, Value.list?] using h⟩
      | _ => simp [hg, Value.list?] at h
  all_goals cases h

theorem Symbol.sizeOf_of_mem_children {s : Symbol} {w : Value} (h : w ∈ s.children) :
    sizeOf w < sizeOf (Value.symbol s) := by
  obtain ⟨vs, hs, hw⟩ := Symbol.mem_children h
  have hv := s.sizeOf_getD symbolsField
  have := List.sizeOf_lt_of_mem hw
  simp only [hs, Value.list.sizeOf_spec] at hv
  omega

/-- Induction over the nodes of a value: the fields of a symbol, found by name, and the children of
a sequence come before the symbol. -/
theorem Value.node_induction {motive : Value → Prop}
    (leaf : ∀ v : Value, v.symbol? = none → motive v)
    (node : ∀ s : Symbol, (∀ name, motive (s.getD name)) → (∀ w ∈ s.children, motive w) →
      motive (.symbol s)) (v : Value) : motive v :=
  match v with
  | .symbol s =>
    node s (fun name => node_induction leaf node (s.getD name))
      (fun w _ => node_induction leaf node w)
  | .nil | .bool _ | .int _ | .str _ | .list _ => leaf _ rfl
termination_by sizeOf v
decreasing_by
  · exact s.sizeOf_getD name
  · exact Symbol.sizeOf_of_mem_children ‹_›

end RulesText
