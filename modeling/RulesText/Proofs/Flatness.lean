import RulesText.Proofs.Linearization
import RulesText.Proofs.Occurrence

/-!
Flatness: the check of the lines fails at the first line whose node hides a sequence or a condition
anywhere in its payload.
-/
namespace RulesText

namespace Value

variable {v : Value}

theorem compoundList?_eq (vs : List Value) :
    Value.compoundList? vs = vs.findSome? Value.compound? := by
  induction vs with
  | nil => rfl
  | cons v vs ih =>
    rw [Value.compoundList?, List.findSome?_cons, ih]
    cases v.compound? <;> rfl

theorem compoundPayload?_eq (p : Payload) :
    Value.compoundPayload? p = p.findSome? fun field => field.2.compound? := by
  induction p with
  | nil => rfl
  | cons field rest ih =>
    rw [Value.compoundPayload?, List.findSome?_cons, ih]
    cases field.2.compound? <;> rfl

/-- No sequence and no condition stands anywhere inside. -/
def NoCompound (v : Value) : Prop :=
  ∀ way t, v.inside? way = some (.symbol t) → ¬ t.shape.IsCompound

theorem noCompound_iff : v.NoCompound ↔
    (∀ t, v = .symbol t → ¬ t.shape.IsCompound) ∧ ∀ k w, v.inner? k = some w → w.NoCompound :=
  forall_inside_iff

/-- The search for a sequence or a condition misses none. -/
theorem compound?_eq_none_iff (v : Value) : v.compound? = none ↔ v.NoCompound := by
  induction v using Value.inner_induction with
  | value v ih =>
    rw [noCompound_iff]
    cases v with
    | symbol s =>
      have hfields : Value.compoundPayload? s.payload = none ↔
          ∀ k w, (Value.symbol s).inner? k = some w → w.NoCompound := by
        rw [compoundPayload?_eq, List.findSome?_eq_none_iff, forall_inner_symbol]
        refine forall₂_congr fun field hfield => ?_
        obtain ⟨k, hk⟩ := List.mem_iff_getElem?.mp hfield
        exact ih k field.2 (inner?_symbol.mpr ⟨field.1, hk⟩)
      rw [← hfields]
      obtain ⟨⟨tag, shape, fields⟩, payload, text, stripped⟩ := s
      cases shape <;> simp [Value.compound?, Symbol.compound?, Symbol.shape, Shape.IsCompound]
    | list vs =>
      rw [Value.compound?, compoundList?_eq, List.findSome?_eq_none_iff]
      constructor
      · intro h
        refine ⟨fun t ht => Value.noConfusion ht, fun k w hw => ?_⟩
        exact (ih k w hw).mp (h w (List.mem_of_getElem? hw))
      · rintro ⟨-, h⟩ w hw
        obtain ⟨k, hk⟩ := List.mem_iff_getElem?.mp hw
        exact (ih k w hk).mpr (h k w hk)
    | _ => simp [Value.compound?, inner?]

/-- A symbol that a value carries: the value itself, or one come to through lists and through the
payloads of plain symbols and no-ops. -/
inductive Carries (t : Symbol) : Value → Prop where
  | here : Carries t (.symbol t)
  | item {vs : List Value} {w : Value} (hw : w ∈ vs) (h : Carries t w) : Carries t (.list vs)
  | field {s : Symbol} {name : String} {w : Value} (hs : s.shape = .plain ∨ s.shape = .noOp)
      (hw : (name, w) ∈ s.payload) (h : Carries t w) : Carries t (.symbol s)

theorem Carries.inside {t : Symbol} (h : v.Carries t) :
    ∃ way, v.inside? way = some (.symbol t) := by
  induction h with
  | here => exact ⟨[], rfl⟩
  | item hw _ ih =>
    obtain ⟨way, hway⟩ := ih
    obtain ⟨k, hk⟩ := List.mem_iff_getElem?.mp hw
    exact ⟨k :: way, inside?_cons.mpr ⟨_, hk, hway⟩⟩
  | @field s name w _ hw _ ih =>
    obtain ⟨way, hway⟩ := ih
    obtain ⟨k, hk⟩ := List.mem_iff_getElem?.mp hw
    exact ⟨k :: way, inside?_cons.mpr ⟨w, inner?_symbol.mpr ⟨name, hk⟩, hway⟩⟩

/-- What the search finds is a sequence or a condition that the value carries. -/
theorem carries_of_compound? {t : Symbol} (h : v.compound? = some t) :
    v.Carries t ∧ t.shape.IsCompound := by
  induction v using Value.inner_induction with
  | value v ih =>
    cases v with
    | symbol s =>
      have hfields : s.shape = .plain ∨ s.shape = .noOp →
          Value.compoundPayload? s.payload = some t →
          (Value.symbol s).Carries t ∧ t.shape.IsCompound := by
        intro hs h
        rw [compoundPayload?_eq] at h
        obtain ⟨⟨name, w⟩, hw, hc⟩ := List.exists_of_findSome?_eq_some h
        obtain ⟨k, hk⟩ := List.mem_iff_getElem?.mp hw
        obtain ⟨hcarries, hshape⟩ := ih k w (inner?_symbol.mpr ⟨name, hk⟩) hc
        exact ⟨.field hs hw hcarries, hshape⟩
      obtain ⟨⟨tag, shape, fields⟩, payload, text, stripped⟩ := s
      cases shape with
      | noOp => exact hfields (.inr rfl) h
      | plain => exact hfields (.inl rfl) h
      | sequence =>
        obtain rfl := Option.some.inj h
        exact ⟨.here, .inl rfl⟩
      | condition =>
        obtain rfl := Option.some.inj h
        exact ⟨.here, .inr rfl⟩
    | list vs =>
      rw [Value.compound?, compoundList?_eq] at h
      obtain ⟨w, hw, hc⟩ := List.exists_of_findSome?_eq_some h
      obtain ⟨k, hk⟩ := List.mem_iff_getElem?.mp hw
      obtain ⟨hcarries, hshape⟩ := ih k w hk hc
      exact ⟨.item hw hcarries, hshape⟩
    | _ => cases h

/-- The search comes to every sequence and condition that is carried, or stops before at another. -/
theorem compound?_eq_none_iff_carries :
    v.compound? = none ↔ ∀ t, v.Carries t → ¬ t.shape.IsCompound := by
  constructor
  · intro h t ht
    obtain ⟨way, hway⟩ := ht.inside
    exact (compound?_eq_none_iff v).mp h way t hway
  · intro h
    cases hc : v.compound? with
    | none => rfl
    | some t =>
      obtain ⟨ht, hshape⟩ := carries_of_compound? hc
      exact absurd hshape (h t ht)

end Value

namespace Symbol

variable {s : Symbol}

theorem not_hides_iff : ¬ s.Hides ↔ ∀ field ∈ s.payload, field.2.NoCompound := by
  rw [← Value.forall_inner_symbol]
  constructor
  · intro hn k w hw way t ht hc
    exact hn ⟨k, way, t, Value.inside?_cons.mpr ⟨w, hw, ht⟩, hc⟩
  · rintro hn ⟨k, way, t, ht, hc⟩
    obtain ⟨w, hw, ht⟩ := Value.inside?_cons.mp ht
    exact hn k w hw way t ht hc

/-- A node other than a sequence may stand on a line exactly if it hides nothing. -/
theorem offence?_eq_none_iff (h : s.shape ≠ .sequence) : s.offence? = none ↔ ¬ s.Hides := by
  have hc : ∀ field ∈ s.payload, field.2.compound? = none ↔ field.2.NoCompound :=
    fun field _ => field.2.compound?_eq_none_iff
  rw [offence?, if_neg h, Option.map_eq_none_iff, nestedField?, List.findSome?_eq_none_iff,
    not_hides_iff]
  simp only [Option.map_eq_none_iff]
  exact forall₂_congr hc

/-- The field that is named holds a value that carries a sequence or a condition of that tag. -/
theorem carries_of_nestedField? {field inner : String} (h : s.nestedField? = some (field, inner)) :
    ∃ v t, (field, v) ∈ s.payload ∧ v.Carries t ∧ t.shape.IsCompound ∧ t.tag = inner := by
  obtain ⟨⟨name, v⟩, hfield, hv⟩ := List.exists_of_findSome?_eq_some h
  obtain ⟨t, ht, heq⟩ := Option.map_eq_some_iff.mp hv
  obtain ⟨rfl, rfl⟩ := Prod.mk.inj heq
  obtain ⟨hcarries, hshape⟩ := Value.carries_of_compound? ht
  exact ⟨v, t, hfield, hcarries, hshape, rfl⟩

theorem nestedField?_eq_some {field inner : String} (h : s.nestedField? = some (field, inner)) :
    ∃ k way t, (Value.symbol s).inside? (k :: way) = some (.symbol t) ∧ t.shape.IsCompound ∧
      t.tag = inner := by
  obtain ⟨v, t, hfield, hcarries, hshape, htag⟩ := carries_of_nestedField? h
  obtain ⟨way, hway⟩ := hcarries.inside
  obtain ⟨k, hk⟩ := List.mem_iff_getElem?.mp hfield
  refine ⟨k, way, t, ?_, hshape, htag⟩
  exact Value.inside?_cons.mpr ⟨v, Value.inner?_symbol.mpr ⟨field, hk⟩, hway⟩

/-- What keeps a node from a line: it is a sequence, or the first field to carry a sequence or a
condition. -/
theorem offence?_cases {o : Offence} (h : s.offence? = some o) :
    (s.shape = .sequence ∧ o = .sequenceLine s.tag) ∨
    s.shape ≠ .sequence ∧ ∃ field inner, s.nestedField? = some (field, inner) ∧
      o = .nested field s.tag inner := by
  unfold offence? at h
  split at h
  · next hs => exact .inl ⟨hs, (Option.some.inj h).symm⟩
  · next hs =>
    obtain ⟨⟨field, inner⟩, hnested, rfl⟩ := Option.map_eq_some_iff.mp h
    exact .inr ⟨hs, field, inner, hnested, rfl⟩

/-- A node that may stand on a line: it is no sequence, and no field carries a sequence or a
condition. -/
def IsFlat (s : Symbol) : Prop :=
  s.shape ≠ .sequence ∧
    ∀ name v t, (name, v) ∈ s.payload → v.Carries t → ¬ t.shape.IsCompound

theorem isFlat_iff : s.IsFlat ↔ s.offence? = none := by
  unfold IsFlat offence?
  split
  · next hs => simp [hs]
  · next hs =>
    rw [Option.map_eq_none_iff, nestedField?, List.findSome?_eq_none_iff, and_iff_right hs]
    simp only [Option.map_eq_none_iff, Value.compound?_eq_none_iff_carries, Prod.forall]
    constructor
    · exact fun h name v hv t => h name v t hv
    · exact fun h name v t hv => h name v hv t

end Symbol

variable {ls : List Line} {start i : Nat} {o : Offence}

theorem firstOffence?_eq_some (h : firstOffence? start ls = some (i, o)) :
    ∃ k line, i = start + k ∧ ls[k]? = some line ∧ line.symbol?.bind Symbol.offence? = some o ∧
      ∀ j < k, ∀ earlier, ls[j]? = some earlier →
        earlier.symbol?.bind Symbol.offence? = none := by
  induction ls generalizing start with
  | nil => cases h
  | cons l ls ih =>
    rw [firstOffence?] at h
    split at h
    · next o' ho =>
      obtain ⟨rfl, rfl⟩ := Prod.mk.inj (Option.some.inj h)
      exact ⟨0, l, rfl, rfl, ho, fun j hj => absurd hj (Nat.not_lt_zero j)⟩
    · next hl =>
      obtain ⟨k, line, rfl, hk, ho, hj⟩ := ih h
      refine ⟨k + 1, line, by omega, hk, ho, ?_⟩
      intro j hlt earlier he
      cases j with
      | zero =>
        obtain rfl := Option.some.inj he
        exact hl
      | succ j => exact hj j (Nat.lt_of_succ_lt_succ hlt) earlier he

/-- A check that fails tells of the first line that has an offence. -/
theorem checkLines_eq_error {f : Fault} (h : checkLines ls = .error f) :
    ∃ (i : Nat) (line : Line) (s : Symbol) (o : Offence), ls[i]? = some line ∧
      line.symbol? = some s ∧ s.offence? = some o ∧
      (∀ j < i, ∀ earlier : Line, ls[j]? = some earlier →
        earlier.symbol?.bind Symbol.offence? = none) ∧
      f = ⟨.nonFlat (o.describe i), none⟩ := by
  cases hfirst : firstOffence? 0 ls with
  | none =>
    rw [checkLines, hfirst] at h
    cases h
  | some p =>
    obtain ⟨k, o⟩ := p
    obtain ⟨i, line, rfl, hi, ho, hearlier⟩ := firstOffence?_eq_some hfirst
    obtain ⟨s, hs, ho⟩ := Option.bind_eq_some_iff.mp ho
    rw [checkLines, hfirst, Nat.zero_add] at h
    cases h
    exact ⟨i, line, s, o, hi, hs, ho, hearlier, rfl⟩

/-- On lines without sequences the check accepts those that hide nothing, and else tells of the
first that does. -/
theorem checkLines_cases
    (hs : ∀ line ∈ ls, ∀ s, line.symbol? = some s → s.shape ≠ .sequence) :
    (checkLines ls = .ok () ∧ ∀ line ∈ ls, ∀ s, line.symbol? = some s → ¬ s.Hides) ∨
    ∃ i line s field inner, ls[i]? = some line ∧ line.symbol? = some s ∧ s.Hides ∧
      (∀ j < i, ∀ earlier t, ls[j]? = some earlier → earlier.symbol? = some t → ¬ t.Hides) ∧
      s.nestedField? = some (field, inner) ∧
      checkLines ls = fail (.nonFlat ((Offence.nested field s.tag inner).describe i)) := by
  have hnone : ∀ line ∈ ls, line.symbol?.bind Symbol.offence? = none →
      ∀ s, line.symbol? = some s → ¬ s.Hides := by
    intro line hl ho s hsym
    rw [hsym] at ho
    exact (Symbol.offence?_eq_none_iff (hs line hl s hsym)).mp ho
  cases hcheck : checkLines ls with
  | ok _ => exact .inl ⟨rfl, fun line hl => hnone line hl (checkLines_eq_ok_iff.mp hcheck line hl)⟩
  | error f =>
    obtain ⟨i, line, s, o, hi, hsym, ho, hearlier, rfl⟩ := checkLines_eq_error hcheck
    have hshape := hs line (List.mem_of_getElem? hi) s hsym
    have hhides : s.Hides := by
      refine Classical.byContradiction fun hn => ?_
      rw [(Symbol.offence?_eq_none_iff hshape).mpr hn] at ho
      cases ho
    rcases Symbol.offence?_cases ho with ⟨hseq, -⟩ | ⟨-, field, inner, hnested, rfl⟩
    · exact absurd hseq hshape
    · refine .inr ⟨i, line, s, field, inner, hi, hsym, hhides, ?_, hnested, rfl⟩
      intro j hj earlier t he ht
      exact hnone earlier (List.mem_of_getElem? he) (hearlier j hj earlier he) t ht

/-- The node of the line, if it has one, may stand there. -/
def Line.IsFlat (l : Line) : Prop := ∀ s, l.symbol? = some s → s.IsFlat

theorem Line.isFlat_iff {l : Line} : l.IsFlat ↔ l.symbol?.bind Symbol.offence? = none := by
  unfold Line.IsFlat
  cases l.symbol? <;> simp [Symbol.isFlat_iff]

/-- Whatever its handlers have written, a layout gives lines only after they were checked. -/
theorem Layout.checkLines_of_flatten {l : Layout} {tree : Tree} {policy : Policy} {q : Sequence}
    (h : l.flatten tree policy = .ok q) (hl : q.linear? = some ls) : checkLines ls = .ok () := by
  unfold Layout.flatten Layout.run at h
  split at h
  · cases h
    cases hl
  · unfold Layout.linearize at h
    split at h
    · cases h
    · split at h
      · cases h
      · next hcheck =>
        cases h
        obtain rfl := Option.some.inj hl
        exact hcheck

/-- The check accepts exactly the lines that are all flat. Else it gives the number of the first one
that is not, and says that a sequence stands there or which field holds what. So all lines that a
layout gives are flat, whatever handlers it has. -/
theorem checkLines_exact (ls : List Line) :
    (checkLines ls = .ok () ↔ ∀ line ∈ ls, line.IsFlat) ∧
    (∀ f, checkLines ls = .error f →
      ∃ (i : Nat) (line : Line) (s : Symbol), ls[i]? = some line ∧ ¬ line.IsFlat ∧
        (∀ j < i, ∀ earlier : Line, ls[j]? = some earlier → earlier.IsFlat) ∧
        line.symbol? = some s ∧
        ((s.shape = .sequence ∧
            f = ⟨.nonFlat ("line " ++ toString i ++ ": sequence " ++ s.tag ++
              " emitted as a line"), none⟩) ∨
          s.shape ≠ .sequence ∧ ∃ field v t, (field, v) ∈ s.payload ∧ v.Carries t ∧
            t.shape.IsCompound ∧
            f = ⟨.nonFlat ("line " ++ toString i ++ ": field `" ++ field ++ "` of " ++ s.tag ++
              " holds nested " ++ t.tag), none⟩)) ∧
    ∀ (l : Layout) tree policy q written, l.flatten tree policy = .ok q →
      q.linear? = some written → ∀ line ∈ written, line.IsFlat := by
  have hiff : ∀ ls, checkLines ls = .ok () ↔ ∀ line ∈ ls, line.IsFlat := by
    intro ls
    simp only [checkLines_eq_ok_iff, Line.isFlat_iff]
  refine ⟨hiff ls, ?_, ?_⟩
  · intro f hf
    obtain ⟨i, line, s, o, hi, hs, ho, hearlier, rfl⟩ := checkLines_eq_error hf
    have hflat : ¬ line.IsFlat := by
      intro hl
      have hnone := Symbol.isFlat_iff.mp (hl s hs)
      rw [ho] at hnone
      cases hnone
    have hearlier : ∀ j < i, ∀ earlier : Line, ls[j]? = some earlier → earlier.IsFlat :=
      fun j hj earlier he => Line.isFlat_iff.mpr (hearlier j hj earlier he)
    refine ⟨i, line, s, hi, hflat, hearlier, hs, ?_⟩
    rcases Symbol.offence?_cases ho with ⟨hseq, rfl⟩ | ⟨hseq, field, inner, hnested, rfl⟩
    · exact .inl ⟨hseq, rfl⟩
    · obtain ⟨v, t, hfield, hcarries, hshape, rfl⟩ := Symbol.carries_of_nestedField? hnested
      exact .inr ⟨hseq, field, v, t, hfield, hcarries, hshape, rfl⟩
  · intro l tree policy q written hq hl
    exact (hiff written).mp (Layout.checkLines_of_flatten hq hl)

variable {choice : String → Bool} {policy : Policy} {indent : Int} {line : Line} {s t : Symbol}

theorem Symbol.eq_head_of_mem_framed {c r : List Line} (h : line ∈ s.framed policy indent c r)
    (ht : line.symbol? = some t) : t = s.head ∨ line ∈ c ∨ line ∈ r := by
  rcases Symbol.framed_cases h with rfl | ⟨m, rfl⟩ | ⟨-, h⟩ | h
  · exact .inl (Option.some.inj ht).symm
  · cases ht
  · exact .inr (.inl h)
  · exact .inr (.inr h)

theorem Symbol.mem_payload_of_getD {name : String} {v : Value} (h : s.getD name = v)
    (hv : v ≠ .nil) : (name, v) ∈ s.payload := by
  unfold Symbol.getD Symbol.get? Payload.get? at h
  cases hg : s.payload.lookup name with
  | none =>
    rw [hg] at h
    exact absurd h.symm hv
  | some u =>
    rw [hg] at h
    obtain rfl : u = v := h
    obtain ⟨before, after, hp, -⟩ := List.lookup_eq_some_iff.mp hg
    rw [hp]
    exact List.mem_append_right _ (.head _)

theorem Symbol.inside_getD {name : String} {way : List Nat} {w : Value}
    (h : (s.getD name).inside? way = some w) (hw : w ≠ .nil) :
    ∃ k, (Value.symbol s).inside? (k :: way) = some w := by
  by_cases hv : s.getD name = .nil
  · rw [hv] at h
    cases way with
    | nil => exact absurd (Option.some.inj h).symm hw
    | cons k way => cases h
  · obtain ⟨k, hk⟩ := List.mem_iff_getElem?.mp (Symbol.mem_payload_of_getD rfl hv)
    exact ⟨k, Value.inside?_cons.mpr ⟨_, Value.inner?_symbol.mpr ⟨name, hk⟩, h⟩⟩

theorem Symbol.inside_child {v w : Value} {way : List Nat} (hv : v ∈ s.children)
    (h : v.inside? way = some w) : ∃ k j, (Value.symbol s).inside? (k :: j :: way) = some w := by
  obtain ⟨vs, hvs, hmem⟩ := Symbol.mem_children hv
  obtain ⟨j, hj⟩ := List.mem_iff_getElem?.mp hmem
  have hfield : (s.getD symbolsField).inside? [] = some (.list vs) := congrArg some hvs
  obtain ⟨k, hk⟩ := Symbol.inside_getD hfield Value.noConfusion
  obtain ⟨u, hu, hlist⟩ := Value.inside?_cons.mp hk
  obtain rfl := Option.some.inj hlist
  exact ⟨k, j, Value.inside?_cons.mpr ⟨_, hu, Value.inside?_cons.mpr ⟨v, hj, h⟩⟩⟩

/-- The node of a line stands in the tree and is not a sequence. It is written without its branches,
or whole if it has none. -/
theorem Value.node_of_line {v : Value} (hl : line ∈ v.lines choice policy indent)
    (ht : line.symbol? = some t) : ∃ way s, v.inside? way = some (.symbol s) ∧
      s.shape ≠ .sequence ∧
      t = if s.hasBranches choice then s.head else s := by
  induction v using Value.node_induction generalizing indent with
  | leaf v hv =>
    cases v with
    | symbol s => cases hv
    | _ => cases hl
  | node s ih ihc =>
    have hfield : ∀ name {indent}, line ∈ (s.getD name).lines choice policy indent →
        ∃ way u, (Value.symbol s).inside? way = some (.symbol u) ∧ u.shape ≠ .sequence ∧
          t = if u.hasBranches choice then u.head else u := by
      intro name indent hl
      obtain ⟨way, u, hu, hshape⟩ := ih name hl
      obtain ⟨k, hk⟩ := Symbol.inside_getD hu Value.noConfusion
      exact ⟨k :: way, u, hk, hshape⟩
    cases hb : s.hasBranches choice with
    | true =>
      have hs : s.shape ≠ .sequence := by
        intro hs
        simp [Symbol.hasBranches, hs] at hb
      rw [Symbol.lines_of_hasBranches hb] at hl
      rcases Symbol.eq_head_of_mem_framed hl ht with rfl | hl | hl
      · exact ⟨[], s, rfl, hs, by rw [hb, if_pos rfl]⟩
      · exact hfield conditionField hl
      · rcases List.mem_append.mp hl with hl | hl
        · unfold Symbol.bound at hl
          split at hl
          · rcases List.mem_cons.mp hl with rfl | hl
            · cases ht
            · exact hfield Cards.subjectField hl
          · cases hl
        · exact hfield resultField hl
    | false =>
      rw [Symbol.lines_of_not_hasBranches hb] at hl
      split at hl
      · cases hl
      · obtain ⟨w, hw, hl⟩ := List.mem_flatMap.mp hl
        obtain ⟨way, u, hu, hshape⟩ := ihc w hw hl
        obtain ⟨k, j, hk⟩ := Symbol.inside_child hw hu
        exact ⟨k :: j :: way, u, hk, hshape⟩
      all_goals
        next hs =>
        obtain rfl := List.mem_singleton.mp hl
        obtain rfl := Option.some.inj ht
        exact ⟨[], s, rfl, by simp [hs], by rw [hb, if_neg Bool.false_ne_true]⟩

/-- No line holds a sequence. -/
theorem Value.shape_of_line {v : Value} (hl : line ∈ v.lines choice policy indent)
    (ht : line.symbol? = some t) : t.shape ≠ .sequence := by
  obtain ⟨-, s, -, hs, rfl⟩ := Value.node_of_line hl ht
  split
  · rwa [Symbol.shape_head]
  · exact hs

/-- The source and the text of a tree, with these frames. -/
def Tree.context (tree : Tree) (stack : List String) : Context :=
  ⟨some tree.source, some tree.text.joined, stack⟩

/-- This is the first of the lines whose node hides something. -/
def FirstHiding (ls : List Line) (i : Nat) (t : Symbol) : Prop :=
  (∃ line, ls[i]? = some line ∧ line.symbol? = some t) ∧ t.Hides ∧
    ∀ j < i, ∀ line t', ls[j]? = some line → line.symbol? = some t' → ¬ t'.Hides

/-- Where no list stands at the place of a node, a standard layout can only fail on what a line
hides. -/
theorem Layout.IsStandard.flatten_cases {l : Layout} (h : l.IsStandard) {tree : Tree}
    (hf : (tree.outline l.handles).fault? policy = none) :
    let written := (l.emit tree policy).2.sink.finish
    (∃ q, l.flatten tree policy = .ok q ∧
      ∀ line ∈ written, ∀ t, line.symbol? = some t → ¬ t.Hides) ∨
    ∃ i t field inner, FirstHiding written i t ∧ t.nestedField? = some (field, inner) ∧
      l.flatten tree policy = .error
        ⟨.nonFlat ((Offence.nested field t.tag inner).describe i), some (tree.context [])⟩ := by
  intro written
  have hwritten : written = tree.lines l.handles policy := h.finish_emit hf
  have hflat := h.flatten_eq tree policy
  have hshape : ∀ line ∈ written, ∀ t, line.symbol? = some t → t.shape ≠ .sequence := by
    intro line hl t ht
    rw [hwritten] at hl
    exact Value.shape_of_line hl ht
  simp only [hf, ← hwritten] at hflat
  rcases checkLines_cases hshape with
    ⟨hok, hall⟩ | ⟨i, line, t, field, inner, hi, ht, hhides, hfirst, hnested, herr⟩
  · exact .inl ⟨_, by simpa only [hok] using hflat, hall⟩
  · simp only [herr, fail] at hflat
    exact .inr ⟨i, t, field, inner, ⟨⟨line, hi, ht⟩, hhides, hfirst⟩, hnested, hflat⟩

/-- Where no list stands at the place of a node, a failure names a sequence or a condition that
stands in the payload of a line. -/
theorem Layout.IsStandard.flatten_eq_error {l : Layout} (h : l.IsStandard) {tree : Tree}
    {fault : Fault} (hf : (tree.outline l.handles).fault? policy = none)
    (he : l.flatten tree policy = .error fault) :
    ∃ i line s field inner, (tree.lines l.handles policy)[i]? = some line ∧
      line.symbol? = some s ∧ s.nestedField? = some (field, inner) ∧
      fault.cause = .nonFlat ((Offence.nested field s.tag inner).describe i) := by
  rcases h.flatten_cases hf with ⟨q, hok, -⟩ | ⟨i, s, field, inner, hfirst, hnested, herr⟩
  · rw [hok] at he
    cases he
  · rw [herr] at he
    cases he
    obtain ⟨⟨line, hi, hs⟩, -⟩ := hfirst
    rw [h.finish_emit hf] at hi
    exact ⟨i, line, s, field, inner, hi, hs, hnested, rfl⟩

end RulesText
