import RulesText.Symbol

/-!
Occurrences: everything inside a value at any depth, named by the way down to it. A way is a list of
positions, of fields in the payload of a symbol and of items in a list.
-/
namespace RulesText

namespace Value

/-- What stands at a position directly inside a value: a field of a symbol or an item of a list. -/
def inner? : Value → Nat → Option Value
  | .symbol s, k => s.payload[k]?.map Prod.snd
  | .list vs, k => vs[k]?
  | .nil, _ | .bool _, _ | .int _, _ | .str _, _ => none

/-- What stands at the end of a way down. -/
def inside? : Value → List Nat → Option Value
  | v, [] => some v
  | v, k :: way => (v.inner? k).bind (inside? · way)

variable {v w : Value} {k : Nat} {way : List Nat}

theorem inside?_cons :
    v.inside? (k :: way) = some w ↔ ∃ u, v.inner? k = some u ∧ u.inside? way = some w :=
  Option.bind_eq_some_iff

theorem inner?_symbol {s : Symbol} :
    (Value.symbol s).inner? k = some w ↔ ∃ name, s.payload[k]? = some (name, w) := by
  simp [inner?]

/-- What stands directly inside a symbol is what its fields hold. -/
theorem forall_inner_symbol {s : Symbol} {motive : Value → Prop} :
    (∀ k w, (Value.symbol s).inner? k = some w → motive w) ↔
      ∀ field ∈ s.payload, motive field.2 := by
  constructor
  · rintro h ⟨name, w⟩ hw
    obtain ⟨k, hk⟩ := List.mem_iff_getElem?.mp hw
    exact h k w (inner?_symbol.mpr ⟨name, hk⟩)
  · intro h k w hw
    obtain ⟨name, hk⟩ := inner?_symbol.mp hw
    exact h (name, w) (List.mem_of_getElem? hk)

/-- What holds of every symbol inside holds of the value itself, if it is one, and of every symbol
in what stands directly inside. -/
theorem forall_inside_iff {motive : Symbol → Prop} :
    (∀ way t, v.inside? way = some (.symbol t) → motive t) ↔
      (∀ t, v = .symbol t → motive t) ∧
      ∀ k w, v.inner? k = some w → ∀ way t, w.inside? way = some (.symbol t) → motive t := by
  constructor
  · intro h
    refine ⟨fun t ht => h [] t (by rw [ht]; rfl), fun k w hw way t ht => ?_⟩
    exact h (k :: way) t (inside?_cons.mpr ⟨w, hw, ht⟩)
  · rintro ⟨hself, hinner⟩ way t ht
    cases way with
    | nil => exact hself t (Option.some.inj ht)
    | cons k way =>
      obtain ⟨w, hw, ht⟩ := inside?_cons.mp ht
      exact hinner k w hw way t ht

/-- A value with nothing inside that is not a symbol either. -/
def IsLeaf (v : Value) : Prop := v.list? = none ∧ v.symbol? = none

theorem IsLeaf.inside?_ne {u : Symbol} (h : v.IsLeaf) (way : List Nat) :
    v.inside? way ≠ some (.symbol u) := by
  obtain ⟨hlist, hsymbol⟩ := h
  intro hu
  cases way with
  | nil =>
    obtain rfl := Option.some.inj hu
    cases hsymbol
  | cons k way =>
    obtain ⟨w, hw, -⟩ := inside?_cons.mp hu
    cases v <;> simp [inner?, list?, symbol?] at hw hlist hsymbol

/-- It holds of every symbol inside. -/
def Every (motive : Symbol → Prop) (v : Value) : Prop :=
  ∀ way t, v.inside? way = some (.symbol t) → motive t

section

variable {motive : Symbol → Prop}

theorem every_of_isLeaf (h : v.IsLeaf) : v.Every motive :=
  fun way _ ht => absurd ht (h.inside?_ne way)

@[simp]
theorem every_nil : Value.nil.Every motive := every_of_isLeaf ⟨rfl, rfl⟩

@[simp]
theorem every_int {n : Int64} : (Value.int n).Every motive := every_of_isLeaf ⟨rfl, rfl⟩

@[simp]
theorem every_symbol {s : Symbol} :
    (Value.symbol s).Every motive ↔ motive s ∧ ∀ field ∈ s.payload, field.2.Every motive := by
  refine forall_inside_iff.trans (and_congr ?_ forall_inner_symbol)
  simp

@[simp]
theorem every_list {vs : List Value} : (Value.list vs).Every motive ↔ ∀ w ∈ vs, w.Every motive := by
  refine forall_inside_iff.trans ⟨fun h w hw => ?_, fun h => ⟨fun t => Value.noConfusion, ?_⟩⟩
  · obtain ⟨k, hk⟩ := List.mem_iff_getElem?.mp hw
    exact h.2 k w hk
  · exact fun k w hk => h w (List.mem_of_getElem? hk)

end

theorem sizeOf_inner (h : v.inner? k = some w) : sizeOf w < sizeOf v := by
  cases v with
  | symbol s =>
    obtain ⟨name, hk⟩ := inner?_symbol.mp h
    obtain ⟨variant, payload, text, stripped⟩ := s
    have hlt : sizeOf (name, w) < sizeOf payload :=
      List.sizeOf_lt_of_mem (List.mem_of_getElem? hk)
    rw [Prod.mk.sizeOf_spec] at hlt
    rw [Value.symbol.sizeOf_spec, Symbol.mk.sizeOf_spec]
    omega
  | list vs =>
    have hlt := List.sizeOf_lt_of_mem (List.mem_of_getElem? h)
    rw [Value.list.sizeOf_spec]
    omega
  | _ => cases h

/-- Induction over everything inside: what stands directly inside a value comes before it. -/
theorem inner_induction {motive : Value → Prop}
    (value : ∀ v : Value, (∀ k w, v.inner? k = some w → motive w) → motive v) (v : Value) :
    motive v :=
  value v fun _ w _ => inner_induction value w
termination_by sizeOf v
decreasing_by exact sizeOf_inner ‹_›

end Value

namespace Shape

/-- Sequences and conditions are made of other nodes. -/
def IsCompound (s : Shape) : Prop := s = .sequence ∨ s = .condition

end Shape

/-- A symbol hides structure if a sequence or a condition stands anywhere inside its payload. -/
def Symbol.Hides (s : Symbol) : Prop :=
  ∃ k way t, (Value.symbol s).inside? (k :: way) = some (.symbol t) ∧ t.shape.IsCompound

end RulesText
