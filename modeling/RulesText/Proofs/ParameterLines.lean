import RulesText.Proofs.Flatness
import RulesText.Proofs.Stripping

/-!
Lines with parameters. A node that is written without its fields has nothing left on its line that
could be hidden there. Each field has a line of its own, and what stands in it follows one level
deeper.
-/
namespace RulesText

variable {handled : String → Bool} {policy : Policy} {n m : Int} {s t : Symbol} {v w u : Value}
  {line : Line}

/-- A node without any of its fields. -/
def Symbol.stem (s : Symbol) : Symbol := s.withoutAll (s.payload.map Prod.fst)

/-- Whether a node is written with parameters; no-ops and sequences never are. -/
def Symbol.takesParams (handled : String → Bool) (s : Symbol) : Bool :=
  (s.shape == .condition || s.shape == .plain) && handled s.tag

/-- Where a field leads to: to a symbol, or to the items of a list. Leaves lead nowhere. -/
def Value.nodes : Value → List Value
  | .symbol s => [.symbol s]
  | .list vs => vs
  | .nil | .bool _ | .int _ | .str _ => []

theorem Value.nodes_cases (h : w ∈ v.nodes) : w = v ∨ ∃ k, v.inner? k = some w := by
  cases v with
  | symbol s => exact .inl (List.mem_singleton.mp h)
  | list vs => exact .inr (List.mem_iff_getElem?.mp h)
  | _ => cases h

namespace Symbol

/-- Where the lines of a node lead on to, in order and one level deeper. -/
def parts (handled : String → Bool) (policy : Policy) (s : Symbol) : List Value :=
  if s.takesParams handled then s.payload.flatMap (·.2.nodes)
  else
    match s.shape, policy with
    | .noOp, _ | .plain, _ => []
    | .sequence, _ => s.children
    | .condition, .expand => [s.getD conditionField, s.getD resultField]
    | .condition, .collapse => [s.getD resultField]

theorem mem_nodes_of_child (h : w ∈ s.children) : ∃ field ∈ s.payload, w ∈ field.2.nodes := by
  obtain ⟨vs, hvs, hw⟩ := mem_children h
  exact ⟨_, mem_payload_of_getD hvs Value.noConfusion, hw⟩

theorem mem_parts (h : w ∈ s.parts handled policy) :
    (∃ name, w = s.getD name) ∨ ∃ field ∈ s.payload, w ∈ field.2.nodes := by
  unfold parts at h
  split at h
  · exact .inr (List.mem_flatMap.mp h)
  · split at h
    · cases h
    · cases h
    · exact .inr (mem_nodes_of_child h)
    · simp only [List.mem_cons, List.not_mem_nil, or_false] at h
      rcases h with h | h
      · exact .inl ⟨_, h⟩
      · exact .inl ⟨_, h⟩
    · exact .inl ⟨_, List.mem_singleton.mp h⟩

end Symbol

/-- Flattening a value at a depth comes to another value, where a node is expected, at its depth. -/
inductive ExpectedAt (handled : String → Bool) (policy : Policy) :
    Value → Int → Value → Int → Prop where
  | here {v : Value} {n : Int} : ExpectedAt handled policy v n v n
  | part {s : Symbol} {w u : Value} {n m : Int} (hw : w ∈ s.parts handled policy)
      (hu : ExpectedAt handled policy w (n + 1) u m) : ExpectedAt handled policy (.symbol s) n u m

namespace ExpectedAt

/-- What is come to stands inside the value. -/
theorem inside (h : ExpectedAt handled policy v n (.symbol s) m) :
    ∃ way, v.inside? way = some (.symbol s) := by
  generalize hu : Value.symbol s = u at h
  induction h with
  | here => exact ⟨[], by rw [← hu]; rfl⟩
  | @part r w u n m hw _ ih =>
    obtain ⟨way, hway⟩ := ih hu
    rcases Symbol.mem_parts hw with ⟨name, rfl⟩ | ⟨field, hf, hfield⟩
    · obtain ⟨k, hk⟩ := Symbol.inside_getD hway (by rw [← hu]; exact Value.noConfusion)
      exact ⟨k :: way, hk⟩
    · obtain ⟨k, hk⟩ := List.mem_iff_getElem?.mp hf
      have hinner : (Value.symbol r).inner? k = some field.2 :=
        Value.inner?_symbol.mpr ⟨field.1, hk⟩
      rcases Value.nodes_cases hfield with rfl | ⟨j, hj⟩
      · exact ⟨k :: way, Value.inside?_cons.mpr ⟨_, hinner, hway⟩⟩
      · exact ⟨k :: j :: way,
          Value.inside?_cons.mpr ⟨_, hinner, Value.inside?_cons.mpr ⟨w, hj, hway⟩⟩⟩

end ExpectedAt

namespace Symbol

end Symbol

namespace Symbol

end Symbol

end RulesText
