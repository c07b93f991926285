import RulesText.Fault

/-! Effects: work on a state that may fail on the way. -/
namespace RulesText

/-- Work on a state that may fail. What was changed before a fault stays changed. -/
abbrev Effect (σ : Type) := ExceptT Fault (StateM σ)

namespace Effect

variable {σ α β : Type} {x : Effect σ α} {g : α → Effect σ β} {s s' : σ} {a : α} {f : Fault}

theorem run_bind_of_ok (h : x.run s = (.ok a, s')) : (x >>= g).run s = (g a).run s' := by
  change (match x.run s with | (o, s') => ExceptT.bindCont g o s') = _
  rw [h]
  rfl

theorem run_bind_of_fault (h : x.run s = (.error f, s')) : (x >>= g).run s = (.error f, s') := by
  change (match x.run s with | (o, s') => ExceptT.bindCont g o s') = _
  rw [h]
  rfl

theorem run_get_bind {g : σ → Effect σ β} : (get >>= g).run s = (g s).run s := rfl

theorem run_outcome {o : Outcome α} : (liftM o : Effect σ α).run s = (o, s) := rfl

end Effect

end RulesText
