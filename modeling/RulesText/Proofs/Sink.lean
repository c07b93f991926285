import RulesText.Sink

/-! Sinks seen from what is being written to. Nothing here unfolds the stack of frames again. -/
namespace RulesText.Sink

variable {α : Type} {s : Sink α} {xs ys : List α} {a : α} {index : Nat}

/-- Writes these entries to the end of the target. -/
def append (s : Sink α) (xs : List α) : Sink α := s.setTarget (s.target ++ xs)

theorem target_setTarget : (s.setTarget xs).target = xs := by
  obtain ⟨output, _ | ⟨frame, rest⟩⟩ := s <;> rfl

theorem setTarget_setTarget : (s.setTarget xs).setTarget ys = s.setTarget ys := by
  obtain ⟨output, _ | ⟨frame, rest⟩⟩ := s <;> rfl

theorem setTarget_target : s.setTarget s.target = s := by
  obtain ⟨output, _ | ⟨frame, rest⟩⟩ := s <;> rfl

theorem target_append : (s.append xs).target = s.target ++ xs := target_setTarget

theorem length_append : (s.append xs).length = s.length + xs.length := by
  simp [length, target_append]

theorem append_nil : s.append [] = s := by
  simp [append, setTarget_target]

theorem append_append : (s.append xs).append ys = s.append (xs ++ ys) := by
  rw [append, target_append, append, setTarget_setTarget, append, List.append_assoc]

theorem push_eq_append : s.push a = s.append [a] := rfl

/-- Once the frame is closed, only the target beneath it has changed. -/
theorem spliceAfter_hold_append : (s.hold.append xs).spliceAfter index =
    (xs.length, s.setTarget (s.target.take (index + 1) ++ xs ++ s.target.drop (index + 1))) := rfl

/-- Entries that are held and put back before the last ones are entries written in order. -/
theorem spliceAfter_before (h : 0 < s.length) :
    ((s.append ys).hold.append xs).spliceAfter (s.length - 1) =
      (xs.length, s.append (xs ++ ys)) := by
  have hi : s.length - 1 + 1 = s.target.length := Nat.sub_add_cancel h
  rw [spliceAfter_hold_append, target_append, hi, List.take_left, List.drop_left, append,
    setTarget_setTarget, append, List.append_assoc]

theorem finish_append_of_empty : (({} : Sink α).append xs).finish = xs := by
  simp [append, setTarget, target, finish, leftover]

end RulesText.Sink
