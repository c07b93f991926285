/-! Entries: values by key. Setting a key drops its earlier entry and leaves the others alone. -/
namespace RulesText

variable {κ ν : Type} [DecidableEq κ] {key other : κ}

theorem lookup_filter_ne (h : key ≠ other) (entries : List (κ × ν)) :
    (entries.filter (·.1 != key)).lookup other = entries.lookup other := by
  induction entries with
  | nil => rfl
  | cons entry entries ih =>
    by_cases hk : entry.1 = key
    · have hne : (other == entry.1) = false := by simpa [hk] using Ne.symm h
      rw [List.filter_cons_of_neg (by simpa using hk), ih, List.lookup_cons, hne]
    · rw [List.filter_cons_of_pos (by simpa using hk), List.lookup_cons, List.lookup_cons, ih]

theorem lookup_set (v : ν) (entries : List (κ × ν)) :
    ((key, v) :: entries.filter (·.1 != key)).lookup other =
      if key = other then some v else entries.lookup other := by
  by_cases h : key = other
  · simp [h]
  · have hne : (other == key) = false := by simpa using Ne.symm h
    rw [List.lookup_cons, hne, if_neg h]
    exact lookup_filter_ne h entries

end RulesText
