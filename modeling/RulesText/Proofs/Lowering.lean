import RulesText.Text.Normal

/-!
Lowering: only the dotted capital I grows when it is lowered, and no lowered text holds one. So a
piece of a normal text gets no longer when it is brought into normal form again.
-/
namespace RulesText.Text

variable {runs : List Run} {n k : Nat} {cs before after : List Char} {c : Char}

/-- The sources of a code point other than 0 are all that a table sends there. -/
theorem mem_sources (h : shift? runs n = some k) (hk : 0 < k) : n ∈ sources runs k := by
  induction runs with
  | nil => cases h
  | cons r rest ih =>
    rw [shift?] at h
    split at h
    · cases h
    · split at h
      · next hcovers =>
        have himage : r.image n = k := Option.some.inj h
        have hback : ((k : Int) - r.offset).toNat = n := by
          unfold Run.image at himage
          omega
        refine List.mem_filterMap.mpr ⟨r, .head _, ?_⟩
        simp [hback, hcovers, himage]
      · have := ih h
        simp only [sources, List.mem_filterMap] at this ⊢
        obtain ⟨r', hr', hn⟩ := this
        exact ⟨r', .tail _ hr', hn⟩

namespace Case

theorem sources_dottedI : sources lowerRuns 'İ'.toNat = [] := by decide +kernel

theorem eq_of_ofNat_eq_dottedI (h : Char.ofNat n = 'İ') : n = 'İ'.toNat := by
  by_cases hn : n.isValidChar
  · rw [Char.ofNat, dif_pos hn] at h
    exact congrArg Char.toNat h
  · rw [Char.ofNat, dif_neg hn] at h
    cases h

/-- Nothing is lowered to a dotted capital I. -/
theorem dottedI_not_mem_lowerAt : 'İ' ∉ lowerAt before c after := by
  unfold lowerAt lowerSigma
  split
  · split <;> decide
  · split
    · decide
    · next hc =>
      intro h
      have hcode : shift lowerRuns c.toNat = 'İ'.toNat :=
        eq_of_ofNat_eq_dottedI (List.mem_singleton.mp h).symm
      unfold shift at hcode
      cases hs : shift? lowerRuns c.toNat with
      | none =>
        rw [hs, Option.getD_none] at hcode
        exact hc (by simpa using Char.toNat_inj.mp hcode)
      | some k =>
        rw [hs, Option.getD_some] at hcode
        have hmem := mem_sources (hcode ▸ hs) (by decide)
        rw [sources_dottedI] at hmem
        cases hmem

theorem dottedI_not_mem_lowerFrom : 'İ' ∉ lowerFrom before cs := by
  induction cs generalizing before with
  | nil => exact List.not_mem_nil
  | cons c rest ih =>
    rw [lowerFrom, List.mem_append]
    exact fun h => h.elim dottedI_not_mem_lowerAt ih

theorem length_lowerFrom (h : 'İ' ∉ cs) : (lowerFrom before cs).length = cs.length := by
  induction cs generalizing before with
  | nil => rfl
  | cons c rest ih =>
    rw [List.mem_cons, not_or] at h
    obtain ⟨hc, hrest⟩ := h
    have hone : (lowerAt before c rest).length = 1 := by
      have hc' : (c == 'İ') = false := by simpa using Ne.symm hc
      unfold lowerAt
      rw [hc']
      split <;> rfl
    rw [lowerFrom, List.length_append, hone, ih hrest, List.length_cons, Nat.add_comm]

end Case

theorem trimChars_sublist (cs : List Char) : (trimChars cs).Sublist cs := by
  have hend : (trimEndChars (cs.dropWhile isBlank)).Sublist (cs.dropWhile isBlank) := by
    rw [← List.reverse_sublist, trimEndChars, dropEnd, List.reverse_reverse]
    exact List.dropWhile_sublist _
  exact hend.trans (List.dropWhile_sublist _)

theorem dottedI_not_mem_normalize (text : String) : 'İ' ∉ (normalize text).toList := by
  rw [normalize, String.toList_ofList]
  exact Case.dottedI_not_mem_lowerFrom

/-- Without a dotted capital I, a text in normal form is no longer than it was. -/
theorem length_normalize_le {text : String} (h : 'İ' ∉ text.toList) :
    (normalize text).length ≤ text.length := by
  have hsub := trimChars_sublist text.toList
  rw [normalize, String.length_ofList, normalChars, Case.lower,
    Case.length_lowerFrom fun hmem => h (hsub.subset hmem), ← String.length_toList]
  exact hsub.length_le

end RulesText.Text
