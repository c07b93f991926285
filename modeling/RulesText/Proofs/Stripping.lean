import Mathlib.Data.List.Perm.Subperm
import RulesText.Symbol

/-!
Stripping. Whatever fields are asked for, and in whatever order, what is left of a symbol and what
was taken out of it are together the fields it was built with, and the record of removals is exact.
-/
namespace RulesText

variable {s t u left : Symbol} {name : String} {names : List String} {gone gone' : Payload}

namespace Payload

/-- Removing a field takes out the first of that name, if there is one. -/
theorem erase_cases (p : Payload) (name : String) :
    (p.get? name = none ∧ ∀ field ∈ p, field.1 ≠ name) ∨
    ∃ before v after, p = before ++ (name, v) :: after ∧ (∀ field ∈ before, field.1 ≠ name) ∧
      p.get? name = some v ∧ p.erase name = before ++ after := by
  induction p with
  | nil => exact .inl ⟨rfl, fun _ h => nomatch h⟩
  | cons field rest ih =>
    obtain ⟨other, v⟩ := field
    by_cases h : other = name
    · subst h
      exact .inr ⟨[], v, rest, rfl, fun _ h => (nomatch h), by simp [get?], by simp [erase]⟩
    · have hget : get? ((other, v) :: rest) name = get? rest name := by
        rw [get?_cons, if_neg h]
      rcases ih with ⟨hn, hall⟩ | ⟨before, w, after, rfl, hb, hw, he⟩
      · exact .inl ⟨hget.trans hn, List.forall_mem_cons.mpr ⟨h, hall⟩⟩
      · exact .inr ⟨(other, v) :: before, w, after, rfl, List.forall_mem_cons.mpr ⟨h, hb⟩,
          hget.trans hw, by simp [erase, h, he]⟩

end Payload

namespace Symbol

/-- One call: it takes out the first field of that name and no other, gives back its value and notes
the name; where no field has that name, it gives nothing back and changes nothing. -/
def TakesFirst (s : Symbol) (name : String) (value : Option Value) (left : Symbol) : Prop :=
  (∃ before v after, s.payload = before ++ (name, v) :: after ∧ (∀ field ∈ before, field.1 ≠ name) ∧
    value = some v ∧ left = ⟨s.variant, before ++ after, s.text, s.stripped ++ [name]⟩) ∨
  ((∀ field ∈ s.payload, field.1 ≠ name) ∧ value = none ∧ left = s)

theorem takesFirst_strip (s : Symbol) (name : String) :
    s.TakesFirst name (s.strip name).1 (s.strip name).2 := by
  rcases Payload.erase_cases s.payload name with
    ⟨hnone, hall⟩ | ⟨before, v, after, hp, hbefore, hv, herase⟩
  · have hget : s.get? name = none := hnone
    refine .inr ⟨hall, hget, ?_⟩
    simp [strip, without, hget]
  · have hget : s.get? name = some v := hv
    refine .inl ⟨before, v, after, hp, hbefore, hget, ?_⟩
    simp [strip, without, hget, herase]

/-- A call for one name does not touch the fields of another. -/
theorem TakesFirst.get?_of_ne {other : String} {value : Option Value}
    (h : s.TakesFirst name value left) (hne : other ≠ name) : left.get? other = s.get? other := by
  rcases h with ⟨before, v, after, hp, -, -, rfl⟩ | ⟨-, -, rfl⟩
  · have hskip : (other == name) = false := beq_false_of_ne hne
    simp [get?, Payload.get?, hp, List.lookup_append, List.lookup_cons, hskip]
  · rfl

/-- What is left of a symbol after these fields are gone, the one taken out first at the front. -/
structure Accounts (s : Symbol) (gone : Payload) (left : Symbol) : Prop where
  sublist : left.payload.Sublist s.payload
  perm : (left.payload ++ gone).Perm s.payload
  stripped : left.stripped = s.stripped ++ gone.map Prod.fst
  variant : left.variant = s.variant
  text : left.text = s.text

namespace Accounts

theorem refl (s : Symbol) : s.Accounts [] s :=
  ⟨.refl _, by simp, by simp, rfl, rfl⟩

theorem trans (h : s.Accounts gone t) (h' : t.Accounts gone' u) : s.Accounts (gone ++ gone') u where
  sublist := h'.sublist.trans h.sublist
  perm := by
    have hswap : (u.payload ++ (gone ++ gone')).Perm (u.payload ++ gone' ++ gone) := by
      rw [List.append_assoc]
      exact List.perm_append_comm.append_left _
    exact hswap.trans ((h'.perm.append_right gone).trans h.perm)
  stripped := by rw [h'.stripped, h.stripped, List.map_append, List.append_assoc]
  variant := h'.variant.trans h.variant
  text := h'.text.trans h.text

end Accounts

theorem TakesFirst.accounts {value : Option Value} (h : s.TakesFirst name value left) :
    s.Accounts (value.map (name, ·)).toList left := by
  rcases h with ⟨before, v, after, hp, -, rfl, rfl⟩ | ⟨-, rfl, rfl⟩
  · refine ⟨?_, ?_, by simp, rfl, rfl⟩
    · rw [hp]
      exact (List.sublist_cons_self _ _).append_left before
    · rw [hp]
      simpa using (List.perm_append_singleton (name, v) after).append_left before
  · exact .refl _

/-- The calls with these names, one after the other, each with what it gives back. -/
def calls (s : Symbol) : List String → List (String × Option Value)
  | [] => []
  | name :: names => (name, (s.strip name).1) :: (s.strip name).2.calls names

/-- The fields that the calls take out, in order. -/
def taken (s : Symbol) (names : List String) : Payload :=
  (s.calls names).filterMap fun call => call.2.map (call.1, ·)

theorem taken_cons : s.taken (name :: names) =
    ((s.strip name).1.map (name, ·)).toList ++ (s.strip name).2.taken names := by
  rw [taken, calls, List.filterMap_cons]
  cases (s.strip name).1 <;> rfl

/-- Every call keeps the account, and so does every run of calls. -/
theorem accounts_withoutAll (s : Symbol) (names : List String) :
    s.Accounts (s.taken names) (s.withoutAll names) := by
  induction names generalizing s with
  | nil => exact .refl s
  | cons name names ih =>
    rw [taken_cons]
    exact (s.takesFirst_strip name).accounts.trans (ih (s.strip name).2)

/-- Of a symbol built from a variant, the calls leave some of the declared fields with their values,
in order. The others are those that were taken out, and they are noted in the order of the calls. -/
theorem strips_account_for_fields {v : Variant} {args : List Value} {text : Option String}
    (h : v.construct args text = .ok s) (names : List String) :
    let left := names.foldl (fun t name => (t.strip name).2) s
    left.payload.Sublist (v.fields.zip args) ∧
    (left.payload.map Prod.fst).Sublist v.fields ∧
    (left.payload ++ s.taken names).Perm (v.fields.zip args) ∧
    (left.payload.map Prod.fst ++ left.stripped).Perm v.fields ∧
    left.stripped = (s.taken names).map Prod.fst ∧
    (∀ name, left.TakesFirst name (left.strip name).1 (left.strip name).2) ∧
    left.tag = v.tag ∧ left.shape = v.shape ∧ left.text = text := by
  intro left
  have hs := Variant.of_construct_ok h
  have hnames : (v.fields.zip args).map Prod.fst = v.fields :=
    List.map_fst_zip (Nat.le_of_eq (Variant.length_of_construct_ok h).symm)
  have hleft : s.Accounts (s.taken names) left := s.accounts_withoutAll names
  have hsublist : left.payload.Sublist (v.fields.zip args) := by simpa [hs] using hleft.sublist
  have hperm : (left.payload ++ s.taken names).Perm (v.fields.zip args) := by
    simpa [hs] using hleft.perm
  have hstripped : left.stripped = (s.taken names).map Prod.fst := by
    simpa [hs] using hleft.stripped
  have hvariant : left.variant = v := by rw [hleft.variant, hs]
  refine ⟨hsublist, ?_, hperm, ?_, hstripped, left.takesFirst_strip, ?_, ?_, ?_⟩
  · have hsub := hsublist.map Prod.fst
    rwa [hnames] at hsub
  · have hall := hperm.map Prod.fst
    rwa [hnames, List.map_append, ← hstripped] at hall
  · rw [tag, hvariant]
  · rw [shape, hvariant]
  · rw [hleft.text, hs]

/-- Two fields of one name, and a name that no field has. -/
theorem strips_account_for_repeated_fields :
    let v : Variant := .plain "TRADE" ["card", "for", "card"]
    let args : List Value := [.int 1, .str "clue", .int 2]
    let names := ["card", "token", "card", "card"]
    ∃ s, v.construct args none = .ok s ∧
      let left := names.foldl (fun t name => (t.strip name).2) s
      left.payload = [("for", .str "clue")] ∧ left.stripped = ["card", "card"] ∧
      s.taken names = [("card", .int 1), ("card", .int 2)] ∧
      (left.payload.map Prod.fst ++ left.stripped).Perm v.fields := by
  intro v args names
  have h : v.construct args none = .ok ⟨v, v.fields.zip args, none, []⟩ := rfl
  obtain ⟨-, -, -, hperm, -⟩ := strips_account_for_fields h names
  exact ⟨_, h, rfl, rfl, rfl, hperm⟩

end Symbol

end RulesText
