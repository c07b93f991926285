import RulesText.Effect

/-!
What effects do to their state. Work is atomic if a fault leaves what is seen of the state as it
was. It is so whenever all that can fail comes before the first change.
-/
namespace RulesText.Effect

variable {σ ν α β : Type} {I : σ → Prop} {view : σ → ν} {x : Effect σ α} {g : α → Effect σ β}

/-- The work keeps a property of the state, whether it fails or not. -/
def Keeps (I : σ → Prop) (x : Effect σ α) : Prop := ∀ s, I s → I (x.run s).2

/-- The work never changes what is seen of the state. -/
def Quiet (view : σ → ν) (x : Effect σ α) : Prop := ∀ v, Keeps (view · = v) x

/-- The work never fails. -/
def Sure (x : Effect σ α) : Prop := ∀ s, ∃ a s', x.run s = (.ok a, s')

/-- If the work fails, what is seen of the state is as it was. -/
def Atomic (view : σ → ν) (x : Effect σ α) : Prop :=
  ∀ s f s', x.run s = (.error f, s') → view s' = view s

theorem keeps_pure (a : α) : Keeps I (pure a : Effect σ α) := fun _ h => h

theorem keeps_get : Keeps I (get : Effect σ σ) := fun _ h => h

theorem keeps_outcome (o : Outcome α) : Keeps I (liftM o : Effect σ α) := fun _ h => h

theorem keeps_modify {change : σ → σ} (h : ∀ s, I s → I (change s)) :
    Keeps I (modify change : Effect σ PUnit) := h

theorem Keeps.bind (hx : Keeps I x) (hg : ∀ a, Keeps I (g a)) : Keeps I (x >>= g) := by
  intro s hs
  have hstep := hx s hs
  cases hrun : x.run s with
  | mk o s' =>
    rw [hrun] at hstep
    cases o with
    | ok a =>
      rw [run_bind_of_ok hrun]
      exact hg a s' hstep
    | error f =>
      rw [run_bind_of_fault hrun]
      exact hstep

theorem quiet_get : Quiet view (get : Effect σ σ) := fun _ => keeps_get

theorem quiet_outcome (o : Outcome α) : Quiet view (liftM o : Effect σ α) :=
  fun _ => keeps_outcome o

theorem sure_pure (a : α) : Sure (pure a : Effect σ α) := fun s => ⟨a, s, rfl⟩

theorem sure_modify (change : σ → σ) : Sure (modify change : Effect σ PUnit) :=
  fun s => ⟨(), change s, rfl⟩

theorem Sure.bind (hx : Sure x) (hg : ∀ a, Sure (g a)) : Sure (x >>= g) := by
  intro s
  obtain ⟨a, s', hrun⟩ := hx s
  rw [run_bind_of_ok hrun]
  exact hg a s'

theorem Sure.atomic (h : Sure x) : Atomic view x := by
  intro s f s' hfault
  obtain ⟨a, s₁, hok⟩ := h s
  rw [hfault] at hok
  cases hok

/-- Work that changes nothing may come before atomic work. -/
theorem Quiet.bind (hx : Quiet view x) (hg : ∀ a, Atomic view (g a)) : Atomic view (x >>= g) := by
  intro s f s' hfault
  have hview := hx (view s) s rfl
  cases hrun : x.run s with
  | mk o s₁ =>
    rw [hrun] at hview
    cases o with
    | ok a =>
      rw [run_bind_of_ok hrun] at hfault
      exact (hg a s₁ f s' hfault).trans hview
    | error f₁ =>
      rw [run_bind_of_fault hrun] at hfault
      cases hfault
      exact hview

/-- Work that cannot fail may come after atomic work. -/
theorem Atomic.bind (hx : Atomic view x) (hg : ∀ a, Sure (g a)) : Atomic view (x >>= g) := by
  intro s f s' hfault
  cases hrun : x.run s with
  | mk o s₁ =>
    cases o with
    | ok a =>
      obtain ⟨b, s₂, hok⟩ := hg a s₁
      rw [run_bind_of_ok hrun, hok] at hfault
      cases hfault
    | error f₁ =>
      rw [run_bind_of_fault hrun] at hfault
      cases hfault
      exact hx s f s' hrun

end RulesText.Effect
