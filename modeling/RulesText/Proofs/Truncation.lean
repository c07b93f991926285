import RulesText.Proofs.RoundTrip

/-!
Truncation: a reader takes the bytes it has been told of and looks at no others. What it makes of
some bytes it makes of them with more bytes behind, too, and these are left over. So nothing can be
read off an archive that has been cut short: read off the whole, it would leave something over.
-/
namespace RulesText

namespace Bytes

variable {α β : Type} {r r' : Bytes → Option (α × Bytes)}

/-- What the one reads off the front the other reads off the same bytes with more behind them, and
leaves these over. -/
def Extends (r r' : Bytes → Option (α × Bytes)) : Prop :=
  ∀ bs a rest more, r bs = some (a, rest) → r' (bs ++ more) = some (a, rest ++ more)

theorem extends_pure (a : α) : Extends (fun bs => some (a, bs)) fun bs => some (a, bs) := by
  intro bs a' rest more h
  cases h
  rfl

theorem Extends.map (h : Extends r r') (f : α → β) :
    Extends (fun bs => (r bs).map fun (a, rest) => (f a, rest))
      fun bs => (r' bs).map fun (a, rest) => (f a, rest) := by
  intro bs b rest more hb
  obtain ⟨⟨a, rest'⟩, ha, heq⟩ := Option.map_eq_some_iff.mp hb
  obtain ⟨rfl, rfl⟩ := Prod.mk.inj heq
  simp only [h bs a rest' more ha, Option.map_some]

theorem Extends.bind {k k' : α → Bytes → Option (β × Bytes)} (h : Extends r r')
    (hk : ∀ a, Extends (k a) (k' a)) :
    Extends (fun bs => r bs >>= fun (a, rest) => k a rest)
      fun bs => r' bs >>= fun (a, rest) => k' a rest := by
  intro bs b rest more hb
  obtain ⟨⟨a, mid⟩, ha, hb⟩ := Option.bind_eq_some_iff.mp hb
  have hmid := hk a mid b rest more hb
  simp only [h bs a mid more ha, Option.bind_eq_bind, Option.bind_some, hmid]

theorem extends_take? (n : Nat) : Extends (take? n) (take? n) := by
  intro bs front rest more h
  unfold take? at h ⊢
  split at h
  · cases h
  · next hn =>
    obtain ⟨rfl, rfl⟩ := Prod.mk.inj (Option.some.inj h)
    have hle : n ≤ bs.length := Nat.le_of_not_lt hn
    rw [List.length_append, if_neg (by omega), List.take_append_of_le_length hle,
      List.drop_append_of_le_length hle]

end Bytes

namespace Head

open Bytes

theorem extends_sized (width : Nat) (f : Nat → Head) : Extends (sized width f) (sized width f) :=
  (extends_take? width).map fun w => f w.value

/-- The first byte alone tells how much more belongs to the head. -/
theorem extends_read : Extends read read := by
  intro bs head rest more h
  cases bs with
  | nil => cases h
  | cons b bs =>
    rw [List.cons_append]
    unfold read at h ⊢
    simp only at h ⊢
    split_ifs at h ⊢ with h1 h2 h3 h4 h5
    · exact extends_pure _ _ _ _ _ h
    · exact extends_pure _ _ _ _ _ h
    · exact extends_pure _ _ _ _ _ h
    · exact extends_pure _ _ _ _ _ h
    · exact extends_pure _ _ _ _ _ h
    · split at h
      all_goals first
        | exact extends_pure _ _ _ _ _ h
        | exact extends_sized _ _ _ _ _ _ h
        | cases h

end Head

namespace Packed

open Bytes

/-- With at least as much fuel, and more bytes behind, everything is read as before. -/
structure ExtendsWithin (fuel fuel' : Nat) : Prop where
  value : Extends (readWithin fuel) (readWithin fuel')
  items : ∀ n, Extends (readItems fuel n) (readItems fuel' n)
  pairs : ∀ n, Extends (readPairs fuel n) (readPairs fuel' n)

theorem extendsWithin_zero (fuel : Nat) : ExtendsWithin 0 fuel where
  value := by
    intro bs v rest more h
    rw [readWithin] at h
    cases h
  items := by
    intro n
    cases n with
    | zero =>
      intro bs vs rest more h
      rw [readItems] at h ⊢
      exact extends_pure _ _ _ _ _ h
    | succ n =>
      intro bs vs rest more h
      rw [readItems] at h
      cases h
  pairs := by
    intro n
    cases n with
    | zero =>
      intro bs ps rest more h
      rw [readPairs] at h ⊢
      exact extends_pure _ _ _ _ _ h
    | succ n =>
      intro bs ps rest more h
      rw [readPairs] at h
      cases h

variable {fuel fuel' : Nat}

/-- One level: each kind of head asks for what it announced. -/
theorem ExtendsWithin.readWithin (h : ExtendsWithin fuel fuel') :
    Extends (readWithin (fuel + 1)) (readWithin (fuel' + 1)) := by
  intro bs v rest more hv
  rw [Packed.readWithin] at hv ⊢
  cases hhead : Head.read bs with
  | none =>
    rw [hhead] at hv
    cases hv
  | some p =>
    obtain ⟨head, after⟩ := p
    rw [Head.extends_read bs head after more hhead]
    rw [hhead] at hv
    cases head with
    | whole v => exact extends_pure v after _ rest more hv
    | text n => exact (extends_take? n).map Packed.text after _ rest more hv
    | binary n => exact (extends_take? n).map Packed.binary after _ rest more hv
    | extension n => exact (extends_take? n).map (fun _ => Packed.extension) after _ rest more hv
    | array n => exact (h.items n).map Packed.array after _ rest more hv
    | map n => exact (h.pairs n).map Packed.map after _ rest more hv

theorem ExtendsWithin.succ (h : ExtendsWithin fuel fuel') :
    ExtendsWithin (fuel + 1) (fuel' + 1) where
  value := h.readWithin
  items := by
    intro n
    cases n with
    | zero => exact extends_pure []
    | succ n =>
      exact h.value.bind fun v => (h.items n).bind fun vs => extends_pure (v :: vs)
  pairs := by
    intro n
    cases n with
    | zero => exact extends_pure []
    | succ n =>
      exact h.value.bind fun k => h.value.bind fun v => (h.pairs n).bind fun ps =>
        extends_pure ((k, v) :: ps)

theorem extendsWithin (h : fuel ≤ fuel') : ExtendsWithin fuel fuel' := by
  induction fuel generalizing fuel' with
  | zero => exact extendsWithin_zero fuel'
  | succ fuel ih =>
    obtain ⟨fuel', rfl⟩ : ∃ n, fuel' = n + 1 := ⟨fuel' - 1, by omega⟩
    exact (ih (Nat.le_of_succ_le_succ h)).succ

/-- What is read off some bytes is read off them with more bytes behind. -/
theorem extends_read : Extends read read := by
  intro bs v rest more h
  refine (extendsWithin ?_).value bs v rest more h
  rw [List.length_append]
  omega

/-- No value can be read off a part of the bytes that spell one. -/
theorem Spelled.read_of_isPrefix {bs front : Bytes} {v : Packed} (h : Spelled bs v)
    (hp : front <+: bs) (hne : front ≠ bs) : Packed.read front = none := by
  obtain ⟨more, rfl⟩ := hp
  rw [Option.eq_none_iff_forall_ne_some]
  rintro ⟨w, rest⟩ hread
  have hmore := extends_read front w rest more hread
  have hwhole := h.read_append []
  rw [List.append_nil, hmore] at hwhole
  obtain ⟨-, hnil⟩ := Prod.mk.inj (Option.some.inj hwhole)
  rw [(List.append_eq_nil_iff.mp hnil).2, List.append_nil] at hne
  exact hne rfl

end Packed

namespace Archive

/-- An archive that has been cut short anywhere, be it to nothing, is refused. -/
theorem unpack_truncated (a : Archive) (h : a.fits = true) (front : Bytes) (hp : front <+: a.pack)
    (hne : front ≠ a.pack) : Archive.unpack front = fail (.badArchive "not an archive") := by
  rw [unpack, (spelled h).read_of_isPrefix hp hne]
  rfl

/-- Cut to nothing, in the middle, and before the last byte. -/
theorem unpack_truncated_mixed :
    let whole := (mixedArchive 1).pack
    (mixedArchive 1).fits = true ∧ ∀ n ∈ [0, whole.length / 2, whole.length - 1],
      whole.take n ≠ whole ∧
        Archive.unpack (whole.take n) = fail (.badArchive "not an archive") := by
  intro whole
  have hfits : (mixedArchive 1).fits = true := by decide
  have hpos : 0 < whole.length := (spelled hfits).length_pos
  refine ⟨hfits, fun n hn => ?_⟩
  have hlt : n < whole.length := by
    simp only [List.mem_cons, List.not_mem_nil, or_false] at hn
    omega
  have hcut : whole.take n ≠ whole := by
    intro heq
    have hlen := congrArg List.length heq
    rw [List.length_take] at hlen
    omega
  exact ⟨hcut, unpack_truncated _ hfits _ (List.take_prefix n _) hcut⟩

end Archive

end RulesText
