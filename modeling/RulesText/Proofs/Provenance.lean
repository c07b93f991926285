import RulesText.Proofs.Extension
import RulesText.Proofs.Stability

/-!
Provenance: where the symbols inside a symbol come from. What a rule puts into a symbol it has read
off a fragment of the text, and reading depends on nothing but the normal text. So each symbol
inside is what its own text is read into. Tables that build by hand are covered as far as what they
make up by themselves is known.
-/
namespace RulesText

variable {l : Lexicon} {read read' : TextReader} {groups : Captures} {text fragment : String}
  {s u : Symbol}

theorem Matcher.isInfix_group? {m : Matcher} {i : Nat} (h : m.captures? text = some groups)
    (hgroup : groups.group? i = some fragment) : fragment.toList <:+: text.toList := by
  obtain ⟨gs, -, rfl⟩ := Option.map_eq_some_iff.mp h
  obtain ⟨cs, hcs, rfl⟩ := Option.map_eq_some_iff.mp hgroup
  obtain ⟨span, -, rfl⟩ := Option.map_eq_some_iff.mp hcs
  rw [String.toList_ofList]
  exact (List.take_prefix _ _).isInfix.trans (List.drop_suffix _ _).isInfix

namespace Rule

variable {r : Rule}

theorem isInfix_group? {i : Nat} (h : r.accept? text = some groups)
    (hgroup : groups.group? i = some fragment) : fragment.toList <:+: text.toList :=
  Matcher.isInfix_group? (captures?_of_accept? h) hgroup

/-- A rule that is not built by hand makes the same of a text if its groups are read the same
way. -/
theorem build_le (hcustom : r.custom = none)
    (h : ∀ i fragment, groups.group? i = some fragment → (read fragment).Le (read' fragment)) :
    (r.build read groups text).Le (r.build read' groups text) := by
  classical
  -- A reader that reads the groups and nothing else is below the other one everywhere.
  let only : TextReader := fun fragment =>
    if ∃ i, groups.group? i = some fragment then read fragment else fail (.endless fragment)
  have hbuild : r.build read groups text = r.build only groups text := by
    refine readsOnly_captures hcustom read only groups text fun i _ => ?_
    cases hgroup : groups.group? i with
    | none => rfl
    | some fragment =>
      have hread : ∃ i, groups.group? i = some fragment := ⟨i, hgroup⟩
      simp only [TextReader.value, only, if_pos hread]
  have honly : only.Le read' := by
    intro fragment
    by_cases hgroup : ∃ i, groups.group? i = some fragment
    · obtain ⟨i, hi⟩ := id hgroup
      simp only [only, if_pos hgroup]
      exact h i fragment hi
    · simp only [only, if_neg hgroup]
      exact Outcome.le_fail _ _
  rw [hbuild]
  exact honly.build hcustom groups text

end Rule

namespace Lexicon

/-- No rule is built by hand. -/
def IsPlain (l : Lexicon) : Prop := ∀ r ∈ l.rules, r.custom = none

theorem lexWithin_congr {text' : String} (h : Text.normalize text = Text.normalize text')
    (depth : Nat) : l.lexWithin depth text = l.lexWithin depth text' := by
  cases depth with
  | zero => simp only [lexWithin, h]
  | succ depth => simp only [lexWithin, h]

/-- Reading depends on the normal text only. -/
theorem lex_congr {text' : String} (h : Text.normalize text = Text.normalize text') :
    l.lex text = l.lex text' := by
  rw [lex, lex, h]
  exact lexWithin_congr h _

namespace IsPlain

variable (hl : l.IsPlain)
include hl

/-- If what is passed on is read the same way, so is the text. -/
theorem readWith_le (h : ∀ r groups, l.firstRule? (Text.normalize text) = some (r, groups) →
      ∀ i fragment, groups.group? i = some fragment → (read fragment).Le (read' fragment)) :
    (l.readWith read text).Le (l.readWith read' text) := by
  unfold readWith lexNormal
  split
  · exact .refl _
  · cases hfirst : l.firstRule? (Text.normalize text) with
    | none => exact .refl _
    | some p =>
      obtain ⟨r, groups⟩ := p
      exact Rule.build_le (hl r (firstRule?_eq_some hfirst).1) (h r groups hfirst)

theorem lexWithin_le_succ (depth : Nat) : (l.lexWithin depth).Le (l.lexWithin (depth + 1)) := by
  induction depth with
  | zero => exact fun text => Outcome.le_fail _ _
  | succ depth ih =>
    intro text
    rw [lexWithin_succ, lexWithin_succ]
    exact hl.readWith_le fun _ _ _ _ fragment _ => ih fragment

/-- A text that is read at all is read within the length of its normal form. Deeper readings come
back to a text they have not cut shorter, and such a reading does not end. -/
theorem lexWithin_of_ok {depth depth' : Nat} {x : Option Symbol}
    (h : l.lexWithin depth text = .ok x) (hd : (Text.normalize text).length < depth') :
    l.lexWithin depth' text = .ok x := by
  induction depth generalizing text depth' x with
  | zero => cases h
  | succ depth ih =>
    by_cases hless : ∃ y, l.lexWithin depth text = .ok y
    · obtain ⟨y, hy⟩ := hless
      obtain rfl : y = x := by
        rw [hl.lexWithin_le_succ depth text y hy] at h
        exact Except.ok.inj h
      exact ih hy hd
    · obtain ⟨depth', rfl⟩ : ∃ d, depth' = d + 1 := ⟨depth' - 1, by omega⟩
      rw [lexWithin_succ] at h ⊢
      refine hl.readWith_le (fun r groups hfirst i fragment hgroup y hy => ?_) x h
      have hpart := Text.isInfix_normalize
        (Rule.isInfix_group? (firstRule?_eq_some hfirst).2 hgroup)
      refine ih hy (Nat.lt_of_lt_of_le ?_ (Nat.le_of_lt_succ hd))
      rw [← String.length_toList, ← String.length_toList]
      refine Nat.lt_of_le_of_ne hpart.length_le fun hlen => hless ⟨y, ?_⟩
      -- A fragment of full length is the whole text again, which was not read at this depth.
      have hsame : Text.normalize text = Text.normalize fragment :=
        String.toList_inj.mp (hpart.eq_of_length hlen).symm
      rw [lexWithin_congr hsame, hy]

theorem lexWithin_le_lex (depth : Nat) : (l.lexWithin depth).Le l.lex := fun text _ h =>
  hl.lexWithin_of_ok h (Nat.lt_add_of_pos_right (by decide : 0 < spareDepth))

/-- A text that is read is what the table makes of it when it reads its own fragments. -/
theorem readWith_of_lex {x : Option Symbol} (h : l.lex text = .ok x) :
    l.readWith l.lex text = .ok x := by
  have hdepth : (Text.normalize text).length + spareDepth =
      (Text.normalize text).length + (spareDepth - 1) + 1 := by
    have : 0 < spareDepth := by decide
    omega
  rw [lex, hdepth, lexWithin_succ] at h
  exact hl.readWith_le (fun _ _ _ _ fragment _ => hl.lexWithin_le_lex _ fragment) x h

end IsPlain

end Lexicon

/-- What a captured group becomes: a leaf, or the symbol it is read into. -/
theorem TextReader.captured_cases {c : Capture} {v : Value} (h : read.captured groups c = .ok v) :
    v.IsLeaf ∨ ∃ i fragment u, c = .lex i ∧ groups.group? i = some fragment ∧
      read fragment = .ok (some u) ∧ v = .symbol u := by
  cases c with
  | text i =>
    obtain rfl := Except.ok.inj h
    left
    cases groups.group? i with
    | none => exact ⟨rfl, rfl⟩
    | some g =>
      simp only [Option.map_some, Option.getD_some, Value.ofText]
      cases numeral? (Text.trim g) <;> exact ⟨rfl, rfl⟩
  | lex i =>
    simp only [captured] at h
    cases hgroup : groups.group? i with
    | none =>
      rw [hgroup] at h
      obtain rfl := Except.ok.inj h
      exact .inl ⟨rfl, rfl⟩
    | some fragment =>
      simp only [hgroup, TextReader.value] at h
      split at h
      · obtain rfl := Except.ok.inj h
        exact .inl ⟨rfl, rfl⟩
      · cases hread : read fragment with
        | error e =>
          rw [hread] at h
          cases h
        | ok o =>
          rw [hread] at h
          obtain rfl := Except.ok.inj h
          cases o with
          | none => exact .inl ⟨rfl, rfl⟩
          | some u => exact .inr ⟨i, fragment, u, rfl, hgroup, hread, rfl⟩

theorem Outcome.of_inFrame_ok {α : Type} {o : Outcome α} {frame : String} {a : α}
    (h : o.inFrame frame = .ok a) : o = .ok a := by
  cases o with
  | error e => cases h
  | ok b => exact h

theorem Outcome.of_mapM_ok {α β : Type} {f : α → Outcome β} {xs : List α} {ys : List β}
    (h : xs.mapM f = .ok ys) {k : Nat} {y : β} (hy : ys[k]? = some y) :
    ∃ x, xs[k]? = some x ∧ f x = .ok y := by
  induction xs generalizing ys k with
  | nil =>
    obtain rfl := Except.ok.inj h
    cases hy
  | cons x xs ih =>
    rw [List.mapM_cons] at h
    obtain ⟨z, hz, h⟩ := of_bind_ok h
    obtain ⟨zs, hzs, h⟩ := of_bind_ok h
    obtain rfl := Except.ok.inj h
    cases k with
    | zero =>
      obtain rfl := Option.some.inj hy
      exact ⟨x, rfl, hz⟩
    | succ k => exact ih hzs hy

/-- The fields of a constructed symbol hold the values it was given. -/
theorem Variant.inner?_construct {v : Variant} {args : List Value} {t : Option String}
    (h : v.construct args t = .ok s) {k : Nat} {w : Value}
    (hw : (Value.symbol s).inner? k = some w) : args[k]? = some w := by
  obtain rfl := of_construct_ok h
  obtain ⟨name, hk⟩ := Value.inner?_symbol.mp hw
  exact (List.getElem?_zip_eq_some.mp hk).2

namespace Rule

variable {r : Rule}

/-- A rule that is not built by hand puts its captures into its symbol, in order. -/
theorem of_build_ok (hcustom : r.custom = none)
    (h : r.build read groups text = .ok (some s)) :
    s.variant = r.variant ∧ s.text = some text ∧
      ∀ k w, (Value.symbol s).inner? k = some w →
        ∃ c, r.captures[k]? = some c ∧ read.captured groups c = .ok w := by
  simp only [build, hcustom] at h
  obtain ⟨args, hargs, h⟩ := Outcome.of_bind_ok h
  obtain ⟨s', hs, h⟩ := Outcome.of_map_ok h
  obtain rfl := Option.some.inj h
  refine ⟨?_, ?_, fun k w hw => ?_⟩
  · rw [Variant.of_construct_ok hs]
  · rw [Variant.of_construct_ok hs]
  · exact Outcome.of_mapM_ok (Outcome.of_inFrame_ok hargs) (Variant.inner?_construct hs hw)

end Rule

/-- A symbol that says what it was read from. Its fields hold leaves, symbols that pieces of that
text are read into, and symbols that are made up. -/
structure Symbol.IsTraced (made : Symbol → Prop) (read : TextReader) (t : String) (s : Symbol) :
    Prop where
  text : s.text = some t
  fields : ∀ k w, (Value.symbol s).inner? k = some w → w.IsLeaf ∨ ∃ u, w = .symbol u ∧
    (made u ∨ ∃ fragment, fragment.toList <:+: t.toList ∧ read fragment = .ok (some u))

namespace Rule

variable {r : Rule}

theorem traced_of_captured {c : Capture} {v : Value} (haccept : r.accept? text = some groups)
    (h : read.captured groups c = .ok v) :
    v.IsLeaf ∨ ∃ u, v = .symbol u ∧
      ∃ fragment, fragment.toList <:+: text.toList ∧ read fragment = .ok (some u) := by
  rcases TextReader.captured_cases h with hleaf | ⟨i, fragment, u, -, hgroup, hread, rfl⟩
  · exact .inl hleaf
  · exact .inr ⟨u, rfl, fragment, isInfix_group? haccept hgroup, hread⟩

theorem isTraced {made : Symbol → Prop} (hcustom : r.custom = none)
    (haccept : r.accept? text = some groups) (h : r.build read groups text = .ok (some s)) :
    s.IsTraced made read text := by
  obtain ⟨-, htext, hfields⟩ := of_build_ok hcustom h
  refine ⟨htext, fun k w hw => ?_⟩
  obtain ⟨c, -, hc⟩ := hfields k w hw
  exact (traced_of_captured haccept hc).imp_right fun ⟨u, hu, hread⟩ => ⟨u, hu, .inr hread⟩

end Rule

namespace Lexicon

/-- A symbol is built by the first rule that accepts the normal text, or it is the fallback. -/
theorem of_readWith_ok (h : l.readWith read text = .ok (some s)) :
    Text.normalize text ≠ "" ∧
      ((∃ r groups, l.firstRule? (Text.normalize text) = some (r, groups) ∧
        r.build read groups (Text.normalize text) = .ok (some s)) ∨
      ∃ v, l.fallback = some v ∧ v.terminal (some (Text.normalize text)) = .ok s) := by
  unfold readWith at h
  split at h
  · cases h
  · next hempty =>
    refine ⟨fun he => hempty (by rw [he]; rfl), ?_⟩
    unfold lexNormal at h
    split at h
    · next r groups hfirst => exact .inl ⟨r, groups, hfirst, h⟩
    · split at h
      · next v hv =>
        obtain ⟨s', hs, h⟩ := Outcome.of_map_ok h
        obtain rfl := Option.some.inj h
        exact .inr ⟨v, hv, hs⟩
      · cases h

/-- A table that reads what its rules pass on, and whose rules build traced symbols. What they make
up has nothing inside. -/
structure Traces (made : Symbol → Prop) (l : Lexicon) : Prop where
  rereads : ∀ text s, l.lex text = .ok (some s) → l.readWith l.lex text = .ok (some s)
  rules : ∀ r ∈ l.rules, ∀ text groups s, r.accept? text = some groups →
    r.build l.lex groups text = .ok (some s) → s.IsTraced made l.lex text
  made : ∀ u, made u → u.payload = []

theorem IsPlain.traces (hl : l.IsPlain) : l.Traces fun _ => False where
  rereads := fun _ _ h => hl.readWith_of_lex h
  rules := fun r hr _ _ _ haccept h => Rule.isTraced (hl r hr) haccept h
  made := fun _ h => h.elim

namespace Traces

variable {made : Symbol → Prop} (ht : l.Traces made)
include ht

theorem lex (h : l.lex text = .ok (some s)) :
    Text.normalize text ≠ "" ∧ s.IsTraced made l.lex (Text.normalize text) := by
  obtain ⟨hne, ⟨r, groups, hfirst, hbuild⟩ | ⟨v, -, hs⟩⟩ := of_readWith_ok (ht.rereads text s h)
  · obtain ⟨hr, haccept⟩ := firstRule?_eq_some hfirst
    exact ⟨hne, ht.rules r hr _ groups s haccept hbuild⟩
  · refine ⟨hne, by rw [Variant.of_construct_ok hs], fun k w hw => ?_⟩
    cases Variant.inner?_construct hs hw

/-- Whatever stands inside was made up or read off a piece of the text. -/
theorem inside {way : List Nat} (h : l.lex text = .ok (some s))
    (hu : (Value.symbol s).inside? way = some (.symbol u)) :
    made u ∨ ∃ fragment, (Text.normalize fragment).toList <:+: (Text.normalize text).toList ∧
      l.lex fragment = .ok (some u) := by
  induction way generalizing text s with
  | nil =>
    obtain rfl := Value.symbol.inj (Option.some.inj hu)
    exact .inr ⟨text, List.infix_refl _, h⟩
  | cons k way ih =>
    obtain ⟨w, hw, hu⟩ := Value.inside?_cons.mp hu
    rcases (ht.lex h).2.fields k w hw with hleaf | ⟨v, rfl, hmade | ⟨fragment, hpart, hread⟩⟩
    · exact absurd hu (hleaf.inside?_ne way)
    · cases way with
      | nil =>
        obtain rfl := Value.symbol.inj (Option.some.inj hu)
        exact .inl hmade
      | cons k' way =>
        obtain ⟨w, hw, -⟩ := Value.inside?_cons.mp hu
        obtain ⟨name, hk⟩ := Value.inner?_symbol.mp hw
        rw [ht.made v hmade] at hk
        cases hk
    · have hpart := Text.isInfix_normalize hpart
      refine (ih hread hu).imp_right fun ⟨piece, hpiece, hlex⟩ => ⟨piece, hpiece.trans hpart, hlex⟩

end Traces

/-- Every symbol inside what a table without constructors reads is explained by its own text: it is
what that text is read into. Texts of symbols inside others are pieces of theirs. -/
theorem lex_explains_inside (l : Lexicon) (hcustom : ∀ r ∈ l.rules, r.custom = none) (text : String)
    (s : Symbol) (h : l.lex text = .ok (some s)) :
    s.text = some (Text.normalize text) ∧
    ∀ way u, (Value.symbol s).inside? way = some (.symbol u) →
      ∃ t, u.text = some t ∧ t ≠ "" ∧ l.lex t = .ok (some u) ∧
        ∀ inner w, (Value.symbol u).inside? inner = some (.symbol w) →
          ∃ t', w.text = some t' ∧ t'.toList <:+: t.toList := by
  have ht := IsPlain.traces hcustom
  refine ⟨(ht.lex h).2.text, fun way u hu => ?_⟩
  obtain hnone | ⟨fragment, -, hlex⟩ := ht.inside h hu
  · exact hnone.elim
  obtain ⟨hne, htraced⟩ := ht.lex hlex
  refine ⟨Text.normalize fragment, htraced.text, hne, ?_, fun inner w hw => ?_⟩
  · have hsame : l.lex (Text.normalize fragment) = l.lex fragment :=
      lex_congr (Text.normalize_normalize fragment)
    exact hsame.trans hlex
  · obtain hnone | ⟨piece, hpart, hpiece⟩ := ht.inside hlex hw
    · exact hnone.elim
    · exact ⟨_, (ht.lex hpiece).2.text, hpart⟩

/-- The skill at the bottom of a clause is what its one word is read into. -/
theorem lex_explains_skill :
    let l : Lexicon :=
      ⟨[Cards.gainRule, Cards.quantityRule, Cards.skillRule, Cards.currInvestigatorRule], none⟩
    ∃ clause skill, l.lex " You GAIN 2 combat. " = .ok (some clause) ∧
      (Value.symbol clause).inside? [1, 1] = some (.symbol skill) ∧
      clause.text = some "you gain 2 combat." ∧ skill.text = some "combat" ∧
      l.lex "combat" = .ok (some skill) := by
  intro l
  have hcustom : ∀ r ∈ l.rules, r.custom = none := by decide
  let skill : Symbol := ⟨Cards.skill, [("skill", .str "combat")], some "combat", []⟩
  let amount : Symbol :=
    ⟨Cards.quantity, [("num", .int 2), ("type", .symbol skill)], some "2 combat", []⟩
  let subject : Symbol := ⟨Cards.currInvestigator, [], some "you", []⟩
  let clause : Symbol :=
    ⟨Cards.gain, [("subject", .symbol subject), ("resource", .symbol amount)],
      some "you gain 2 combat.", []⟩
  have hlex : l.lex " You GAIN 2 combat. " = .ok (some clause) := by decide +kernel
  obtain ⟨-, hinside⟩ := lex_explains_inside l hcustom _ clause hlex
  obtain ⟨t, ht, -, hagain, -⟩ := hinside [1, 1] skill rfl
  obtain rfl := Option.some.inj ht
  exact ⟨clause, skill, hlex, rfl, rfl, rfl, hagain⟩

end Lexicon

end RulesText
