import RulesText.Proofs.Failure
import RulesText.Proofs.Provenance

/-!
Fault paths: where a text cannot be read. A fault arises at a fragment that no rule accepts, or
where a symbol is given the wrong number of values. It passes through the rules that led to the
fragment, and each of them leaves its tag. Only a rule that passes on the very text it accepts is
read without end.
-/
namespace RulesText

namespace Outcome

variable {α β : Type} {f : α → Outcome β} {xs : List α} {ys : List β} {e : Fault}

theorem mapM_eq_ok (h : xs.mapM f = .ok ys) :
    ys.length = xs.length ∧ ∀ x ∈ xs, ∃ y, f x = .ok y := by
  induction xs generalizing ys with
  | nil =>
    obtain rfl := Except.ok.inj h
    exact ⟨rfl, fun x hx => absurd hx List.not_mem_nil⟩
  | cons x xs ih =>
    rw [List.mapM_cons] at h
    obtain ⟨y, hy, h⟩ := of_bind_ok h
    obtain ⟨ys', hys, h⟩ := of_bind_ok h
    obtain rfl := Except.ok.inj h
    obtain ⟨hlength, hall⟩ := ih hys
    exact ⟨congrArg (· + 1) hlength, List.forall_mem_cons.mpr ⟨⟨y, hy⟩, hall⟩⟩

theorem bind_error {o : Outcome α} (h : o = .error e) (f : α → Outcome β) :
    o >>= f = .error e := by
  rw [h]
  rfl

theorem map_eq_error_iff {o : Outcome α} {g : α → β} : g <$> o = .error e ↔ o = .error e := by
  cases o with
  | error e' =>
    constructor
    · exact fun h => congrArg Except.error (Except.error.inj h)
    · exact fun h => congrArg Except.error (Except.error.inj h)
  | ok x => exact iff_of_false (fun h => nomatch h) fun h => nomatch h

/-- The fault of a list is that of its first element with one. -/
theorem mapM_eq_error_iff : xs.mapM f = .error e ↔ ∃ before x after, xs = before ++ x :: after ∧
    (∀ y ∈ before, ∃ z, f y = .ok z) ∧ f x = .error e := by
  constructor
  · intro h
    induction xs with
    | nil => cases h
    | cons x xs ih =>
      rw [List.mapM_cons] at h
      cases hx : f x with
      | error e' =>
        obtain rfl := Except.error.inj ((bind_error hx _).symm.trans h)
        exact ⟨[], x, xs, rfl, fun y hy => absurd hy List.not_mem_nil, hx⟩
      | ok y =>
        rw [bind_ok hx] at h
        cases hxs : xs.mapM f with
        | ok ys =>
          rw [bind_ok hxs] at h
          cases h
        | error e' =>
          obtain rfl := Except.error.inj ((bind_error hxs _).symm.trans h)
          obtain ⟨before, x', after, rfl, hbefore, hx'⟩ := ih hxs
          exact ⟨x :: before, x', after, rfl, List.forall_mem_cons.mpr ⟨⟨y, hx⟩, hbefore⟩, hx'⟩
  · rintro ⟨before, x, after, rfl, hbefore, hx⟩
    induction before with
    | nil => exact List.mapM_cons.trans (bind_error hx _)
    | cons y before ih =>
      obtain ⟨⟨z, hz⟩, hbefore⟩ := List.forall_mem_cons.mp hbefore
      rw [List.cons_append, List.mapM_cons, bind_ok hz]
      exact bind_error (ih hbefore) _

end Outcome

theorem Fault.through_inj {c c' : Cause} {stack stack' : List String} :
    through c stack = through c' stack' ↔ c = c' ∧ stack = stack' := by
  cases stack <;> cases stack' <;> simp [through]

variable {l : Lexicon} {read read' : TextReader} {groups : Captures} {text fragment t : String}
  {f : Fault} {r : Rule} {cause : Cause}

theorem Variant.construct_eq_error_iff {v : Variant} {args : List Value} {o : Option String} :
    v.construct args o = .error f ↔ args.length ≠ v.fields.length ∧
      f = .through (.arity v.tag v.fields.length args.length) [] := by
  unfold construct
  split
  · next hcount => exact iff_of_false (fun h => nomatch h) fun h => h.1 hcount
  · next hcount =>
    constructor
    · exact fun h => ⟨hcount, (Except.error.inj h).symm⟩
    · rintro ⟨-, rfl⟩
      rfl

namespace TextReader

theorem captured_lex {i : Nat} (hgroup : groups.group? i = some fragment) :
    read.captured groups (.lex i) = read.value (some fragment) := by
  rw [captured, hgroup]

theorem of_captured_error {c : Capture} (h : read.captured groups c = .error f) :
    ∃ i fragment, c = .lex i ∧ groups.group? i = some fragment ∧
      read.value (some fragment) = .error f := by
  cases c with
  | text i => cases h
  | lex i =>
    cases hgroup : groups.group? i with
    | none =>
      rw [captured, hgroup] at h
      cases h
    | some fragment => exact ⟨i, fragment, rfl, hgroup, (captured_lex hgroup).symm.trans h⟩

/-- A numeral needs no reader, and so a fragment that cannot be read is none. -/
theorem of_value_error (h : read.value (some fragment) = .error f) :
    read fragment = .error f ∧
      ∀ read' : TextReader, read'.value (some fragment) = (read' fragment).map Value.ofSymbol? := by
  unfold value at h ⊢
  simp only at h ⊢
  split at h
  · cases h
  · refine ⟨?_, fun read' => rfl⟩
    cases hread : read fragment with
    | error e =>
      rw [hread] at h
      exact congrArg Except.error (Except.error.inj h)
    | ok x =>
      rw [hread] at h
      cases h

end TextReader

namespace Rule

/-- All that a rule captures can be read. -/
def ReadsAll (r : Rule) (read : TextReader) (groups : Captures) : Prop :=
  ∀ c ∈ r.captures, ∃ v, read.captured groups c = .ok v

/-- The first capture of a rule, in order, that cannot be read. -/
def FailsAt (r : Rule) (read : TextReader) (groups : Captures) (fragment : String) (f : Fault) :
    Prop :=
  ∃ before i after, r.captures = before ++ .lex i :: after ∧
    (∀ c ∈ before, ∃ v, read.captured groups c = .ok v) ∧ groups.group? i = some fragment ∧
      read.value (some fragment) = .error f

theorem FailsAt.mapM_captures (h : r.FailsAt read groups fragment f) :
    r.captures.mapM (read.captured groups) = .error f := by
  obtain ⟨before, i, after, hcaptures, hbefore, hgroup, hvalue⟩ := h
  exact Outcome.mapM_eq_error_iff.mpr ⟨before, .lex i, after, hcaptures, hbefore,
    (TextReader.captured_lex hgroup).trans hvalue⟩

theorem failsAt_of_mapM_captures (h : r.captures.mapM (read.captured groups) = .error f) :
    ∃ fragment, r.FailsAt read groups fragment f := by
  obtain ⟨before, c, after, hcaptures, hbefore, hc⟩ := Outcome.mapM_eq_error_iff.mp h
  obtain ⟨i, fragment, rfl, hgroup, hvalue⟩ := TextReader.of_captured_error hc
  exact ⟨fragment, before, i, after, hcaptures, hbefore, hgroup, hvalue⟩

theorem FailsAt.find?_captures (h : r.FailsAt read groups fragment f) :
    ∃ i, r.captures.find? (fun c => !(read.captured groups c).isOk) = some (.lex i) ∧
      groups.group? i = some fragment := by
  obtain ⟨before, i, after, hcaptures, hbefore, hgroup, hvalue⟩ := h
  refine ⟨i, List.find?_eq_some_iff_append.mpr ⟨?_, before, after, hcaptures, ?_⟩, hgroup⟩
  · rw [TextReader.captured_lex hgroup, hvalue]
    rfl
  · intro c hc
    obtain ⟨v, hv⟩ := hbefore c hc
    rw [hv]
    rfl

theorem FailsAt.not_readsAll (h : r.FailsAt read groups fragment f) :
    ¬ r.ReadsAll read groups := by
  obtain ⟨i, hfind, -⟩ := h.find?_captures
  intro hall
  obtain ⟨v, hv⟩ := hall (.lex i) (List.mem_of_find?_eq_some hfind)
  have hfails := List.find?_some hfind
  rw [hv] at hfails
  cases hfails

theorem FailsAt.fragment_eq {fragment' : String} {f' : Fault}
    (h : r.FailsAt read groups fragment f) (h' : r.FailsAt read groups fragment' f') :
    fragment = fragment' := by
  obtain ⟨i, hi, hgroup⟩ := h.find?_captures
  obtain ⟨i', hi', hgroup'⟩ := h'.find?_captures
  cases hi.symm.trans hi'
  exact Option.some.inj (hgroup.symm.trans hgroup')

/-- The captures are read in order, and counted once all of them are. -/
theorem build_eq_error_iff (hcustom : r.custom = none) : r.build read groups text = .error f ↔
    (r.ReadsAll read groups ∧ r.captures.length ≠ r.variant.fields.length ∧
      f = .through (.arity r.variant.tag r.variant.fields.length r.captures.length) []) ∨
    ∃ fragment f', r.FailsAt read groups fragment f' ∧ f = f'.inFrame r.variant.tag := by
  simp only [build, hcustom]
  cases hargs : r.captures.mapM (read.captured groups) with
  | ok args =>
    obtain ⟨hlength, hall⟩ := Outcome.mapM_eq_ok hargs
    have hnone : ¬ ∃ fragment f', r.FailsAt read groups fragment f' ∧
        f = f'.inFrame r.variant.tag := by
      rintro ⟨fragment, f', hfails, -⟩
      cases hargs.symm.trans hfails.mapM_captures
    have hbuild : (do
        let args ← Outcome.inFrame (.ok args) r.variant.tag
        some <$> r.variant.construct args (some text)) =
          some <$> r.variant.construct args (some text) := rfl
    rw [hbuild, Outcome.map_eq_error_iff, Variant.construct_eq_error_iff, hlength,
      or_iff_left hnone]
    exact (and_iff_right hall).symm
  | error e =>
    obtain ⟨fragment, hfails⟩ := failsAt_of_mapM_captures hargs
    constructor
    · intro h
      exact .inr ⟨fragment, e, hfails, (Except.error.inj h).symm⟩
    · rintro (⟨hall, -⟩ | ⟨fragment', f', hfails', rfl⟩)
      · exact absurd hall hfails.not_readsAll
      · obtain rfl := Except.error.inj (hargs.symm.trans hfails'.mapM_captures)
        rfl

theorem ReadsAll.mono (h : r.ReadsAll read groups) (hle : read.Le read') :
    r.ReadsAll read' groups := fun c hc =>
  (h c hc).imp fun v hv => hle.captured groups c v hv

/-- A better reader that cannot read the fragment either fails there, too. -/
theorem FailsAt.mono {f' : Fault} (h : r.FailsAt read groups fragment f) (hle : read.Le read')
    (hread : read' fragment = .error f') : r.FailsAt read' groups fragment f' := by
  obtain ⟨before, i, after, hcaptures, hbefore, hgroup, hvalue⟩ := h
  refine ⟨before, i, after, hcaptures, ?_, hgroup, ?_⟩
  · exact fun c hc => (hbefore c hc).imp fun v hv => hle.captured groups c v hv
  · rw [(TextReader.of_value_error hvalue).2, hread]
    rfl

theorem FailsAt.isInfix (h : r.FailsAt read groups fragment f)
    (haccept : r.accept? text = some groups) : fragment.toList <:+: text.toList := by
  obtain ⟨-, i, -, -, -, hgroup, -⟩ := h
  exact isInfix_group? haccept hgroup

theorem FailsAt.read_eq (h : r.FailsAt read groups fragment f) : read fragment = .error f := by
  obtain ⟨-, i, -, -, -, -, hvalue⟩ := h
  exact (TextReader.of_value_error hvalue).1

end Rule

namespace Lexicon

/-- A normal text whose reading stops with a cause of its own: no rule accepts it, or the symbol is
given a wrong number of values. -/
inductive Stops (l : Lexicon) (read : TextReader) (t : String) : Cause → Prop where
  | unrecognized (hrule : l.firstRule? t = none) (hfallback : l.fallback = none) :
      Stops l read t (.unrecognized t)
  | count {r : Rule} {groups : Captures} (hrule : l.firstRule? t = some (r, groups))
      (hall : r.ReadsAll read groups) (hcount : r.captures.length ≠ r.variant.fields.length) :
      Stops l read t (.arity r.variant.tag r.variant.fields.length r.captures.length)
  | fallback {v : Variant} (hrule : l.firstRule? t = none) (hfallback : l.fallback = some v)
      (hfields : v.fields ≠ []) :
      Stops l read t (.arity v.tag v.fields.length 0)

/-- The first rule that accepts a normal text fails at a fragment of it. -/
def FailsIn (l : Lexicon) (read : TextReader) (t : String) (r : Rule) (fragment : String)
    (f : Fault) : Prop :=
  ∃ groups, l.firstRule? t = some (r, groups) ∧ r.FailsAt read groups fragment f

/-- From a normal text through the rules that fail, from the outermost to the innermost, to a normal
text inside. -/
inductive Path (l : Lexicon) : String → List Rule → String → Prop where
  | here {t : String} : Path l t [] t
  | inside {t fragment last : String} {r : Rule} {rules : List Rule} {f : Fault}
      (hfails : l.FailsIn l.lex t r fragment f)
      (hrest : Path l (Text.normalize fragment) rules last) : Path l t (r :: rules) last

/-- The rule fails at a fragment that is its own text again. -/
def Circles (l : Lexicon) (t : String) : Prop :=
  ∃ r fragment f, l.FailsIn l.lex t r fragment f ∧ Text.normalize fragment = t

theorem Stops.mono (h : l.Stops read t cause) (hle : read.Le read') : l.Stops read' t cause := by
  cases h with
  | unrecognized hrule hfallback => exact .unrecognized hrule hfallback
  | count hrule hall hcount => exact .count hrule (hall.mono hle) hcount
  | fallback hrule hfallback hfields => exact .fallback hrule hfallback hfields

theorem stops_iff_of_rule (hrule : l.firstRule? t = some (r, groups)) : l.Stops read t cause ↔
    r.ReadsAll read groups ∧ r.captures.length ≠ r.variant.fields.length ∧
      cause = .arity r.variant.tag r.variant.fields.length r.captures.length := by
  constructor
  · intro h
    cases h with
    | unrecognized hnone | fallback hnone => cases hrule.symm.trans hnone
    | count hrule' hall hcount =>
      cases hrule.symm.trans hrule'
      exact ⟨hall, hcount, rfl⟩
  · rintro ⟨hall, hcount, rfl⟩
    exact .count hrule hall hcount

theorem stops_iff_of_none (hrule : l.firstRule? t = none) : l.Stops read t cause ↔
    match l.fallback with
    | none => cause = .unrecognized t
    | some v => v.fields ≠ [] ∧ cause = .arity v.tag v.fields.length 0 := by
  constructor
  · intro h
    cases h with
    | unrecognized hnone hfallback => rw [hfallback]
    | fallback hnone hfallback hfields =>
      rw [hfallback]
      exact ⟨hfields, rfl⟩
    | count hrule' hall hcount => cases hrule.symm.trans hrule'
  · intro h
    split at h
    · next hfallback => exact h ▸ .unrecognized hrule hfallback
    · next hfallback => exact h.2 ▸ .fallback hrule hfallback h.1

/-- A cause arises at the text itself or comes from a fragment of it. -/
theorem IsPlain.lexNormal_eq_error_iff (hl : l.IsPlain) : l.lexNormal read t = .error f ↔
    (∃ cause, l.Stops read t cause ∧ f = .through cause []) ∨
      ∃ r fragment f', l.FailsIn read t r fragment f' ∧ f = f'.inFrame r.variant.tag := by
  rw [lexNormal]
  cases hrule : l.firstRule? t with
  | some p =>
    obtain ⟨r, groups⟩ := p
    simp only [Rule.build_eq_error_iff (hl r (firstRule?_eq_some hrule).1), stops_iff_of_rule hrule]
    constructor
    · rintro (⟨hall, hcount, rfl⟩ | ⟨fragment, f', hfails, rfl⟩)
      · exact .inl ⟨_, ⟨hall, hcount, rfl⟩, rfl⟩
      · exact .inr ⟨r, fragment, f', ⟨groups, hrule, hfails⟩, rfl⟩
    · rintro (⟨_, ⟨hall, hcount, rfl⟩, rfl⟩ | ⟨r', fragment, f', ⟨groups', hrule', hfails⟩, rfl⟩)
      · exact .inl ⟨hall, hcount, rfl⟩
      · cases hrule.symm.trans hrule'
        exact .inr ⟨fragment, f', hfails, rfl⟩
  | none =>
    have hnone : ¬ ∃ r fragment f', l.FailsIn read t r fragment f' ∧
        f = f'.inFrame r.variant.tag := by
      rintro ⟨r, fragment, f', ⟨groups, hrule', -⟩, -⟩
      cases hrule.symm.trans hrule'
    simp only [or_iff_left hnone, stops_iff_of_none hrule]
    cases l.fallback with
    | none =>
      constructor
      · exact fun h => ⟨_, rfl, (Except.error.inj h).symm⟩
      · rintro ⟨_, rfl, rfl⟩
        rfl
    | some v =>
      simp only [Outcome.map_eq_error_iff, Variant.terminal, Variant.construct_eq_error_iff,
        List.length_nil]
      constructor
      · rintro ⟨hfields, rfl⟩
        exact ⟨_, ⟨fun h => hfields (by rw [h]; rfl), rfl⟩, rfl⟩
      · rintro ⟨_, ⟨hfields, rfl⟩, rfl⟩
        exact ⟨fun h => hfields (List.length_eq_zero_iff.mp h.symm), rfl⟩

theorem IsPlain.readWith_eq_error_iff (hl : l.IsPlain) : l.readWith read text = .error f ↔
    Text.normalize text ≠ "" ∧
      ((∃ cause, l.Stops read (Text.normalize text) cause ∧ f = .through cause []) ∨
      ∃ r fragment f', l.FailsIn read (Text.normalize text) r fragment f' ∧
        f = f'.inFrame r.variant.tag) := by
  by_cases hempty : Text.normalize text = ""
  · rw [readWith, if_pos (by rw [hempty]; rfl)]
    exact iff_of_false (fun h => nomatch h) fun h => h.1 hempty
  · rw [readWith, if_neg (by simpa using hempty), and_iff_right hempty, hl.lexNormal_eq_error_iff]

theorem FailsIn.mono {f' : Fault} (h : l.FailsIn read t r fragment f) (hle : read.Le read')
    (hread : read' fragment = .error f') : l.FailsIn read' t r fragment f' := by
  obtain ⟨groups, hrule, hfails⟩ := h
  exact ⟨groups, hrule, hfails.mono hle hread⟩

theorem FailsIn.read_eq (h : l.FailsIn read t r fragment f) : read fragment = .error f := by
  obtain ⟨groups, -, hfails⟩ := h
  exact hfails.read_eq

theorem FailsIn.fragment_eq {r' : Rule} {fragment' : String} {f' : Fault}
    (h : l.FailsIn read t r fragment f) (h' : l.FailsIn read t r' fragment' f') :
    fragment = fragment' := by
  obtain ⟨groups, hrule, hfails⟩ := h
  obtain ⟨groups', hrule', hfails'⟩ := h'
  cases hrule.symm.trans hrule'
  exact hfails.fragment_eq hfails'

theorem FailsIn.not_stops (h : l.FailsIn read t r fragment f) : ¬ l.Stops read t cause := by
  obtain ⟨groups, hrule, hfails⟩ := h
  exact fun hstops => hfails.not_readsAll ((stops_iff_of_rule hrule).mp hstops).1

/-- A fragment that is not the whole text again is shorter. -/
theorem FailsIn.length_lt (h : l.FailsIn read (Text.normalize text) r fragment f)
    (hne : Text.normalize fragment ≠ Text.normalize text) :
    (Text.normalize fragment).length < (Text.normalize text).length := by
  obtain ⟨groups, hrule, hfails⟩ := h
  have hpart := Text.isInfix_normalize (hfails.isInfix (firstRule?_eq_some hrule).2)
  rw [← String.length_toList, ← String.length_toList]
  refine Nat.lt_of_le_of_ne hpart.length_le fun hlength => hne ?_
  exact String.toList_inj.mp (hpart.eq_of_length hlength)

/-- A fault that stops at the end of a path and has the tags of its rules, the innermost first. -/
def StopsAlong (l : Lexicon) (t : String) (f : Fault) : Prop :=
  ∃ rules last cause, l.Path t rules last ∧ l.Stops l.lex last cause ∧
    f = .through cause (rules.map (·.variant.tag)).reverse

/-- A path that leads to a text which is passed on to itself. -/
def CirclesAlong (l : Lexicon) (t : String) : Prop :=
  ∃ rules last, l.Path t rules last ∧ l.Circles last

theorem StopsAlong.inside {f' : Fault} (hfails : l.FailsIn l.lex t r fragment f')
    (h : l.StopsAlong (Text.normalize fragment) f) : l.StopsAlong t (f.inFrame r.variant.tag) := by
  obtain ⟨rules, last, cause, hpath, hstops, rfl⟩ := h
  refine ⟨r :: rules, last, cause, .inside hfails hpath, hstops, ?_⟩
  rw [Fault.inFrame_through, List.map_cons, List.reverse_cons]

theorem CirclesAlong.inside (hfails : l.FailsIn l.lex t r fragment f)
    (h : l.CirclesAlong (Text.normalize fragment)) : l.CirclesAlong t := by
  obtain ⟨rules, last, hpath, hcircles⟩ := h
  exact ⟨r :: rules, last, .inside hfails hpath, hcircles⟩

/-- There is one path only, and so it does not both stop and come back to itself. -/
theorem StopsAlong.not_circlesAlong (h : l.StopsAlong t f) : ¬ l.CirclesAlong t := by
  obtain ⟨rules, last, cause, hpath, hstops, -⟩ := h
  induction hpath with
  | here =>
    rintro ⟨_, _, hpath, r, fragment, f, hcircle, -⟩
    cases hpath with
    | here => exact hcircle.not_stops hstops
    | inside hfails _ => exact hfails.not_stops hstops
  | inside hfails _ ih =>
    rintro ⟨_, _, hpath, hcircles⟩
    cases hpath with
    | here =>
      obtain ⟨r, fragment, f, hcircle, hsame⟩ := id hcircles
      obtain rfl := hfails.fragment_eq hcircle
      rw [hsame] at ih
      exact ih hstops ⟨[], _, .here, hcircles⟩
    | inside hfails' hrest =>
      obtain rfl := hfails.fragment_eq hfails'
      exact ih hstops ⟨_, _, hrest, hcircles⟩

namespace IsPlain

variable (hl : l.IsPlain)
include hl

theorem lex_error (hempty : Text.normalize text ≠ "")
    (h : (∃ cause, l.Stops l.lex (Text.normalize text) cause) ∨
      ∃ r fragment f, l.FailsIn l.lex (Text.normalize text) r fragment f) :
    ∃ f, l.lex text = .error f := by
  cases hlex : l.lex text with
  | error f => exact ⟨f, rfl⟩
  | ok x =>
    have hread := hl.readWith_of_lex hlex
    rcases h with ⟨cause, hstops⟩ | ⟨r, fragment, f, hfails⟩
    · cases hread.symm.trans (hl.readWith_eq_error_iff.mpr ⟨hempty, .inl ⟨cause, hstops, rfl⟩⟩)
    · cases hread.symm.trans
        (hl.readWith_eq_error_iff.mpr ⟨hempty, .inr ⟨r, fragment, f, hfails, rfl⟩⟩)

theorem lex_error_of_lexWithin {depth : Nat} (h : l.lexWithin depth text = .error f)
    (hdepth : (Text.normalize text).length < depth) : ∃ f', l.lex text = .error f' := by
  cases hlex : l.lex text with
  | error f' => exact ⟨f', rfl⟩
  | ok x => cases h.symm.trans (hl.lexWithin_of_ok hlex hdepth)

/-- At every depth a fault stops along a path, unless the depth is used up; and a depth above the
length of the text is used up only by a circle. -/
theorem lexWithin_fault {depth : Nat} (h : l.lexWithin depth text = .error f) :
    ((∃ f', l.lex text = .error f') ∧ l.StopsAlong (Text.normalize text) f) ∨
      (∃ t, f.cause = .endless t) ∧
        ((Text.normalize text).length < depth → l.CirclesAlong (Text.normalize text)) := by
  induction depth generalizing text f with
  | zero =>
    obtain rfl := Except.error.inj h
    exact .inr ⟨⟨_, rfl⟩, fun hdepth => absurd hdepth (Nat.not_lt_zero _)⟩
  | succ depth ih =>
    have hle := hl.lexWithin_le_lex depth
    have herror := hl.lex_error_of_lexWithin h
    rw [lexWithin_succ] at h
    obtain ⟨hempty, ⟨cause, hstops, rfl⟩ | ⟨r, fragment, f', hfails, rfl⟩⟩ :=
      hl.readWith_eq_error_iff.mp h
    · have hstops := hstops.mono hle
      exact .inl ⟨hl.lex_error hempty (.inl ⟨cause, hstops⟩), [], _, cause, .here, hstops, rfl⟩
    · rcases ih hfails.read_eq with ⟨⟨f'', hlex⟩, hstops⟩ | ⟨hendless, hcircles⟩
      · have hfails := hfails.mono hle hlex
        exact .inl ⟨hl.lex_error hempty (.inr ⟨r, fragment, f'', hfails⟩), hstops.inside hfails⟩
      · refine .inr ⟨hendless, fun hdepth => ?_⟩
        by_cases hsame : Text.normalize fragment = Text.normalize text
        · -- The fragment is the text over again, which cannot be read.
          obtain ⟨f'', hlex⟩ := herror hdepth
          rw [← lex_congr hsame] at hlex
          exact ⟨[], _, .here, r, fragment, f'', hfails.mono hle hlex, hsame⟩
        · have hdepth := Nat.lt_of_lt_of_le (hfails.length_lt hsame) (Nat.le_of_lt_succ hdepth)
          obtain ⟨f'', hlex⟩ := hl.lex_error_of_lexWithin hfails.read_eq hdepth
          exact (hcircles hdepth).inside (hfails.mono hle hlex)

end IsPlain

/-- A path from a text that cannot be read leads to where the fault arose. There the last text has
no rule and no fallback, or all its captures are read and there are too few or too many of them, or
the fallback has fields; and the tags on the way are the frames of the fault, the innermost first.
Where the path leads to a text that is passed on to itself, the reading has no end, and only
there. -/
theorem lex_fault_path (l : Lexicon) (hcustom : ∀ r ∈ l.rules, r.custom = none) (text : String)
    (f : Fault) (h : l.lex text = .error f) :
    ((∃ t, f.cause = .endless t) ↔
      ∃ rules last, l.Path (Text.normalize text) rules last ∧ l.Circles last) ∧
    ((∀ t, f.cause ≠ .endless t) →
      ∃ rules last cause, l.Path (Text.normalize text) rules last ∧ l.Stops l.lex last cause ∧
        f = .through cause (rules.map (·.variant.tag)).reverse) := by
  have hl : l.IsPlain := hcustom
  have hspare : 0 < spareDepth := by decide
  rcases hl.lexWithin_fault h with ⟨-, hstops⟩ | ⟨hendless, hcircles⟩
  · refine ⟨iff_of_false ?_ hstops.not_circlesAlong, fun _ => hstops⟩
    obtain ⟨rules, last, cause, -, hlast, rfl⟩ := hstops
    rintro ⟨t, ht⟩
    obtain rfl : cause = .endless t := ht
    cases hlast
  · refine ⟨iff_of_true hendless (hcircles (Nat.lt_add_of_pos_right hspare)), fun hne => ?_⟩
    obtain ⟨t, ht⟩ := hendless
    exact absurd ht (hne t)

/-- There are skills, but none is called "combats": the clause and the quantity on the way to it are
the frames. -/
theorem lex_fault_path_combats :
    let l : Lexicon :=
      ⟨[Cards.gainRule, Cards.quantityRule, Cards.skillRule, Cards.currInvestigatorRule], none⟩
    l.lex "You gain 2 combats." =
      .error (.through (.unrecognized "combats") ["QUANTITY", "GAIN"]) ∧
    ∃ rules, rules.map (·.variant.tag) = ["GAIN", "QUANTITY"] ∧
      l.Path (Text.normalize "You gain 2 combats.") rules "combats" ∧
      l.Stops l.lex "combats" (.unrecognized "combats") := by
  intro l
  have hcustom : ∀ r ∈ l.rules, r.custom = none := by decide
  have hlex : l.lex "You gain 2 combats." =
      .error (.through (.unrecognized "combats") ["QUANTITY", "GAIN"]) := by decide +kernel
  obtain ⟨rules, last, cause, hpath, hstops, hfault⟩ :=
    (lex_fault_path l hcustom _ _ hlex).2 fun t => by simp [Fault.through]
  obtain ⟨rfl, hstack⟩ := Fault.through_inj.mp hfault
  obtain rfl : last = "combats" := by
    cases hstops
    rfl
  refine ⟨hlex, rules, ?_, hpath, hstops⟩
  rw [← List.reverse_inj, ← hstack]
  rfl

end Lexicon

end RulesText
