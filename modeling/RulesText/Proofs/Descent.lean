import Mathlib.Data.List.Chain
import RulesText.Proofs.Reading

/-!
Descent: what a rule passes on to be read is shorter than the text it was captured from. So readings
inside a reading come to an end, and how deep they may be nested makes no difference once it is more
than the length of the text.
-/
namespace RulesText

variable {l : Lexicon} {passed : Rule → List Nat} {read read' : TextReader} {text : String}
  {n : Nat}

/-- The group that a capture passes on. -/
def Capture.read? : Capture → Option Nat
  | .lex i => some i
  | .text _ => none

/-- What a rule builds depends on the reader only by the values of these groups. -/
def Rule.ReadsOnly (r : Rule) (is : List Nat) : Prop :=
  ∀ read read' : TextReader, ∀ groups text,
    (∀ i ∈ is, read.value (groups.group? i) = read'.value (groups.group? i)) →
      r.build read groups text = r.build read' groups text

theorem Outcome.mapM_congr {α β : Type} {f g : α → Outcome β} {xs : List α}
    (h : ∀ x ∈ xs, f x = g x) : xs.mapM f = xs.mapM g := by
  induction xs with
  | nil => rfl
  | cons x xs ih =>
    rw [List.mapM_cons, List.mapM_cons, h x (.head _), ih fun y hy => h y (.tail _ hy)]

/-- A rule without a constructor has its captures read and nothing else. -/
theorem Rule.readsOnly_captures {r : Rule} (hc : r.custom = none) :
    r.ReadsOnly (r.captures.filterMap Capture.read?) := by
  intro read read' groups text h
  have hcaptured : ∀ c ∈ r.captures, read.captured groups c = read'.captured groups c := by
    intro c hmem
    cases c with
    | lex i => exact h i (List.mem_filterMap.mpr ⟨.lex i, hmem, rfl⟩)
    | text i => rfl
  simp only [Rule.build, hc]
  rw [Outcome.mapM_congr hcaptured]

namespace TextReader

/-- Two readers that do not differ on texts whose normal form is shorter than that. -/
def AgreeBelow (n : Nat) (read read' : TextReader) : Prop :=
  ∀ text, (Text.normalize text).length < n → read text = read' text

theorem AgreeBelow.value (h : AgreeBelow n read read') {fragment : Option String}
    (hf : ∀ text, fragment = some text → (Text.normalize text).length < n) :
    read.value fragment = read'.value fragment := by
  cases fragment with
  | none => rfl
  | some text => simp only [TextReader.value, h text (hf text rfl)]

end TextReader

namespace Lexicon

/-- One reading, with a reader for what the rules pass on. -/
def readWith (l : Lexicon) (read : TextReader) : TextReader := fun text =>
  if (Text.normalize text).isEmpty then .ok none else l.lexNormal read (Text.normalize text)

theorem lexWithin_succ (depth : Nat) :
    l.lexWithin (depth + 1) = l.readWith (l.lexWithin depth) := rfl

/-- The first rule that accepts the normal text passes a fragment of it on to be read. -/
def PassesOn (passed : Rule → List Nat) (l : Lexicon) (text fragment : String) : Prop :=
  ∃ r groups i, l.firstRule? (Text.normalize text) = some (r, groups) ∧ i ∈ passed r ∧
    groups.group? i = some fragment

/-- Rules that pass on these groups and no others, and whose patterns take something outside of each
of them. -/
structure Descends (passed : Rule → List Nat) (l : Lexicon) : Prop where
  readsOnly : ∀ r ∈ l.rules, r.ReadsOnly (passed r)
  slack : ∀ r ∈ l.rules, ∀ i ∈ passed r, i ≠ 0 ∧ 0 < r.inclusion.pattern.slack i

theorem firstRule?_eq_some {r : Rule} {groups : Captures}
    (h : l.firstRule? text = some (r, groups)) : r ∈ l.rules ∧ r.accept? text = some groups := by
  obtain ⟨r', hr, hp⟩ := List.exists_of_findSome?_eq_some h
  obtain ⟨groups', haccept, heq⟩ := Option.map_eq_some_iff.mp hp
  cases heq
  exact ⟨hr, haccept⟩

namespace Descends

variable (h : l.Descends passed)
include h

theorem shorter {r : Rule} {groups : Captures} {i : Nat} {fragment : String} (hr : r ∈ l.rules)
    (haccept : r.accept? (Text.normalize text) = some groups) (hi : i ∈ passed r)
    (hgroup : groups.group? i = some fragment) :
    (Text.normalize fragment).length < (Text.normalize text).length := by
  obtain ⟨hzero, hslack⟩ := h.slack r hr i hi
  exact Matcher.length_normalize_group_lt (Rule.captures?_of_accept? haccept) hzero hslack hgroup
    (Text.dottedI_not_mem_normalize text)

theorem shorter_of_passesOn {fragment : String} (hp : l.PassesOn passed text fragment) :
    (Text.normalize fragment).length < (Text.normalize text).length := by
  obtain ⟨r, groups, i, hfirst, hi, hgroup⟩ := hp
  obtain ⟨hr, haccept⟩ := firstRule?_eq_some hfirst
  exact h.shorter hr haccept hi hgroup

/-- Readings are nested no deeper than the text is long. -/
theorem length_chain_le {fragments : List String}
    (hc : List.IsChain (l.PassesOn passed) (text :: fragments)) :
    fragments.length ≤ (Text.normalize text).length := by
  induction fragments generalizing text with
  | nil => exact Nat.zero_le _
  | cons fragment rest ih =>
    obtain ⟨hstep, hrest⟩ := List.isChain_cons_cons.mp hc
    have hlt := h.shorter_of_passesOn hstep
    have hle := ih hrest
    rw [List.length_cons]
    omega

/-- Readers that agree on shorter texts lead to the same reading. -/
theorem readWith_agree (hread : TextReader.AgreeBelow n read read') :
    TextReader.AgreeBelow (n + 1) (l.readWith read) (l.readWith read') := by
  intro text htext
  unfold readWith lexNormal
  split
  · rfl
  · cases hfirst : l.firstRule? (Text.normalize text) with
    | none => rfl
    | some p =>
      obtain ⟨r, groups⟩ := p
      obtain ⟨hr, haccept⟩ := firstRule?_eq_some hfirst
      refine h.readsOnly r hr read read' groups _ fun i hi => ?_
      refine hread.value fun fragment hf => ?_
      have hlt := h.shorter hr haccept hi hf
      omega

/-- A depth above the length of the text is as good as any other. -/
theorem lexWithin_agree {depth depth' : Nat} (hd : n ≤ depth) (hd' : n ≤ depth') :
    TextReader.AgreeBelow n (l.lexWithin depth) (l.lexWithin depth') := by
  induction n generalizing depth depth' with
  | zero => exact fun text ht => absurd ht (Nat.not_lt_zero _)
  | succ n ih =>
    obtain ⟨depth, rfl⟩ := Nat.exists_eq_add_of_lt hd
    obtain ⟨depth', rfl⟩ := Nat.exists_eq_add_of_lt hd'
    rw [lexWithin_succ, lexWithin_succ]
    exact h.readWith_agree (ih (Nat.le_add_right n _) (Nat.le_add_right n _))

theorem lexWithin_eq_lex {depth : Nat} (hd : (Text.normalize text).length < depth) :
    l.lexWithin depth text = l.lex text :=
  h.lexWithin_agree hd (Nat.add_lt_add_left (by decide : 0 < spareDepth) _) text
    (Nat.lt_succ_self _)

/-- Reading is what the table makes of it, with itself as the reader of what is passed on. -/
theorem lex_eq_readWith : l.lex = l.readWith l.lex := by
  funext text
  have hlex : TextReader.AgreeBelow (Text.normalize text).length
      (l.lexWithin (Text.normalize text).length) l.lex := fun fragment hf => h.lexWithin_eq_lex hf
  rw [← h.lexWithin_eq_lex (Nat.lt_succ_self (Text.normalize text).length), lexWithin_succ]
  exact h.readWith_agree hlex text (Nat.lt_succ_self _)

/-- No other reader has itself as the reader of what is passed on. -/
theorem eq_lex_of_eq_readWith (hread : read = l.readWith read) : read = l.lex := by
  have hagree : ∀ n, TextReader.AgreeBelow n read l.lex := by
    intro n
    induction n with
    | zero => exact fun text ht => absurd ht (Nat.not_lt_zero _)
    | succ n ih =>
      rw [hread, h.lex_eq_readWith]
      exact h.readWith_agree ih
  funext text
  exact hagree _ text (Nat.lt_succ_self _)

end Descends

end Lexicon

namespace Cards

/-- The groups that a standard rule passes on: those of its captures that are read, and the first
one where a rule is built by hand. -/
def passedOn (r : Rule) : List Nat :=
  match r.custom with
  | none => r.captures.filterMap Capture.read?
  | some _ => [1]

theorem imperativeGainRule_readsOnly : imperativeGainRule.ReadsOnly [1] := by
  intro read read' groups text h
  have hvalue := h 1 (.head _)
  simp only [Rule.build, imperativeGainRule, imperativeGain, hvalue]

theorem lexicon_descends : lexicon.Descends passedOn where
  readsOnly := by
    intro r hr
    cases hc : r.custom with
    | none =>
      simp only [passedOn, hc]
      exact Rule.readsOnly_captures hc
    | some construct =>
      obtain rfl := eq_imperativeGainRule hr hc
      exact imperativeGainRule_readsOnly
  slack := by decide +kernel

/-- Reading by the standard rules comes to an end on every text. Each rule passes on only what is
shorter than the text it accepts, readings are nested no deeper than the normal text is long, and
reading is the one function that is what the table makes of it when it reads its own fragments. -/
theorem lexicon_lex_terminates :
    (∀ r ∈ lexicon.rules, r.ReadsOnly (passedOn r) ∧
      ∀ text groups, r.accept? (Text.normalize text) = some groups →
        ∀ i ∈ passedOn r, ∀ fragment, groups.group? i = some fragment →
          (Text.normalize fragment).length < (Text.normalize text).length) ∧
    (∀ text fragments, List.IsChain (lexicon.PassesOn passedOn) (text :: fragments) →
      fragments.length ≤ (Text.normalize text).length) ∧
    (∀ text depth, (Text.normalize text).length < depth →
      ∃ o, lexicon.lexWithin depth text = .ok o ∧ lexicon.lex text = .ok o) ∧
    ∀ read : TextReader, read = lexicon.readWith read ↔ read = lexicon.lex := by
  have h := lexicon_descends
  refine ⟨?_, ?_, ?_, ?_⟩
  · intro r hr
    exact ⟨h.readsOnly r hr, fun text groups haccept i hi fragment hgroup =>
      h.shorter hr haccept hi hgroup⟩
  · exact fun text fragments hc => h.length_chain_le hc
  · intro text depth hd
    obtain ⟨o, ho, -⟩ := lexicon_sound.lex text
    exact ⟨o, (h.lexWithin_eq_lex hd).trans ho, ho⟩
  · intro read
    constructor
    · exact h.eq_lex_of_eq_readWith
    · rintro rfl
      exact h.lex_eq_readWith

end Cards

end RulesText
