import RulesText.Proofs.Descent

/-!
Extension: a table is given more rules, and perhaps a fallback. A text that could be read before is
still read the same way: some old rule accepted it and comes before all new ones, and so it is with
every fragment on the way down. Rules that build by hand are left out, for they may turn the failure
to read a fragment into a symbol.
-/
namespace RulesText

namespace Outcome

variable {α β : Type} {o o' : Outcome α}

/-- What comes out of the one comes out of the other, too. -/
def Le (o o' : Outcome α) : Prop := ∀ x, o = .ok x → o' = .ok x

theorem Le.refl (o : Outcome α) : o.Le o := fun _ h => h

theorem le_fail (c : Cause) (o : Outcome α) : (fail c).Le o := fun _ h => nomatch h

theorem Le.bind {f f' : α → Outcome β} (ho : o.Le o') (hf : ∀ x, (f x).Le (f' x)) :
    Le (o >>= f) (o' >>= f') := by
  intro y hy
  cases o with
  | error e => cases hy
  | ok x =>
    rw [bind_ok (ho x rfl) f']
    exact hf x y hy

theorem Le.map (ho : o.Le o') (f : α → β) : Le (f <$> o) (f <$> o') := by
  intro y hy
  cases o with
  | error e => cases hy
  | ok x => exact (map_ok (ho x rfl) f).trans hy

theorem Le.inFrame (ho : o.Le o') (frame : String) : (o.inFrame frame).Le (o'.inFrame frame) := by
  intro x hx
  cases o with
  | error e => cases hx
  | ok x' =>
    rw [ho x' rfl]
    exact hx

theorem Le.mapM {f f' : α → Outcome β} {xs : List α} (h : ∀ x ∈ xs, (f x).Le (f' x)) :
    Le (xs.mapM f) (xs.mapM f') := by
  induction xs with
  | nil => exact .refl _
  | cons x xs ih =>
    rw [List.mapM_cons, List.mapM_cons]
    refine (h x (.head _)).bind fun y => ?_
    exact (ih fun z hz => h z (.tail _ hz)).bind fun ys => .refl _

end Outcome

namespace TextReader

variable {read read' : TextReader}

/-- What the one reads the other reads the same way. -/
def Le (read read' : TextReader) : Prop := ∀ text, (read text).Le (read' text)

variable (h : read.Le read')
include h

theorem Le.value (fragment : Option String) : (read.value fragment).Le (read'.value fragment) := by
  cases fragment with
  | none => exact .refl _
  | some text =>
    unfold TextReader.value
    simp only
    split
    · exact .refl _
    · exact (h text).map Value.ofSymbol?

theorem Le.captured (groups : Captures) (c : Capture) :
    (read.captured groups c).Le (read'.captured groups c) := by
  cases c with
  | lex i => exact h.value (groups.group? i)
  | text i => exact .refl _

/-- A rule that is not built by hand makes the same of what it accepts. -/
theorem Le.build {r : Rule} (hcustom : r.custom = none) (groups : Captures) (text : String) :
    (r.build read groups text).Le (r.build read' groups text) := by
  simp only [Rule.build, hcustom]
  have hargs : Outcome.Le (r.captures.mapM (read.captured groups))
      (r.captures.mapM (read'.captured groups)) := .mapM fun c _ => h.captured groups c
  exact (hargs.inFrame r.variant.tag).bind fun args => .refl _

end TextReader

namespace Lexicon

variable {l l' : Lexicon}

/-- The rules come first in the other table, none of them is built by hand, and there is no other
way to accept a text. -/
structure Extends (l l' : Lexicon) : Prop where
  rules : l.rules <+: l'.rules
  custom : ∀ r ∈ l.rules, r.custom = none
  fallback : l.fallback = none

variable (h : l.Extends l')
include h

theorem Extends.firstRule? {text : String} {r : Rule} {groups : Captures}
    (hfirst : l.firstRule? text = some (r, groups)) : l'.firstRule? text = some (r, groups) :=
  h.rules.findSome?_eq_some hfirst

theorem Extends.lexNormal {read read' : TextReader} (hread : read.Le read') (text : String) :
    (l.lexNormal read text).Le (l'.lexNormal read' text) := by
  unfold Lexicon.lexNormal
  cases hfirst : l.firstRule? text with
  | none =>
    -- Without a fallback the text is not read at all, whatever the other table makes of it.
    simp only [h.fallback]
    exact Outcome.le_fail _ _
  | some p =>
    obtain ⟨r, groups⟩ := p
    rw [h.firstRule? hfirst]
    exact hread.build (h.custom r (firstRule?_eq_some hfirst).1) groups text

theorem Extends.lexWithin (depth : Nat) :
    TextReader.Le (l.lexWithin depth) (l'.lexWithin depth) := by
  induction depth with
  | zero => exact fun text => Outcome.le_fail _ _
  | succ depth ih =>
    -- Both tables have the same depth left for a text, and one less for its fragments.
    intro text
    unfold Lexicon.lexWithin
    simp only
    split
    · exact .refl _
    · exact h.lexNormal ih _

theorem Extends.lex : TextReader.Le l.lex l'.lex := fun text => h.lexWithin _ text

omit h

/-- More rules after those of a table, and a fallback, change nothing in what it reads. -/
theorem lex_append_rules (rules more : List Rule) (fallback : Option Variant)
    (hcustom : ∀ r ∈ rules, r.custom = none) :
    (∀ text x, lex ⟨rules, none⟩ text = .ok x → lex ⟨rules ++ more, fallback⟩ text = .ok x) ∧
    ∀ fragment v, lexValue ⟨rules, none⟩ fragment = .ok v →
      lexValue ⟨rules ++ more, fallback⟩ fragment = .ok v := by
  have hextends : Extends ⟨rules, none⟩ ⟨rules ++ more, fallback⟩ :=
    ⟨List.prefix_append rules more, hcustom, rfl⟩
  exact ⟨hextends.lex, hextends.lex.value⟩

/-- Four rules read a clause down to its words. All standard rules and their fallback may follow. -/
theorem lex_gain_append_rules :
    let rules := [Cards.gainRule, Cards.quantityRule, Cards.skillRule, Cards.currInvestigatorRule]
    ∃ clause, clause.tag = "GAIN" ∧
      lex ⟨rules, none⟩ "You gain 2 combat." = .ok (some clause) ∧
      lex ⟨rules ++ Cards.lexicon.rules, some Cards.text⟩ "You gain 2 combat." =
        .ok (some clause) := by
  intro rules
  have hcustom : ∀ r ∈ rules, r.custom = none := by decide
  let skill : Symbol := ⟨Cards.skill, [("skill", .str "combat")], some "combat", []⟩
  let amount : Symbol :=
    ⟨Cards.quantity, [("num", .int 2), ("type", .symbol skill)], some "2 combat", []⟩
  let subject : Symbol := ⟨Cards.currInvestigator, [], some "you", []⟩
  let clause : Symbol :=
    ⟨Cards.gain, [("subject", .symbol subject), ("resource", .symbol amount)],
      some "you gain 2 combat.", []⟩
  have hlex : lex ⟨rules, none⟩ "You gain 2 combat." = .ok (some clause) := by decide +kernel
  exact ⟨clause, rfl, hlex, (lex_append_rules rules _ _ hcustom).1 _ _ hlex⟩

end Lexicon

end RulesText
