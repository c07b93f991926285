import RulesText.Casebook.Basic
import RulesText.Flatten.Layout
import RulesText.Proofs.Effects

/-!
The life of staged components: registrations and uses in any order. What is used is the table as it
stood at the first use, with the registrations that could be made until then.
-/
namespace RulesText

namespace Matcher

/-- Whether all these patterns can be read. -/
def readable (patterns : List String) : Bool := patterns.all fun p => (compile p).isOk

variable {β γ : Type} {patterns more : List String} {o : Outcome β} {g : β → Outcome γ}

/-- The outcome hangs on these patterns: there is one if all of them can be read, and otherwise it
is the fault of one that cannot. -/
def Reads (patterns : List String) (o : Outcome β) : Prop :=
  (readable patterns = true ∧ ∃ b, o = .ok b) ∨
  (readable patterns = false ∧ ∃ p ∈ patterns, ∃ f, compile p = .error f ∧ o = .error f)

theorem reads_compile (p : String) : Reads [p] (compile p) := by
  rw [Reads, readable, List.all_cons, List.all_nil, Bool.and_true]
  cases hp : compile p with
  | ok m => exact .inl ⟨rfl, m, rfl⟩
  | error f => exact .inr ⟨rfl, p, .head _, f, hp, rfl⟩

theorem Reads.bind (ho : Reads patterns o) (hg : ∀ b, Reads more (g b)) :
    Reads (patterns ++ more) (o >>= g) := by
  have happend : readable (patterns ++ more) = (readable patterns && readable more) :=
    List.all_append
  rw [Reads, happend]
  obtain ⟨hread, b, rfl⟩ | ⟨hread, p, hmem, f, hp, rfl⟩ := ho
  · rw [hread, Bool.true_and]
    obtain h | ⟨hmore, p, hmem, f, hp, hfault⟩ := hg b
    · exact .inl h
    · exact .inr ⟨hmore, p, List.mem_append_right _ hmem, f, hp, hfault⟩
  · rw [hread, Bool.false_and]
    exact .inr ⟨rfl, p, List.mem_append_left _ hmem, f, hp, rfl⟩

theorem Reads.bind_pure (ho : Reads patterns o) (change : β → γ) :
    Reads patterns (do return change (← o)) := by
  obtain ⟨hread, b, rfl⟩ | ⟨hread, p, hmem, f, hp, rfl⟩ := ho
  · exact .inl ⟨hread, change b, rfl⟩
  · exact .inr ⟨hread, p, hmem, f, hp, rfl⟩

theorem reads_mapM_compile (patterns : List String) : Reads patterns (patterns.mapM compile) := by
  induction patterns with
  | nil => exact .inl ⟨rfl, [], rfl⟩
  | cons p ps ih =>
    rw [List.mapM_cons]
    exact (reads_compile p).bind fun m => ih.bind_pure fun ms => m :: ms

end Matcher

/-- A rule can be compiled if its inclusion and all its exclusions can be read. -/
theorem RuleDraft.reads_compile (d : RuleDraft) :
    Matcher.Reads (d.pattern :: d.exclusions) d.compile :=
  (Matcher.reads_compile d.pattern).bind fun _ =>
    (Matcher.reads_mapM_compile d.exclusions).bind_pure _

namespace Component

variable {α β : Type} {patterns : List String} {o : Outcome β}

/-- The work of a registration with these patterns. If all of them can be read it is done. Otherwise
it fails over one that cannot, and changes nothing. -/
def Enters (patterns : List String) (x : Effect α Unit) : Prop :=
  (Matcher.readable patterns = true ∧ Effect.Sure x) ∨
  (Matcher.readable patterns = false ∧ ∃ p ∈ patterns, ∃ f, Matcher.compile p = .error f ∧
    ∀ table, x.run table = (.error f, table))

theorem enters_modify (change : α → α) : Enters [] (modify change) :=
  .inl ⟨rfl, Effect.sure_modify change⟩

/-- Nothing is lost over patterns that are read before the table is changed. -/
theorem enters_of_reads (h : Matcher.Reads patterns o) (change : β → α → α) :
    Enters patterns (do let b ← (liftM o : Effect α β); modify (change b)) := by
  obtain ⟨hread, b, rfl⟩ | ⟨hread, p, hmem, f, hp, rfl⟩ := h
  · exact .inl ⟨hread, Effect.sure_modify (change b)⟩
  · exact .inr ⟨hread, p, hmem, f, hp, fun table => Effect.run_bind_of_fault Effect.run_outcome⟩

/-- What is expected of a component. -/
structure Contract (α : Type) [Component α] where
  name : String
  /-- The form in which a table is used. -/
  form : α → Frozen α
  /-- The patterns that have to be read for a registration. -/
  patterns : Registration α → List String
  /-- The table with all of these registrations, in the order in which they were made. -/
  registered : α → List (Registration α) → α

/-- The component does what is expected of it, one registration at a time. -/
structure Contract.Kept [Component α] (k : Contract α) : Prop where
  name_eq : Component.name α = k.name
  freeze_eq : ∀ table, freeze table = some (k.form table)
  enters : ∀ r, Enters (k.patterns r) (enter r)
  registered_nil : ∀ table, k.registered table [] = table
  registered_cons : ∀ table r rs,
    k.registered table (r :: rs) = k.registered ((enter r).run table).2 rs

end Component

namespace Staged

open Component (Registration Frozen Contract enter)

variable {α : Type} [Component α]

/-- What can be done with a staged component. -/
inductive Op (α : Type) [Component α] where
  | register (what : String) (r : Registration α)
  | use

/-- The component after an operation, whether it has failed or not. -/
def Op.apply (s : Staged α) : Op α → Staged α
  | register what r => ((Staged.register what (enter r)).run s).2
  | use => s.use.2

/-- The component after these operations. -/
def after (s : Staged α) (ops : List (Op α)) : Staged α := ops.foldl Op.apply s

/-- The registrations before the first use. -/
def early : List (Op α) → List (Registration α)
  | [] => []
  | .register _ r :: ops => r :: early ops
  | .use :: _ => []

/-- The table with the registrations that can be made before the first use: those whose patterns can
all be read. -/
def tableAt (k : Contract α) (table : α) (ops : List (Op α)) : α :=
  k.registered table ((early ops).filter fun r => Matcher.readable (k.patterns r))

/-- The life of a component with that contract. -/
structure Lifecycle (k : Contract α) : Prop where
  /-- It is frozen from the first use on. -/
  isFrozen_iff : ∀ table ops, ((building table : Staged α).after ops).isFrozen = true ↔ .use ∈ ops
  /-- A registration after that fails with the names of the component and of what was registered,
  and has no effect. -/
  late : ∀ (table : α) ops, .use ∈ ops → ∀ what r,
    (register what (enter r)).run ((building table).after ops) =
      (.error ⟨.frozen k.name what, none⟩, (building table).after ops)
  /-- Until then the component is open. -/
  open_eq : ∀ table ops, .use ∉ ops → (building table).after ops = building (tableAt k table ops)
  /-- A registration until then is made if its patterns can be read. -/
  made : ∀ (table : α) ops, .use ∉ ops → ∀ what r, Matcher.readable (k.patterns r) = true →
    ((register what (enter r)).run ((building table).after ops)).1 = .ok ()
  /-- Otherwise it fails over one that cannot, and leaves the table as it was. -/
  refused : ∀ (table : α) ops, .use ∉ ops → ∀ what r, Matcher.readable (k.patterns r) = false →
    ∃ p ∈ k.patterns r, ∃ f, Matcher.compile p = .error f ∧
      (register what (enter r)).run ((building table).after ops) =
        (.error f, (building table).after ops)
  /-- Whenever it is used, it is used as the table stood at the first use. -/
  use_eq : ∀ table ops, ((building table).after ops).use.1 = some (k.form (tableAt k table ops))
  /-- No table is lost on the way to its form. -/
  not_poisoned : ∀ (table : α) ops, (building table).after ops ≠ poisoned

variable {table : α} {ops : List (Op α)} {k : Contract α}

theorem after_frozen (f : Frozen α) : (frozen f).after ops = frozen f := by
  induction ops with
  | nil => rfl
  | cons op ops ih => cases op <;> exact ih

section Kept

variable (h : k.Kept)
include h

theorem tableAt_register (what : String) (r : Registration α) :
    tableAt k table (.register what r :: ops) = tableAt k ((enter r).run table).2 ops := by
  have hearly : early (.register what r :: ops) = r :: early ops := rfl
  rw [tableAt, hearly, List.filter_cons]
  -- A registration that is left out has failed, and then the table is still the same.
  obtain ⟨hread, -⟩ | ⟨hread, p, -, f, -, hrun⟩ := h.enters r
  · rw [if_pos hread, h.registered_cons]
    rfl
  · rw [hread, hrun]
    rfl

/-- Registrations lead from table to table. -/
theorem after_of_unused (hops : .use ∉ ops) :
    (building table).after ops = building (tableAt k table ops) := by
  induction ops generalizing table with
  | nil => exact congrArg building (h.registered_nil table).symm
  | cons op ops ih =>
    cases op with
    | use => exact absurd (.head _) hops
    | register what r =>
      rw [tableAt_register h what r]
      exact ih fun hmem => hops (.tail _ hmem)

theorem settle_building : (building table).settle = frozen (k.form table) := by
  rw [settle, h.freeze_eq]

/-- The first use settles the form for good. -/
theorem after_of_used (hops : .use ∈ ops) :
    (building table).after ops = frozen (k.form (tableAt k table ops)) := by
  induction ops generalizing table with
  | nil => cases hops
  | cons op ops ih =>
    cases op with
    | use =>
      -- Nothing after this use is early, so the form is that of the table as it stands.
      have htable : tableAt k table (.use :: ops) = table := h.registered_nil table
      change (building table).settle.after ops = _
      rw [settle_building h, after_frozen, htable]
    | register what r =>
      rw [tableAt_register h what r]
      exact ih ((List.mem_cons.mp hops).resolve_left (fun heq => nomatch heq))

theorem use_after : ((building table).after ops).use.1 = some (k.form (tableAt k table ops)) := by
  by_cases hops : .use ∈ ops
  · rw [after_of_used h hops]
    rfl
  · rw [after_of_unused h hops, use, settle_building h]
    rfl

theorem isFrozen_after : ((building table).after ops).isFrozen = true ↔ .use ∈ ops := by
  by_cases hops : .use ∈ ops
  · rw [after_of_used h hops]
    exact iff_of_true rfl hops
  · rw [after_of_unused h hops]
    exact iff_of_false Bool.false_ne_true hops

theorem after_ne_poisoned : (building table).after ops ≠ poisoned := by
  by_cases hops : .use ∈ ops
  · rw [after_of_used h hops]
    nofun
  · rw [after_of_unused h hops]
    nofun

/-- What holds of single registrations makes up the whole life. -/
theorem lifecycle : Lifecycle k where
  isFrozen_iff _ _ := isFrozen_after h
  late table ops hops what r := by
    rw [after_of_used h hops, ← h.name_eq]
    rfl
  open_eq _ _ := after_of_unused h
  made table ops hops what r hread := by
    obtain ⟨-, hsure⟩ | ⟨hunread, -⟩ := h.enters r
    · obtain ⟨_, table', hrun⟩ := hsure (tableAt k table ops)
      rw [after_of_unused h hops]
      exact congrArg Prod.fst hrun
    · rw [hread] at hunread
      cases hunread
  refused table ops hops what r hunread := by
    obtain ⟨hread, -⟩ | ⟨-, p, hmem, f, hp, hrun⟩ := h.enters r
    · rw [hread] at hunread
      cases hunread
    · refine ⟨p, hmem, f, hp, ?_⟩
      rw [after_of_unused h hops]
      change (((enter r).run _).1, building ((enter r).run _).2) = _
      rw [hrun]
  use_eq _ _ := use_after h
  not_poisoned _ _ := after_ne_poisoned h

end Kept

end Staged

theorem getLast?_cons_or {α : Type} (x : α) (xs : List α) (o : Option α) :
    (x :: xs).getLast?.or o = xs.getLast?.or (some x) := by
  rw [List.getLast?_cons]
  cases xs.getLast? <;> rfl

namespace Lexicon

namespace Registration

def patterns : Registration → List String
  | rule draft => draft.pattern :: draft.exclusions
  | fallback _ => []

/-- The rule of a registration, if its patterns can be read. -/
def rule? : Registration → Option Rule
  | rule draft => draft.compile.toOption
  | fallback _ => none

def fallback? : Registration → Option Variant
  | rule _ => none
  | fallback variant => some variant

end Registration

/-- The rules are appended in order, and the last fallback counts. -/
def registerAll (l : Lexicon) (rs : List Registration) : Lexicon :=
  { rules := l.rules ++ rs.filterMap Registration.rule?
    fallback := (rs.filterMap Registration.fallback?).getLast?.or l.fallback }

theorem registerAll_cons (l : Lexicon) (r : Registration) (rs : List Registration) :
    l.registerAll (r :: rs) =
      ((Component.enter r : Effect Lexicon Unit).run l).2.registerAll rs := by
  cases r with
  | rule draft =>
    change _ = ((register draft).run l).2.registerAll rs
    cases hdraft : draft.compile with
    | ok rule =>
      have hrule : (Registration.rule draft).rule? = some rule := by
        rw [Registration.rule?, hdraft]
        rfl
      rw [registerAll, List.filterMap_cons_some hrule, List.append_cons, register, hdraft]
      rfl
    | error f =>
      have hrule : (Registration.rule draft).rule? = none := by
        rw [Registration.rule?, hdraft]
        rfl
      rw [registerAll, List.filterMap_cons_none hrule, register, hdraft]
      rfl
  | fallback variant =>
    have hvariant : (Registration.fallback variant).fallback? = some variant := rfl
    rw [registerAll, List.filterMap_cons_some hvariant, getLast?_cons_or]
    rfl

def contract : Component.Contract Lexicon where
  name := "lexer"
  form := id
  patterns := Registration.patterns
  registered := registerAll

theorem contract_kept : contract.Kept where
  name_eq := rfl
  freeze_eq _ := rfl
  enters
    | .rule draft =>
      Component.enters_of_reads draft.reads_compile fun rule (l : Lexicon) => l.addRule rule
    | .fallback _ => Component.enters_modify _
  registered_nil l := by simp [contract, registerAll]
  registered_cons := registerAll_cons

end Lexicon

namespace Casebook

namespace Registration

def patterns : Registration → List String
  | .pattern p _ => [p]
  | .source .. | .fallback _ => []

def sourceCase? : Registration → Option (String × Logic)
  | .source name logic => some (name, logic)
  | .pattern .. | .fallback _ => none

/-- The pattern case of a registration, if the pattern can be read. -/
def patternCase? : Registration → Option (Matcher × PatternLogic)
  | .pattern p logic => (Matcher.compile p).toOption.map (·, logic)
  | .source .. | .fallback _ => none

def fallback? : Registration → Option Logic
  | .fallback logic => some logic
  | .source .. | .pattern .. => none

end Registration

/-- Cases of each kind are appended in order, and the last fallback counts. -/
def registerAll (b : Casebook) (rs : List Registration) : Casebook :=
  { lexicon := b.lexicon
    sources := b.sources ++ rs.filterMap Registration.sourceCase?
    patterns := b.patterns ++ rs.filterMap Registration.patternCase?
    fallback := (rs.filterMap Registration.fallback?).getLast?.or b.fallback }

theorem registerAll_cons (b : Casebook) (r : Registration) (rs : List Registration) :
    b.registerAll (r :: rs) =
      ((Component.enter r : Effect Casebook Unit).run b).2.registerAll rs := by
  cases r with
  | source name logic =>
    have hcase : (Registration.source name logic).sourceCase? = some (name, logic) := rfl
    rw [registerAll, List.filterMap_cons_some hcase, List.append_cons]
    rfl
  | pattern p logic =>
    change _ = ((registerPattern p logic).run b).2.registerAll rs
    cases hp : Matcher.compile p with
    | ok m =>
      have hcase : (Registration.pattern p logic).patternCase? = some (m, logic) := by
        rw [Registration.patternCase?, hp]
        rfl
      rw [registerAll, List.filterMap_cons_some hcase, List.append_cons, registerPattern, hp]
      rfl
    | error f =>
      have hcase : (Registration.pattern p logic).patternCase? = none := by
        rw [Registration.patternCase?, hp]
        rfl
      rw [registerAll, List.filterMap_cons_none hcase, registerPattern, hp]
      rfl
  | fallback logic =>
    have hlogic : (Registration.fallback logic).fallback? = some logic := rfl
    rw [registerAll, List.filterMap_cons_some hlogic, getLast?_cons_or]
    rfl

def contract : Component.Contract Casebook where
  name := "tree builder"
  form := id
  patterns := Registration.patterns
  registered := registerAll

theorem contract_kept : contract.Kept where
  name_eq := rfl
  freeze_eq _ := rfl
  enters
    | .source .. | .fallback _ => Component.enters_modify _
    | .pattern p logic =>
      Component.enters_of_reads (Matcher.reads_compile p)
        fun m (b : Casebook) => b.addPattern m logic
  registered_nil b := by simp [contract, registerAll]
  registered_cons := registerAll_cons

end Casebook

namespace Layout

namespace Registration

def handler? : Registration → Option (String × Handler)
  | .handler tag h => some (tag, h)
  | .extractionTag _ | .collapseTag _ => none

def extractionTag? : Registration → Option String
  | .extractionTag tag => some tag
  | .handler .. | .collapseTag _ => none

def collapseTag? : Registration → Option String
  | .collapseTag tag => some tag
  | .handler .. | .extractionTag _ => none

end Registration

/-- Tags are added, and of two handlers of the same tag the later one counts. -/
def registerAll (l : Layout) (rs : List Registration) : Layout :=
  { collapseTags := l.collapseTags.insertAll (rs.filterMap Registration.collapseTag?)
    extractionTags := l.extractionTags.insertAll (rs.filterMap Registration.extractionTag?)
    handlers := (rs.filterMap Registration.handler?).foldl
      (fun handlers new => new :: handlers.filter (·.1 != new.1)) l.handlers
    recordTags := l.recordTags }

theorem registerAll_cons (l : Layout) (r : Registration) (rs : List Registration) :
    l.registerAll (r :: rs) =
      ((Component.enter r : Effect Layout Unit).run l).2.registerAll rs := by
  cases r <;> rfl

def contract : Component.Contract Layout where
  name := "flattener"
  form := id
  patterns _ := []
  registered := registerAll

theorem contract_kept : contract.Kept where
  name_eq := rfl
  freeze_eq _ := rfl
  enters
    | .handler .. | .extractionTag _ | .collapseTag _ => Component.enters_modify _
  registered_nil _ := rfl
  registered_cons := registerAll_cons

end Layout

/-- All three components are open until they are first used and closed from then on. -/
theorem Staged.open_until_used :
    Lifecycle Lexicon.contract ∧ Lifecycle Casebook.contract ∧ Lifecycle Layout.contract :=
  ⟨lifecycle Lexicon.contract_kept, lifecycle Casebook.contract_kept,
    lifecycle Layout.contract_kept⟩

end RulesText
