import Mathlib.Data.List.DropRight
import RulesText.Console.Run

/-!
Recall: an input is kept in a form in which it can be typed again. Read back in one piece it gives
the same lines, unless one of them has kept a backslash at its end: such a backslash is taken for
one that asks for another line.
-/
namespace RulesText

namespace Text

variable {p : Char → Bool} {c : Char} {cs piece : List Char} {pieces : List (List Char)}

theorem splitChars_eq_splitOnP (p : Char → Bool) (cs : List Char) :
    splitChars p cs = cs.splitOnP p := by
  induction cs with
  | nil => rfl
  | cons c rest ih =>
    rw [splitChars, List.splitOnP_cons_eq_if_modifyHead, ih]
    cases hrest : rest.splitOnP p with
    | nil => exact absurd hrest (List.splitOnP_ne_nil p rest)
    | cons piece more => rfl

theorem splitChars_ne_nil : splitChars p cs ≠ [] := by
  rw [splitChars_eq_splitOnP]
  exact List.splitOnP_ne_nil p cs

theorem splitChars_intercalate (hne : pieces ≠ []) (h : ∀ piece ∈ pieces, c ∉ piece) :
    splitChars (· == c) ([c].intercalate pieces) = pieces := by
  rw [splitChars_eq_splitOnP]
  exact List.splitOn_intercalate c h hne

theorem not_mem_of_mem_splitChars (h : piece ∈ splitChars (· == c) cs) : c ∉ piece := by
  induction cs generalizing piece with
  | nil =>
    obtain rfl := List.mem_singleton.mp h
    exact List.not_mem_nil
  | cons d rest ih =>
    rw [splitChars] at h
    cases hrest : splitChars (· == c) rest with
    | nil => exact absurd hrest splitChars_ne_nil
    | cons first more =>
      simp only [hrest] at h ih
      split at h
      · rcases List.mem_cons.mp h with rfl | h
        · exact List.not_mem_nil
        · exact ih h
      · next hd =>
        rcases List.mem_cons.mp h with rfl | h
        · rw [List.mem_cons, not_or]
          exact ⟨fun he => hd (beq_iff_eq.mpr he.symm), ih (.head _)⟩
        · exact ih (.tail _ h)

/-- Whether the last character satisfies `p`. -/
def endsIn (p : Char → Bool) (cs : List Char) : Bool := cs.getLast?.any p

theorem endsIn_concat : endsIn p (cs ++ [c]) = p c := by
  rw [endsIn, List.getLast?_concat]
  rfl

theorem dropEnd_isPrefix (p : Char → Bool) (cs : List Char) : dropEnd p cs <+: cs :=
  List.rdropWhile_prefix p cs

theorem dropEnd_concat : dropEnd p (cs ++ [c]) = if p c then dropEnd p cs else cs ++ [c] :=
  List.rdropWhile_concat p cs c

theorem endsIn_dropEnd : endsIn p (dropEnd p cs) = false := by
  induction cs using List.reverseRecOn with
  | nil => rfl
  | append_singleton cs c ih =>
    rw [dropEnd_concat]
    split
    · exact ih
    · next hc => rw [endsIn_concat, Bool.eq_false_iff.mpr hc]

theorem dropEnd_eq_self_iff : dropEnd p cs = cs ↔ endsIn p cs = false := by
  constructor
  · intro h
    rw [← h]
    exact endsIn_dropEnd
  · intro h
    induction cs using List.reverseRecOn with
    | nil => rfl
    | append_singleton cs c _ =>
      rw [endsIn_concat] at h
      rw [dropEnd_concat, h]
      rfl

end Text

namespace Input

variable {l last s : String} {ls init pending : List String} {cs : List Char} {n : Nat}
  {events : List Event} {g : Gathered}

/-- A line as it comes out of an input: it is not broken, and there is no white space at its end. -/
structure IsTidy (l : String) : Prop where
  whole : '\n' ∉ l.toList
  ends : Text.endsIn Text.isBlank l.toList = false

instance : DecidablePred IsTidy := fun l =>
  decidable_of_iff ('\n' ∉ l.toList ∧ Text.endsIn Text.isBlank l.toList = false)
    ⟨fun h => ⟨h.1, h.2⟩, fun h => ⟨h.whole, h.ends⟩⟩

/-- A line as it is read when it is typed again. -/
def cleaned (l : String) : String := String.ofList (clean l.toList)

theorem isOpen_eq : isOpen cs = Text.endsIn (· == '\\') (Text.trimEndChars cs) := by
  unfold isOpen Text.endsIn
  cases (Text.trimEndChars cs).getLast? with
  | none => rfl
  | some c => exact Option.some_beq_some

theorem trimEndChars_backslash : Text.trimEndChars (cs ++ ['\\']) = cs ++ ['\\'] :=
  Text.dropEnd_eq_self_iff.mpr (Text.endsIn_concat.trans (by decide))

theorem isOpen_of_ends (h : Text.endsIn Text.isBlank cs = false) :
    isOpen cs = Text.endsIn (· == '\\') cs := by
  rw [isOpen_eq, show Text.trimEndChars cs = cs from Text.dropEnd_eq_self_iff.mpr h]

theorem isOpen_backslash : isOpen (cs ++ ['\\']) = true := by
  rw [isOpen_eq, trimEndChars_backslash, Text.endsIn_concat]
  rfl

theorem clean_eq (h : Text.endsIn Text.isBlank cs = false) :
    clean cs = Text.trimEndChars (Text.dropEnd (· == '\\') cs) := by
  rw [clean, show Text.trimEndChars cs = cs from Text.dropEnd_eq_self_iff.mpr h]

theorem clean_backslash (h : Text.endsIn Text.isBlank cs = false) :
    clean (cs ++ ['\\']) = clean cs := by
  rw [clean_eq h, clean, trimEndChars_backslash, Text.dropEnd_concat]
  rfl

theorem clean_isPrefix : clean cs <+: cs :=
  ((Text.dropEnd_isPrefix _ _).trans (Text.dropEnd_isPrefix _ _)).trans
    (Text.dropEnd_isPrefix _ _)

/-- Of a tidy line only a backslash at its end is lost. -/
theorem clean_eq_self_iff (h : Text.endsIn Text.isBlank cs = false) :
    clean cs = cs ↔ Text.endsIn (· == '\\') cs = false := by
  rw [clean_eq h, ← Text.dropEnd_eq_self_iff]
  constructor
  · intro heq
    refine (Text.dropEnd_isPrefix _ cs).eq_of_length_le ?_
    have hle := (Text.dropEnd_isPrefix Text.isBlank (Text.dropEnd (· == '\\') cs)).length_le
    rw [show Text.dropEnd Text.isBlank _ = cs from heq] at hle
    exact hle
  · intro heq
    rw [heq]
    exact Text.dropEnd_eq_self_iff.mpr h

theorem cleaned_eq_self_iff (h : IsTidy l) :
    cleaned l = l ↔ Text.endsIn (· == '\\') l.toList = false := by
  rw [← clean_eq_self_iff h.ends, cleaned, ← String.toList_inj, String.toList_ofList]

theorem isTidy_cleaned (h : '\n' ∉ cs) : IsTidy (String.ofList (clean cs)) where
  whole := by
    rw [String.toList_ofList]
    exact fun hmem => h (clean_isPrefix.subset hmem)
  ends := by
    rw [String.toList_ofList]
    exact Text.endsIn_dropEnd

theorem isTidy_of_mem_parts (h : l ∈ (parts s).1) : IsTidy l := by
  obtain ⟨piece, hpiece, rfl⟩ := List.mem_map.mp h
  exact isTidy_cleaned (Text.not_mem_of_mem_splitChars hpiece)

theorem clean_of_not_isOpen (h : isOpen cs = false) :
    clean cs = Text.trimEndChars cs ∧ Text.endsIn (· == '\\') (clean cs) = false := by
  rw [isOpen_eq] at h
  have hclean : clean cs = Text.trimEndChars cs := by
    rw [clean, Text.dropEnd_eq_self_iff.mpr h]
    exact Text.dropEnd_eq_self_iff.mpr Text.endsIn_dropEnd
  exact ⟨hclean, hclean ▸ h⟩

/-- If no other line is asked for, the last one has no backslash at its end. -/
theorem last_of_parts (h : (parts s).2 = false) :
    ∃ init last, (parts s).1 = init ++ [last] ∧ Text.endsIn (· == '\\') last.toList = false := by
  obtain ⟨pieces, piece, hpieces⟩ : ∃ pieces piece,
      Text.splitChars (· == '\n') s.toList = pieces ++ [piece] :=
    ⟨_, _, (List.dropLast_append_getLast Text.splitChars_ne_nil).symm⟩
  simp only [parts, hpieces, List.getLast?_concat, Option.map_some, Option.getD_some] at h ⊢
  refine ⟨_, _, List.map_append, ?_⟩
  rw [String.toList_ofList]
  exact (clean_of_not_isOpen h).2

/-- Lines that were put together into an input. -/
structure IsGathered (ls : List String) : Prop where
  tidy : ∀ l ∈ ls, IsTidy l
  closed : ∃ init last, ls = init ++ [last] ∧ Text.endsIn (· == '\\') last.toList = false

theorem isGathered_append_parts (hpending : ∀ l ∈ pending, IsTidy l) (h : (parts s).2 = false) :
    IsGathered (pending ++ (parts s).1) := by
  obtain ⟨init, last, hparts, hlast⟩ := last_of_parts h
  refine ⟨fun l hl => ?_, pending ++ init, last, by rw [hparts, List.append_assoc], hlast⟩
  exact (List.mem_append.mp hl).elim (hpending l) isTidy_of_mem_parts

theorem isGathered_of_mem_gather (hpending : ∀ l ∈ pending, IsTidy l)
    (hg : g ∈ gather pending n events) (hls : g.input = .lines ls) : IsGathered ls := by
  induction events generalizing pending n with
  | nil =>
    rw [gather] at hg
    split at hg
    · obtain rfl := List.mem_singleton.mp hg
      cases hls
    · obtain rfl | hg := List.mem_cons.mp hg
      · cases hls
      · obtain rfl := List.mem_singleton.mp hg
        cases hls
  | cons event rest ih =>
    -- Between two inputs nothing is pending.
    have hnext : g ∈ gather [] 0 rest → IsGathered ls := ih fun l hl => nomatch hl
    cases event with
    | line s =>
      rw [gather] at hg
      simp only at hg
      split at hg
      · refine ih (fun l hl => ?_) hg
        exact (List.mem_append.mp hl).elim (hpending l) isTidy_of_mem_parts
      · next hmore =>
        obtain rfl | hg := List.mem_cons.mp hg
        · obtain rfl := Input.lines.inj hls
          exact isGathered_append_parts hpending (Bool.eq_false_iff.mpr hmore)
        · exact hnext hg
    | interrupted | failed =>
      obtain rfl | hg := List.mem_cons.mp hg
      · cases hls
      · exact hnext hg
    | ended =>
      rw [gather] at hg
      split at hg
      · obtain rfl := List.mem_singleton.mp hg
        cases hls
      · obtain rfl | hg := List.mem_cons.mp hg
        · cases hls
        · exact hnext hg

theorem toList_retyped (init : List String) (last : String) :
    (retyped (init ++ [last])).toList =
      ['\n'].intercalate (init.map (fun l => l.toList ++ ['\\']) ++ [last.toList]) := by
  induction init with
  | nil => simp [retyped]
  | cons l init ih =>
    have hne : init ++ [last] ≠ [] := by simp
    have hne' : init.map (fun l => l.toList ++ ['\\']) ++ [last.toList] ≠ [] := by simp
    rw [retyped] at ih ⊢
    rw [List.cons_append, String.intercalate_cons_of_ne_nil hne, String.toList_append,
      String.toList_append, ih, List.map_cons, List.cons_append,
      List.intercalate_cons_of_ne_nil hne']
    simp

/-- Typed again in one piece, lines are read as they are, but for the backslashes at their ends. -/
theorem parts_retyped (hinit : ∀ l ∈ init, IsTidy l) (hlast : '\n' ∉ last.toList) :
    parts (retyped (init ++ [last])) =
      (init.map cleaned ++ [cleaned last], isOpen last.toList) := by
  have hpieces : Text.splitChars (· == '\n') (retyped (init ++ [last])).toList =
      init.map (fun l => l.toList ++ ['\\']) ++ [last.toList] := by
    rw [toList_retyped]
    refine Text.splitChars_intercalate (by simp) fun piece hpiece => ?_
    rcases List.mem_append.mp hpiece with hmem | hmem
    · obtain ⟨l, hl, rfl⟩ := List.mem_map.mp hmem
      simpa using (hinit l hl).whole
    · obtain rfl := List.mem_singleton.mp hmem
      exact hlast
  have hclean : init.map ((fun cs => String.ofList (clean cs)) ∘ fun l => l.toList ++ ['\\']) =
      init.map cleaned := by
    refine List.map_congr_left fun l hl => ?_
    rw [Function.comp_apply, clean_backslash (hinit l hl).ends, cleaned]
  simp only [parts, hpieces, List.getLast?_concat, Option.map_some, Option.getD_some,
    List.map_append, List.map_map, List.map_singleton, hclean, cleaned]

theorem all_line (h : (parts s).2 = false) (rest : List Event) :
    all (.line s :: rest) = ⟨.lines (parts s).1, 1⟩ :: all rest := by
  simp only [all, gather, h, List.nil_append]
  rfl

theorem IsGathered.all_retyped (h : IsGathered ls) (rest : List Event) :
    all (.line (retyped ls) :: rest) = ⟨.lines (ls.map cleaned), 1⟩ :: all rest := by
  obtain ⟨init, last, rfl, hopen⟩ := h.closed
  have hlast : IsTidy last := h.tidy last (by simp)
  have hclosed : isOpen last.toList = false := (isOpen_of_ends hlast.ends).trans hopen
  have hparts := parts_retyped (fun l hl => h.tidy l (List.mem_append_left _ hl)) hlast.whole
  rw [all_line (by rw [hparts, hclosed]), hparts, List.map_append, List.map_singleton]

theorem IsGathered.cleaned_eq_iff (h : IsGathered ls) :
    ls.map cleaned = ls ↔ ∀ l ∈ ls, Text.endsIn (· == '\\') l.toList = false := by
  have hmap : ls.map cleaned = ls ↔ ∀ l ∈ ls, cleaned l = l := by
    simpa using List.map_inj_left (f := cleaned) (g := id) (l := ls)
  rw [hmap]
  exact forall₂_congr fun l hl => cleaned_eq_self_iff (h.tidy l hl)

end Input

theorem Console.not_all_blank {ls : List String} (h : ∃ l ∈ ls, Text.trim l ≠ "") :
    ¬ (ls.all fun l => (Text.trim l).isEmpty) = true := by
  simpa using h

theorem Console.recalled_take {ls : List String} (h : ∃ l ∈ ls, Text.trim l ≠ "") (c : Console)
    (t : Transcript) : (c.take t ls).2.1.recalled = t.recalled ++ [Input.retyped ls] := by
  rw [take, if_neg (not_all_blank h)]
  simp only
  split
  · rfl
  · dsimp only
    split <;> rfl
  · rfl

namespace Input

/-- An input is kept as it would be typed in one piece. Read back without asking for more, it gives
the same lines exactly if none of them ends in a backslash; where one does, the backslash is
lost. -/
theorem retyped_reads_back (events : List Event) (g : Gathered) (ls : List String)
    (hg : g ∈ all events) (hls : g.input = .lines ls) :
    ((∃ l ∈ ls, Text.trim l ≠ "") →
      ∀ c t, (Console.take c t ls).2.1.recalled = t.recalled ++ [retyped ls]) ∧
    (∀ rest, all (.line (retyped ls) :: rest) = ⟨.lines (ls.map cleaned), 1⟩ :: all rest) ∧
    ((∀ rest, all (.line (retyped ls) :: rest) = ⟨.lines ls, 1⟩ :: all rest) ↔
      ∀ l ∈ ls, Text.endsIn (· == '\\') l.toList = false) := by
  have h : IsGathered ls := isGathered_of_mem_gather (fun _ hl => absurd hl List.not_mem_nil) hg hls
  refine ⟨Console.recalled_take, h.all_retyped, ?_⟩
  rw [← h.cleaned_eq_iff]
  constructor
  · intro hsame
    have hread := (h.all_retyped []).symm.trans (hsame [])
    exact Input.lines.inj (congrArg Gathered.input (List.cons.inj hread).1)
  · intro hsame rest
    rw [h.all_retyped, hsame]

/-- Two lines with white space after the first are read back as they were kept. -/
theorem retyped_reads_back_clues :
    let ls := ["Gain 1 clue.", "Gain 2 clues."]
    all [.line "Gain 1 clue. \\", .line "Gain 2 clues."] = [⟨.lines ls, 2⟩, ⟨.ended, 1⟩] ∧
      ∀ rest, all (.line "Gain 1 clue.\\\nGain 2 clues." :: rest) = ⟨.lines ls, 1⟩ :: all rest := by
  intro ls
  have hall : all [.line "Gain 1 clue. \\", .line "Gain 2 clues."] =
      [⟨.lines ls, 2⟩, ⟨.ended, 1⟩] := by decide +kernel
  refine ⟨hall, ?_⟩
  obtain ⟨-, -, hback⟩ := retyped_reads_back _ ⟨.lines ls, 2⟩ ls (hall ▸ List.mem_cons_self) rfl
  exact hback.mpr (by decide)

/-- A backslash before white space is kept in the line, and lost when the line is read back. -/
theorem retyped_loses_backslash :
    all [.line "Gain 1 combat\\ \\\nGain 2 clues."] =
      [⟨.lines ["Gain 1 combat\\", "Gain 2 clues."], 1⟩, ⟨.ended, 1⟩] ∧
    all [.line (retyped ["Gain 1 combat\\", "Gain 2 clues."])] =
      [⟨.lines ["Gain 1 combat", "Gain 2 clues."], 1⟩, ⟨.ended, 1⟩] := by
  decide +kernel

end Input

end RulesText
