import RulesText.Proofs.Packing
import RulesText.Proofs.Recall
import RulesText.Proofs.Turns

/-!
Typed files: the lines of a card may stand in a file, or they may be typed as one input, with a
backslash after every line but the last. Either way the card text is the same, and so is all that
comes of it.
-/
namespace RulesText

variable {l : String} {ls piece : List String} {pieces : List (List String)}

/-- A tidy line that does not ask for another one. -/
structure Input.IsClosed (l : String) : Prop extends Input.IsTidy l where
  closed : Text.endsIn (· == '\\') l.toList = false

instance : DecidablePred Input.IsClosed := fun l =>
  decidable_of_iff (Input.IsTidy l ∧ Text.endsIn (· == '\\') l.toList = false)
    ⟨fun h => ⟨h.1, h.2⟩, fun h => ⟨h.toIsTidy, h.closed⟩⟩

namespace Text

/-- The contents of a file with these lines. -/
def filed (ls : List String) : String := String.join (ls.map (· ++ "\n"))

theorem toList_filed (ls : List String) :
    (filed ls).toList = ['\n'].intercalate (ls.map String.toList ++ [[]]) := by
  induction ls with
  | nil => rfl
  | cons l ls ih =>
    have hne : ls.map String.toList ++ [[]] ≠ [] := by simp
    rw [List.map_cons, List.cons_append, List.intercalate_cons_of_ne_nil hne, ← ih]
    simp [filed, String.toList_join]

/-- Lines that are not broken and have no white space at their ends are read off the file as they
are. -/
theorem lines_filed (h : ∀ l ∈ ls, Input.IsTidy l) : lines (filed ls) = ls := by
  have hpieces : splitChars (· == '\n') (filed ls).toList = ls.map String.toList ++ [[]] := by
    rw [toList_filed]
    refine splitChars_intercalate (by simp) fun piece hpiece => ?_
    rcases List.mem_append.mp hpiece with hmem | hmem
    · obtain ⟨l, hl, rfl⟩ := List.mem_map.mp hmem
      exact (h l hl).whole
    · obtain rfl := List.mem_singleton.mp hmem
      exact List.not_mem_nil
  simp only [lines, hpieces, List.dropLast_concat, List.getLast?_concat, Option.getD_some,
    List.isEmpty_nil, if_true, List.append_nil, List.map_map]
  refine (List.map_congr_left fun l hl => ?_).trans (List.map_id ls)
  simp only [Function.comp_apply]
  split
  · next rest hreverse =>
    -- A carriage return is white space, so it does not stand at the end of a line.
    have hends := (h l hl).ends
    rw [← l.toList.reverse_reverse, hreverse, List.reverse_cons, endsIn_concat] at hends
    exact absurd hends (by decide)
  · exact String.ofList_toList

end Text

namespace Input

/-- The readings of lines that are typed as one input. Each piece is read at once, and all but the
last end in a backslash. -/
def continued : List (List String) → List Event
  | [] => []
  | [piece] => [.line (retyped piece)]
  | piece :: next :: rest => .line (retyped piece ++ "\\") :: continued (next :: rest)

theorem IsClosed.cleaned_eq (h : IsClosed l) : cleaned l = l :=
  (cleaned_eq_self_iff h.toIsTidy).mpr h.closed

theorem retyped_append (init : List String) (last s : String) :
    retyped (init ++ [last]) ++ s = retyped (init ++ [last ++ s]) := by
  unfold retyped
  induction init with
  | nil => simp
  | cons l init ih =>
    rw [List.cons_append, List.cons_append, String.intercalate_cons_of_ne_nil (by simp),
      String.intercalate_cons_of_ne_nil (by simp), String.append_assoc, ih]

theorem parts_piece (hne : piece ≠ []) (h : ∀ l ∈ piece, IsClosed l) :
    parts (retyped piece) = (piece, false) ∧ parts (retyped piece ++ "\\") = (piece, true) := by
  obtain ⟨init, last, rfl⟩ : ∃ init last, piece = init ++ [last] :=
    ⟨_, _, (List.dropLast_append_getLast hne).symm⟩
  have hinit : ∀ l ∈ init, IsClosed l := fun l hl => h l (List.mem_append_left _ hl)
  have hlast : IsClosed last := h last (by simp)
  have hsame : init.map cleaned = init := by
    simpa using List.map_inj_left (f := cleaned) (g := id).mpr fun l hl => (hinit l hl).cleaned_eq
  constructor
  · rw [parts_retyped (fun l hl => (hinit l hl).toIsTidy) hlast.whole, hsame, hlast.cleaned_eq,
      isOpen_of_ends hlast.ends, hlast.closed]
  · have hopen : cleaned (last ++ "\\") = last := by
      rw [cleaned, String.toList_append]
      exact (congrArg String.ofList (clean_backslash hlast.ends)).trans hlast.cleaned_eq
    have hwhole : '\n' ∉ (last ++ "\\").toList := by simpa using hlast.whole
    rw [retyped_append, parts_retyped (fun l hl => (hinit l hl).toIsTidy) hwhole, hsame, hopen,
      String.toList_append]
    exact congrArg _ isOpen_backslash

theorem gather_continued {pending : List String} {n : Nat} (hne : pieces ≠ [])
    (hpieces : ∀ piece ∈ pieces, piece ≠ []) (h : ∀ l ∈ pieces.flatten, IsClosed l)
    (rest : List Event) :
    gather pending n (continued pieces ++ rest) =
      ⟨.lines (pending ++ pieces.flatten), n + pieces.length⟩ :: all rest := by
  induction pieces generalizing pending n with
  | nil => exact absurd rfl hne
  | cons piece more ih =>
    obtain ⟨hpiece, hmore⟩ := List.forall_mem_cons.mp hpieces
    have hparts := parts_piece hpiece fun l hl => h l (List.mem_append_left _ hl)
    cases more with
    | nil =>
      simp only [continued, List.singleton_append, gather, hparts.1, List.flatten_singleton]
      rfl
    | cons next more =>
      simp only [continued, List.cons_append, gather, hparts.2, if_true]
      rw [ih (by simp) hmore fun l hl => h l (List.mem_append_right _ hl)]
      simp [Nat.add_assoc, Nat.add_comm]

end Input

theorem Command.ofLines?_eq_none
    (h : ∀ l, ls = [l] → (Text.trim l).toList.head? ≠ some ':') : ofLines? ls = none := by
  unfold ofLines?
  split
  · next l =>
    have hhead := h l rfl
    rw [Text.trim, String.toList_ofList] at hhead
    unfold ofLine?
    split
    · next rest htrim => exact absurd (by rw [htrim]; rfl) hhead
    · rfl
  · rfl

/-- What is shown of the outcome of a card text. -/
def Transcript.tell (t : Transcript) : Outcome String → Transcript
  | .ok s => if s.isEmpty then t else t.print s
  | .error f => t.report f

namespace Console

variable {c c' : Console} {o : Outcome String}

theorem evalLines_of_process (hcommand : Command.ofLines? ls = none)
    (h : (process ls).run c = (o, c')) : (evalLines ls).run c = (o.map .text, c') := by
  simp only [evalLines, hcommand]
  cases o with
  | ok s => exact Effect.run_bind_of_ok h
  | error f => exact Effect.run_bind_of_fault h

theorem take_of_process (hvisible : ∃ l ∈ ls, Text.trim l ≠ "")
    (hcommand : Command.ofLines? ls = none) (h : (process ls).run c = (o, c')) (t : Transcript) :
    c.take t ls =
      (c', { t with recalled := t.recalled ++ [Input.retyped ls] }.tell o, true) := by
  rw [take, if_neg (not_all_blank hvisible), evalLines_of_process hcommand h]
  cases o <;> rfl

theorem process_of_error {f : Fault}
    (h : (Session.process (.lines ls)).run c.session = (.error f, c.session)) :
    (process ls).run c = (.error f, c) := by
  rw [process, Effect.run_bind_of_fault (run_onSession h)]

theorem loop_lines {phrases : Phrases} {t t' : Transcript} {inputs : List Gathered} {n : Nat}
    (h : c.take { t with prompts := t.prompts ++
      phrases.prompt :: List.replicate (n - 1) phrases.continuation } ls = (c', t', true)) :
    loop phrases c t (⟨.lines ls, n⟩ :: inputs) = loop phrases c' t' inputs := by
  simp only [loop, h]

/-- Lines that are typed as one input and a file with these lines have the same outcome. The console
shows it and goes on as the file leaves it: with one more entry in its history, or as it was if the
text cannot be processed. -/
theorem typed_agrees_with_file (c : Console) (path : String) (pieces : List (List String))
    (hpieces : ∀ piece ∈ pieces, piece ≠ []) (hlines : ∀ l ∈ pieces.flatten, Input.IsClosed l)
    (hvisible : ∃ l ∈ pieces.flatten, Text.trim l ≠ "")
    (hcommand : ∀ l, pieces.flatten = [l] → (Text.trim l).toList.head? ≠ some ':')
    (hfile : c.files.readText path = .ok (Text.filed pieces.flatten)) :
    let ls := pieces.flatten
    let s := c.session
    ∃ o c', (evalFile path).run c = (o, c') ∧ (evalLines ls).run c = (o.map .text, c') ∧
      (∀ phrases t rest, loop phrases c t (Input.all (Input.continued pieces ++ rest)) =
        loop phrases c' (Transcript.tell { t with
          prompts := t.prompts ++
            phrases.prompt :: List.replicate (pieces.length - 1) phrases.continuation
          recalled := t.recalled ++ [Input.retyped ls] } o) (Input.all rest)) ∧
      (∀ tree q, s.grammar.process (.lines ls) s.settings.source s.settings.policy =
          .ok (tree, q) → o = .ok (s.settings.render tree q) ∧
        c' = { c with session := s.record ⟨s.settings.source, ls, q.datum⟩ }) ∧
      ∀ f, s.grammar.process (.lines ls) s.settings.source s.settings.policy = .error f →
        o = .error f ∧ c' = c := by
  intro ls s
  have hne : pieces ≠ [] := by
    rintro rfl
    obtain ⟨l, hl, -⟩ := hvisible
    exact List.not_mem_nil hl
  have hnone : Command.ofLines? ls = none := Command.ofLines?_eq_none hcommand
  cases hrun : (process ls).run c with
  | mk o c' =>
    refine ⟨o, c', ?_, evalLines_of_process hnone hrun, fun phrases t rest => ?_, ?_, ?_⟩
    · rw [evalFile_of_ok hfile, Text.lines_filed fun l hl => (hlines l hl).toIsTidy]
      exact hrun
    · rw [Input.all, Input.gather_continued hne hpieces hlines, Nat.zero_add]
      exact loop_lines (take_of_process hvisible hnone hrun _)
    · intro tree q hprocess
      have hok := process_of_ok (Session.process_of_ok hprocess)
      obtain ⟨rfl, rfl⟩ := Prod.mk.inj (hrun.symm.trans hok)
      exact ⟨rfl, rfl⟩
    · intro f hprocess
      have herror := process_of_error (Session.process_of_error hprocess)
      obtain ⟨rfl, rfl⟩ := Prod.mk.inj (hrun.symm.trans herror)
      exact ⟨rfl, rfl⟩

/-- Three lines in two pieces, one of them blank and one indented. -/
def cluePieces : List (List String) :=
  [["Gain 1 clue.", ""], ["  Gain 2 clues."]]

/-- A console that sees a file with these lines. -/
def clueConsole : Console :=
  ⟨.new {}, { entries := [("card", Bytes.ofText (Text.filed cluePieces.flatten))] }⟩

theorem readText_clueConsole :
    clueConsole.files.readText "card" = .ok (Text.filed cluePieces.flatten) := by
  have hname : Files.resolve "card" = "card" := by decide +kernel
  have hget : clueConsole.files.get? "card" =
      some (Bytes.ofText (Text.filed cluePieces.flatten)) := by
    rw [Files.get?, hname]
    rfl
  rw [Files.readText, hget]
  simp only [Bytes.text?_ofText]

theorem typed_agrees_with_file_clues :
    ∃ o c', (evalFile "card").run clueConsole = (o, c') ∧
      (evalLines cluePieces.flatten).run clueConsole = (o.map .text, c') ∧
      c'.session.history.map (·.text) = [cluePieces.flatten] := by
  let s := clueConsole.session
  have hok : (s.grammar.process (.lines cluePieces.flatten) s.settings.source
      s.settings.policy).isOk = true := by decide +kernel
  have hlength : cluePieces.flatten.length ≠ 1 := by decide
  obtain ⟨o, c', hfile, htyped, -, hprocess, -⟩ := typed_agrees_with_file clueConsole "card"
    cluePieces (by decide) (by decide +kernel) (by decide +kernel)
    (fun l hl => absurd (congrArg List.length hl) hlength) readText_clueConsole
  refine ⟨o, c', hfile, htyped, ?_⟩
  cases hprocessed : s.grammar.process (.lines cluePieces.flatten) s.settings.source
      s.settings.policy with
  | ok r =>
    rw [(hprocess r.1 r.2 hprocessed).2]
    rfl
  | error f =>
    rw [hprocessed] at hok
    cases hok

end Console

end RulesText
