import Mathlib.Data.List.Forall2
import RulesText.CommandLine
import RulesText.Proofs.History
import RulesText.Proofs.Packing
import RulesText.Proofs.Turns

/-!
Saving: what a run leaves of the card files it has processed. The archive holds what the session
remembers, so of a long list of files only the last ones are saved.
-/
namespace RulesText

theorem Text.splitChars_of_not_mem {p : Char → Bool} {cs : List Char} (h : ∀ c ∈ cs, p c = false) :
    Text.splitChars p cs = [cs] := by
  induction cs with
  | nil => rfl
  | cons c rest ih =>
    rw [Text.splitChars, ih fun c hc => h c (.tail _ hc)]
    simp only [h c (.head _), Bool.false_eq_true, if_false]

/-- A name without a slash leads to itself, unless it is the step that stays. -/
theorem Files.resolve_name {name : String} (hslash : '/' ∉ name.toList) (hdot : name ≠ ".") :
    Files.resolve name = name := by
  have hsplit : Text.split (· == '/') name = [name] := by
    rw [Text.split, Text.splitChars_of_not_mem, List.map_singleton, String.ofList_toList]
    exact fun c hc => beq_false_of_ne fun heq => hslash (heq ▸ hc)
  rw [Files.resolve, hsplit, List.filter_singleton, bne_iff_ne.mpr hdot, cond_true,
    String.intercalate_singleton]

/-- Arguments that do not look like options are files. -/
theorem Options.parse_files {o : Options} {names : List String}
    (h : ∀ name ∈ names, name.toList.head? ≠ some '-') :
    Options.parse o names = .ok { o with files := o.files ++ names } := by
  induction names generalizing o with
  | nil =>
    rw [List.append_nil]
    rfl
  | cons name names ih =>
    have hname := h name (.head _)
    have hrest := ih (o := { o with files := o.files ++ [name] }) fun name hn => h name (.tail _ hn)
    rw [List.append_assoc, List.singleton_append] at hrest
    unfold Options.parse
    split
    -- Every option begins with a dash.
    all_goals first
      | exact absurd rfl hname
      | rw [beq_false_of_ne hname]; exact hrest

theorem Files.get?_put (fs : Files) (path : String) (bs : Bytes) :
    (fs.put path bs).get? path = some bs := by
  rw [Files.get?, Files.put, List.lookup_cons, beq_self_eq_true]

namespace CommandLine

variable {o : Options} {settings : Settings} {fs : Files} {args files : List String}
  {path stdin : String} {e : Entry} {es : List Entry}

/-- A card file that is read and processed under some settings, with its entry: the source of the
settings, the lines of the file and what they were flattened into. -/
def FileEntry (settings : Settings) (fs : Files) (path : String) (e : Entry) : Prop :=
  ∃ text tree q, fs.readText path = .ok text ∧
    settings.grammar.process (.lines (Text.lines text)) settings.source settings.policy =
      .ok (tree, q) ∧
    e = ⟨settings.source, Text.lines text, q.datum⟩

/-- The console in which these entries have been made. -/
def consoleWith (settings : Settings) (fs : Files) (es : List Entry) : Console :=
  ⟨(Session.new settings).remembering es, fs⟩

theorem consoleWith_nil : consoleWith settings fs [] = ⟨Session.new settings, fs⟩ := by
  rw [consoleWith, Session.remembering, List.rtake_nil]
  rfl

theorem evalFile_consoleWith (before : List Entry) (h : FileEntry settings fs path e) :
    ∃ s, (Console.evalFile path).run (consoleWith settings fs before) =
      (.ok s, consoleWith settings fs (before ++ [e])) := by
  obtain ⟨text, tree, q, hread, hprocess, rfl⟩ := h
  have hsession : (Session.process (.lines (Text.lines text))).run
      ((Session.new settings).remembering before) =
      (.ok (tree, q), (Session.new settings).remembering
        (before ++ [⟨settings.source, Text.lines text, q.datum⟩])) := by
    rw [← Session.record_remembering]
    exact Session.process_of_ok hprocess
  refine ⟨settings.render tree q, ?_⟩
  rw [Console.evalFile_of_ok hread]
  exact Console.process_of_ok (c := consoleWith settings fs before) hsession

/-- Files are processed one after the other, and each adds its entry. -/
theorem processFiles_consoleWith (before : List Entry) (t : Transcript)
    (h : List.Forall₂ (FileEntry settings fs) files es) :
    ∃ t', processFiles (consoleWith settings fs before) t files =
      (consoleWith settings fs (before ++ es), t', none) := by
  induction h generalizing before t with
  | nil => exact ⟨t, by rw [List.append_nil, processFiles]⟩
  | @cons path e files es hfile _ ih =>
    obtain ⟨s, hs⟩ := evalFile_consoleWith before hfile
    obtain ⟨t', ht⟩ := ih (before ++ [e])
      ((t.print (Transcript.coloured "1;36" ("=== " ++ path ++ " ==="))).print s)
    refine ⟨t', ?_⟩
    rw [List.append_assoc, List.singleton_append] at ht
    rw [processFiles, hs]
    exact ht

/-- What a run does after its files: nothing in batch mode, and else it takes what is piped in. -/
def afterFiles (o : Options) (stdin : String) (c : Console) (t : Transcript) : Exit :=
  if o.batch then ⟨0, t, c.files⟩
  else
    let (c, t) := c.run { banner := o.files.isEmpty } t (pipedEvents stdin)
    ⟨0, t, c.files⟩

/-- What asks for a save of card files in a run, and what lets it succeed. -/
structure Saves (args : List String) (fs : Files) (o : Options) (path : String) : Prop where
  parse : Options.parse {} args = .ok o
  help : o.help = false
  version : o.version = false
  save : o.save = some path
  place : ((fs.get? path).isSome || fs.isOpen path) = true

/-- The archive is written as soon as the files have been processed. -/
theorem Saves.run_eq (h : Saves args fs o path)
    (hfiles : List.Forall₂ (FileEntry o.settings fs) o.files es) (stdin : String) :
    ∃ t, run args fs stdin = afterFiles o stdin
      ⟨(Session.new o.settings).remembering es,
        fs.put path (Archive.pack { entries := es.rtake o.settings.historySize })⟩ t := by
  obtain ⟨t, ht⟩ := processFiles_consoleWith [] {} hfiles
  rw [consoleWith_nil, List.nil_append] at ht
  have hsaved : saveTo (consoleWith o.settings fs es) o.save = .ok
      ⟨(Session.new o.settings).remembering es,
        fs.put path (Archive.pack { entries := es.rtake o.settings.historySize })⟩ := by
    have hwrite : ∀ bs, fs.write path bs = .ok (fs.put path bs) := fun _ => if_pos h.place
    rw [h.save, saveTo, consoleWith, Archive.save, hwrite]
    rfl
  refine ⟨t, ?_⟩
  rw [run, h.parse]
  simp only [h.help, h.version, Bool.false_eq_true, if_false]
  rw [runWith, ht]
  simp only [hsaved, afterFiles]

theorem historySize_settings (o : Options) :
    o.settings.historySize = if o.debug then 200 else 100 := by
  unfold Options.settings
  cases o.debug <;> rfl

theorem rtake_eq_self_iff {n : Nat} : es.rtake n = es ↔ es.length ≤ n := by
  constructor
  · intro h
    have hlen := congrArg List.length h
    rw [List.rtake, List.length_drop] at hlen
    omega
  · intro h
    rw [List.rtake, Nat.sub_eq_zero_of_le h, List.drop_zero]

/-- A name that is neither an option nor a path through a directory. -/
structure IsFileName (name : String) : Prop where
  plain : name.toList.head? ≠ some '-'
  single : '/' ∉ name.toList
  proper : name ≠ "."

/-- A directory in which all card files hold the same line. -/
def clueCards (names : List String) : Files :=
  { entries := names.map (·, Bytes.ofText "gain 1 clue\n") }

/-- The arguments of a batch that is saved. -/
def batchArgs (names : List String) : List String := ["-b", "--save", "out"] ++ names

/-- What those arguments ask for. -/
def batchOptions (names : List String) : Options :=
  { files := names, batch := true, save := some "out" }

theorem readText_clueCards {names : List String} (hname : IsFileName path) (h : path ∈ names) :
    (clueCards names).readText path = .ok "gain 1 clue\n" := by
  have hlookup : (clueCards names).get? path = some (Bytes.ofText "gain 1 clue\n") := by
    rw [Files.get?, Files.resolve_name hname.single hname.proper, clueCards]
    induction names with
    | nil => cases h
    | cons name names ih =>
      rw [List.map_cons, List.lookup_cons]
      by_cases heq : path = name
      · rw [heq, beq_self_eq_true]
      · rw [beq_false_of_ne heq]
        exact ih ((List.mem_cons.mp h).resolve_left heq)
  rw [Files.readText, hlookup]
  simp only [Bytes.text?_ofText]

/-- All files of the batch are processed, and each has an entry. -/
theorem exists_batch_entries (names : List String) (hnames : ∀ name ∈ names, IsFileName name) :
    ∃ es, List.Forall₂ (FileEntry (batchOptions names).settings (clueCards names))
      (batchOptions names).files es := by
  have hok : ((Settings.grammar {}).process (.lines (Text.lines "gain 1 clue\n")) "card"
      .expand).isOk = true := by decide +kernel
  cases hprocess : (Settings.grammar {}).process (.lines (Text.lines "gain 1 clue\n")) "card"
      .expand with
  | error f => rw [hprocess] at hok; cases hok
  | ok r =>
    refine ⟨names.map fun _ => ⟨"card", Text.lines "gain 1 clue\n", r.2.datum⟩, ?_⟩
    rw [List.forall₂_map_right_iff]
    refine List.forall₂_same.mpr fun name hname => ?_
    exact ⟨_, r.1, r.2, readText_clueCards (hnames name hname) hname, hprocess, rfl⟩

theorem saves_batch (names : List String) (hnames : ∀ name ∈ names, IsFileName name) :
    Saves (batchArgs names) (clueCards names) (batchOptions names) "out" where
  parse := by
    change Options.parse { batch := true, save := some "out" } names = _
    rw [Options.parse_files fun name hname => (hnames name hname).plain]
    rfl
  help := rfl
  version := rfl
  save := rfl
  place := by
    have hroot : (Files.directory "out").isEmpty = true := by decide +kernel
    have hname : (Files.resolve "out").isEmpty = false := by decide +kernel
    rw [Bool.or_eq_true_iff, Files.isOpen, hroot, hname]
    exact .inr rfl

/-- Numbered card files. -/
def cardNames (n : Nat) : List String := (List.range n).map fun i => "card" ++ toString i

theorem isFileName_of_mem_cardNames {n : Nat} : ∀ name ∈ cardNames n, IsFileName name := by
  intro name hname
  obtain ⟨i, -, rfl⟩ := List.mem_map.mp hname
  have hchars : ("card" ++ toString i).toList = 'c' :: 'a' :: 'r' :: 'd' :: Nat.toDigits 10 i := by
    rw [String.toList_append]
    exact congrArg (['c', 'a', 'r', 'd'] ++ ·) Nat.toList_repr
  refine ⟨?_, ?_, ?_⟩
  · rw [hchars, List.head?_cons]
    decide
  · rw [hchars]
    intro hslash
    have hdigit : '/' ∈ Nat.toDigits 10 i := by simpa using hslash
    exact absurd (Nat.isDigit_of_mem_toDigits (by decide) (by decide) hdigit) (by decide)
  · intro hdot
    rw [hdot] at hchars
    cases hchars

/-- If every card file is read and processed, the archive that a run saves holds the entries of the
last files in order. It holds one for each file exactly if there are no more files than the session
remembers. -/
theorem run_saves_last_files (h : Saves args fs o path)
    (hfiles : List.Forall₂ (FileEntry o.settings fs) o.files es) (stdin : String) :
    ∃ archive : Archive, ∃ t,
      run args fs stdin = afterFiles o stdin
        ⟨(Session.new o.settings).remembering es, fs.put path archive.pack⟩ t ∧
      archive.version = archiveVersion ∧
      archive.entries = es.rtake (if o.debug then 200 else 100) ∧
      (archive.entries = es ↔ o.files.length ≤ if o.debug then 200 else 100) := by
  obtain ⟨t, ht⟩ := h.run_eq hfiles stdin
  refine ⟨_, t, ht, rfl, ?_, ?_⟩
  · rw [historySize_settings]
  · rw [historySize_settings, rtake_eq_self_iff, hfiles.length_eq]

theorem run_saves_two_cards :
    ∃ archive : Archive,
      (run (batchArgs (cardNames 2)) (clueCards (cardNames 2)) "").files.get? "out" =
        some archive.pack ∧
      archive.entries.length = 2 := by
  obtain ⟨es, hes⟩ := exists_batch_entries (cardNames 2) isFileName_of_mem_cardNames
  obtain ⟨archive, t, hrun, -, -, hall⟩ :=
    run_saves_last_files (saves_batch (cardNames 2) isFileName_of_mem_cardNames) hes ""
  refine ⟨archive, ?_, ?_⟩
  · rw [hrun]
    exact Files.get?_put _ _ _
  · rw [hall.mpr (by decide), ← hes.length_eq]
    rfl

/-- The oldest of a hundred and one cards is not in the archive. -/
theorem run_drops_oldest_card :
    ∃ es, ∃ archive : Archive,
      List.Forall₂ (FileEntry {} (clueCards (cardNames 101))) (cardNames 101) es ∧
      (run (batchArgs (cardNames 101)) (clueCards (cardNames 101)) "").code = 0 ∧
      (run (batchArgs (cardNames 101)) (clueCards (cardNames 101)) "").files.get? "out" =
        some archive.pack ∧
      archive.entries = es.drop 1 ∧ archive.entries.length < es.length := by
  obtain ⟨es, hes⟩ := exists_batch_entries (cardNames 101) isFileName_of_mem_cardNames
  obtain ⟨t, hrun⟩ := (saves_batch (cardNames 101) isFileName_of_mem_cardNames).run_eq hes ""
  have hlen : es.length = 101 := by
    rw [← hes.length_eq, batchOptions, cardNames, List.length_map, List.length_range]
  have hlast : es.rtake (batchOptions (cardNames 101)).settings.historySize = es.drop 1 := by
    rw [historySize_settings, List.rtake, hlen]
    rfl
  rw [hlast] at hrun
  refine ⟨es, { entries := es.drop 1 }, hes, ?_, ?_, rfl, ?_⟩
  · rw [hrun]
    rfl
  · rw [hrun]
    exact Files.get?_put _ _ _
  · rw [List.length_drop]
    omega

end CommandLine

end RulesText
