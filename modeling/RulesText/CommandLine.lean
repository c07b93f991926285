import RulesText.Console.Run

/-! The command line: options, files to process, and the console after them. -/
namespace RulesText

/-- What the arguments ask for. -/
structure Options where
  files : List String := []
  batch : Bool := false
  help : Bool := false
  version : Bool := false
  debug : Bool := false
  source : Option String := none
  extractionTags : List String := []
  collapseTags : List String := []
  collapse : Bool := false
  showTree : Bool := false
  showExport : Bool := false
  save : Option String := none
  deriving DecidableEq, Repr

namespace Options

/-- Tags between commas, in upper case. -/
def tagList (s : String) : List String :=
  (((Text.split (· == ',') s).map Text.trim).filter (!·.isEmpty)).map Text.Case.upper

/-- Reads the arguments one after the other; the first bad one is told. -/
def parse (o : Options) : List String → Except String Options
  | [] => .ok o
  | flag :: rest =>
    match flag with
    | "-h" | "--help" => parse { o with help := true } rest
    | "-V" | "--version" => parse { o with version := true } rest
    | "-b" | "--batch" => parse { o with batch := true } rest
    | "--debug" => parse { o with debug := true } rest
    | "--collapse" => parse { o with collapse := true } rest
    | "--tree" => parse { o with showTree := true } rest
    | "--export" => parse { o with showExport := true } rest
    | "-s" | "--source" =>
      match rest with
      | value :: rest => parse { o with source := some value } rest
      | [] => .error (flag ++ " requires a value")
    | "-x" | "--extract" =>
      match rest with
      | value :: rest => parse { o with extractionTags := o.extractionTags ++ tagList value } rest
      | [] => .error (flag ++ " requires a value")
    | "--collapse-tags" =>
      match rest with
      | value :: rest => parse { o with collapseTags := o.collapseTags ++ tagList value } rest
      | [] => .error (flag ++ " requires a value")
    | "--save" =>
      match rest with
      | value :: rest => parse { o with save := some value } rest
      | [] => .error (flag ++ " requires a value")
    | arg =>
      if arg.toList.head? == some '-' then .error ("unknown option: " ++ arg)
      else parse { o with files := o.files ++ [arg] } rest

/-- The settings of the session. -/
def settings (o : Options) : Settings :=
  let base : Settings := if o.debug then Settings.debug else {}
  { base with
    source := o.source.getD base.source
    policy := if o.collapse then .collapse else base.policy
    extractionTags := o.extractionTags
    collapseTags := o.collapseTags
    showTree := base.showTree || o.showTree
    showExport := base.showExport || o.showExport }

end Options

/-- The text of the help option. -/
def usageText : String :=
  let bold := Transcript.coloured "1"
  "\n".intercalate
    [bold "minilex" ++ " - Card text lexer, tree builder, and flattener",
      "",
      bold "USAGE:",
      "    minilex [OPTIONS] [FILES...]",
      "",
      bold "ARGUMENTS:",
      "    [FILES...]    Card texts to process, one per file, one text line per file line",
      "",
      bold "OPTIONS:",
      "    -h, --help              Print help information",
      "    -V, --version           Print version information",
      "    -b, --batch             Process files and exit (no REPL)",
      "    -s, --source NAME       Source tag texts are built under (default: card)",
      "    -x, --extract TAGS      Extract nodes with these comma-separated tags",
      "    --collapse-tags TAGS    Strip results from these extracted tags",
      "    --collapse              Drop condition markers from linear output",
      "    --tree                  Print the symbol tree before the sequence",
      "    --export                Print exports instead of lines",
      "    --save PATH             Save processed files as a MessagePack archive",
      "",
      bold "DEBUG OPTIONS:",
      "    --debug                 Show trees and exports, log at debug level",
      "    MINILEX_LOG=FILTER      Log filter, e.g. minilex_sequence=trace",
      "",
      bold "EXAMPLES:",
      "    minilex                             Start interactive REPL",
      "    minilex -b card.txt                 Flatten card.txt and exit",
      "    minilex -b -x GAIN,MAY card.txt     Extract GAIN and MAY nodes",
      "    minilex -s ability --collapse       REPL for ability texts, no markers",
      "",
      bold "REPL COMMANDS:",
      "    :help                Show all commands",
      "    :extract TAGS        Switch to extraction",
      "    :save PATH           Save processed inputs",
      "    Ctrl+D               Exit REPL",
      "    Ctrl+C               Cancel current input"]

/-- What a run of the program leaves behind. -/
structure Exit where
  code : Nat
  transcript : Transcript
  files : Files

namespace CommandLine

/-- Ends with an error. -/
def abort (t : Transcript) (fs : Files) (message : String) : Exit :=
  ⟨1, { t with stderr := t.stderr ++ Transcript.coloured "31" ("Error: " ++ message) ++ "\n" }, fs⟩

/-- Processes the files in order up to the first that fails. -/
def processFiles (c : Console) (t : Transcript) :
    List String → Console × Transcript × Option Fault
  | [] => (c, t, none)
  | path :: rest =>
    match (Console.evalFile path).run c with
    | (.error f, c) => (c, t, some f)
    | (.ok s, c) =>
      let title := Transcript.coloured "1;36" ("=== " ++ path ++ " ===")
      processFiles c ((t.print title).print s) rest

/-- Saves what was processed, if that is asked for. -/
def saveTo (c : Console) : Option String → Outcome Console
  | none => .ok c
  | some path => return { c with files := ← c.session.archive.save c.files path }

/-- Processes the files and then, unless in batch mode, the piped text. -/
def runWith (o : Options) (fs : Files) (stdin : String) : Exit :=
  match processFiles ⟨Session.new o.settings, fs⟩ {} o.files with
  | (c, t, some f) => abort t c.files f.message
  | (c, t, none) =>
    match saveTo c o.save with
    | .error f => abort t c.files f.message
    | .ok c =>
      if o.batch then ⟨0, t, c.files⟩
      else
        let (c, t) := c.run { banner := o.files.isEmpty } t (pipedEvents stdin)
        ⟨0, t, c.files⟩

/-- The paths of files that a run may read or write. -/
def paths (args : List String) (stdin : String) : List String :=
  match Options.parse {} args with
  | .error _ => []
  | .ok o => o.files ++ o.save.toList ++
    (Input.all (pipedEvents stdin)).filterMap fun g =>
      match g.input with
      | .lines [line] =>
        match Command.ofLine? line with
        | some (.ok (.save path)) | some (.ok (.load path)) => some path
        | _ => none
      | _ => none

/-- A run of the program with these arguments, files and piped text. -/
def run (args : List String) (fs : Files) (stdin : String) : Exit :=
  match Options.parse {} args with
  | .error message => abort {} fs message
  | .ok o =>
    if o.help then ⟨0, Transcript.print {} usageText, fs⟩
    else if o.version then ⟨0, Transcript.print {} "minilex 0.1.0", fs⟩
    else runWith o fs stdin

end CommandLine

end RulesText
