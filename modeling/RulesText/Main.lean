import RulesText.CommandLine

/-! The program: files and piped text are read, a run is made of them, and what it leaves is
written. -/
namespace RulesText.CommandLine

/-- The contents of a file that can be read. -/
def contents? (path : String) : IO (Option Bytes) := do
  try return some (← IO.FS.readBinFile path).toList
  catch _ => return none

/-- Whether there is a directory of this name. -/
def isThere (directory : String) : IO Bool := do
  try
    let _ ← IO.FS.Handle.mk directory .read
    return true
  catch _ => return false

/-- What a run can see under the given paths. -/
def look (paths : List String) : IO Files := do
  let entries ← paths.filterMapM fun path =>
    return (← contents? path).map (Files.resolve path, ·)
  let directories ← (paths.map Files.directory).filterM isThere
  return { entries, directories }

/-- Writes the files that are not as they were. -/
def keep (before after : Files) : IO Unit :=
  after.entries.forM fun (path, bs) =>
    if before.get? path == some bs then pure ()
    else IO.FS.writeBinFile path ⟨bs.toArray⟩

end RulesText.CommandLine

open RulesText in
/-- Runs the program on its arguments and on the text piped into it. -/
def main (args : List String) : IO UInt32 := do
  let stdin ← (← IO.getStdin).readToEnd
  let files ← CommandLine.look (CommandLine.paths args stdin)
  let exit := CommandLine.run args files stdin
  IO.print exit.transcript.stdout
  IO.eprint exit.transcript.stderr
  CommandLine.keep files exit.files
  return UInt32.ofNat exit.code
