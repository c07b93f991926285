import RulesText.Archive.Bytes
import RulesText.Fault
import RulesText.Text.Trim

/-! Files: what a run can see of the contents of a working directory. -/
namespace RulesText

/-- Named contents, and the directories in which further files can be created beside the working
directory itself. -/
structure Files where
  entries : List (String × Bytes) := []
  directories : List String := []

namespace Files

/-- What is said of a file that is not there. -/
def notFound : String := "No such file or directory (os error 2)"

/-- What is said of a file that is not text. -/
def notText : String := "stream did not contain valid UTF-8"

/-- What is said when something cannot be done with a file. -/
def complaint (action path reason : String) : Cause :=
  .device ("failed to " ++ action ++ " file '" ++ path ++ "': " ++ reason)

/-- A path without the steps that stay where they are. -/
def resolve (path : String) : String :=
  "/".intercalate ((Text.split (· == '/') path).filter (· != "."))

/-- The directory that a path leads into, with its last slash; it is empty for the working
directory. -/
def directory (path : String) : String :=
  String.ofList (Text.dropEnd (· != '/') (resolve path).toList)

/-- The contents of a file. -/
def get? (fs : Files) (path : String) : Option Bytes := fs.entries.lookup (resolve path)

/-- Sets the contents of a file. -/
def put (fs : Files) (path : String) (bs : Bytes) : Files :=
  { fs with entries := (resolve path, bs) :: fs.entries.filter (·.1 != resolve path) }

/-- Whether a file can be created under a path: its directory is the working directory, or it is
known, or it holds a file. -/
def isOpen (fs : Files) (path : String) : Bool :=
  !(resolve path).isEmpty &&
    ((directory path).isEmpty || fs.directories.contains (directory path) ||
      fs.entries.any (directory ·.1 == directory path))

/-- Writes a file in place of an earlier one. A file in a directory that does not exist cannot be
created. -/
def write (fs : Files) (path : String) (bs : Bytes) : Outcome Files :=
  if (fs.get? path).isSome || fs.isOpen path then .ok (fs.put path bs)
  else fail (complaint "create" path notFound)

/-- Reads a file as raw data. -/
def readBytes (fs : Files) (path : String) : Outcome Bytes :=
  match fs.get? path with
  | some bs => .ok bs
  | none => fail (complaint "open" path notFound)

/-- Reads a file as text. -/
def readText (fs : Files) (path : String) : Outcome String :=
  match fs.get? path with
  | none => fail (complaint "read" path notFound)
  | some bs =>
    match bs.text? with
    | some s => .ok s
    | none => fail (complaint "read" path notText)

end Files

end RulesText
