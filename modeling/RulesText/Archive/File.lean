import RulesText.Archive.Reader
import RulesText.Files

/-! Archives in files. -/
namespace RulesText.Archive

def save (a : Archive) (fs : Files) (path : String) : Outcome Files := fs.write path a.pack

def load (fs : Files) (path : String) : Outcome Archive := do unpack (← fs.readBytes path)

end RulesText.Archive
