import RulesText.Flatten.Sequence

/-! Archives: processed card texts, kept for inspection. -/
namespace RulesText

/-- A processed card text: its source, its lines and what it was flattened into. -/
structure Entry where
  source : String
  text : List String
  sequence : Datum
  deriving DecidableEq

/-- The version of the archives written here. -/
def archiveVersion : UInt32 := 1

/-- A version and entries in the order of processing. -/
structure Archive where
  version : UInt32 := archiveVersion
  entries : List Entry
  deriving DecidableEq

/-- The entry of a sequence. -/
def Sequence.entry (s : Sequence) : Entry := ⟨s.source, s.text.toLines, s.datum⟩

end RulesText
