import RulesText.Archive.Basic
import RulesText.Archive.Bytes
import RulesText.Archive.File
import RulesText.Archive.Packed
import RulesText.Archive.Reader
import RulesText.Archive.Writer
import RulesText.CardText
import RulesText.Cards.Casebook
import RulesText.Cards.Grammar
import RulesText.Cards.Layout
import RulesText.Cards.Lexicon
import RulesText.Cards.Variants
import RulesText.Casebook.Basic
import RulesText.Casebook.Plan
import RulesText.CommandLine
import RulesText.Console.Basic
import RulesText.Console.Command
import RulesText.Console.Input
import RulesText.Console.Run
import RulesText.Cursor
import RulesText.Datum
import RulesText.Effect
import RulesText.Fault
import RulesText.Files
import RulesText.Flatten.Emitter
import RulesText.Flatten.Extraction
import RulesText.Flatten.Flatness
import RulesText.Flatten.Handler
import RulesText.Flatten.Layout
import RulesText.Flatten.Script
import RulesText.Flatten.Sequence
import RulesText.Inspect
import RulesText.Lexicon.Basic
import RulesText.Lexicon.Recipe
import RulesText.Line
import RulesText.Numeral
import RulesText.Pattern.Basic
import RulesText.Pattern.CharSet
import RulesText.Pattern.Matcher
import RulesText.Pattern.Reader
import RulesText.Pattern.Search
import RulesText.Session
import RulesText.Sink
import RulesText.Staged
import RulesText.Symbol
import RulesText.TagSet
import RulesText.Text.Blank
import RulesText.Text.Case.Fold
import RulesText.Text.Case.Lower
import RulesText.Text.Case.Sigma
import RulesText.Text.Case.Upper
import RulesText.Text.Digit
import RulesText.Text.Normal
import RulesText.Text.Quoted
import RulesText.Text.Ranges
import RulesText.Text.Trim
import RulesText.Text.Visible
import RulesText.Text.Word
import RulesText.Tree
import RulesText.Value
import RulesText.Variant
import RulesText.Main
import RulesText.Proofs.Emission
import RulesText.Proofs.Outline
import RulesText.Proofs.Linearization
import RulesText.Proofs.Frames
import RulesText.Proofs.Nesting
import RulesText.Proofs.Collapse
import RulesText.Proofs.Pruning
import RulesText.Proofs.SinkRuns
import RulesText.Proofs.Occurrence
import RulesText.Proofs.Conservation
import RulesText.Proofs.Extraction
import RulesText.Proofs.Flatness
import RulesText.Proofs.Failure
import RulesText.Proofs.Ways
import RulesText.Proofs.ShortestLead
import RulesText.Proofs.Slack
import RulesText.Proofs.Lowering
import RulesText.Proofs.Reading
import RulesText.Proofs.CardTrees
import RulesText.Proofs.Descent
import RulesText.Proofs.Extension
import RulesText.Proofs.HeldRegions
import RulesText.Proofs.Packing
import RulesText.Proofs.RoundTrip
import RulesText.Proofs.Effects
import RulesText.Proofs.History
import RulesText.Proofs.SessionRuns
import RulesText.Proofs.Turns
import RulesText.Proofs.Saving
import RulesText.Proofs.Staging
import RulesText.Proofs.Stripping
import RulesText.Proofs.Balance
import RulesText.Proofs.Stability
import RulesText.Proofs.Provenance
import RulesText.Proofs.Truncation
import RulesText.Proofs.Choices
import RulesText.Proofs.Recall
import RulesText.Proofs.RecordedTags
import RulesText.Proofs.FirstCondition
import RulesText.Proofs.Fallback
import RulesText.Proofs.TypedFiles
import RulesText.Proofs.FaultPaths
import RulesText.Proofs.NotApplicable
import RulesText.Proofs.Numerals
import RulesText.Proofs.ParameterLines
import RulesText.Proofs.Parameters
