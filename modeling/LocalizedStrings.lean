import LocalizedStrings.Main
import LocalizedStrings.Proofs.Resource.RoundTrip
import LocalizedStrings.Proofs.Run.DryRun
import LocalizedStrings.Proofs.Literal.Pairing
import LocalizedStrings.Proofs.Search.Leftmost
import LocalizedStrings.Proofs.Source.Grammar
import LocalizedStrings.Proofs.Resource.Grammar
import LocalizedStrings.Proofs.Text.Lines
import LocalizedStrings.Proofs.Locality
import LocalizedStrings.Proofs.Path.Order
import LocalizedStrings.Proofs.FileTree.Walk
import LocalizedStrings.Proofs.Selection
import LocalizedStrings.Proofs.Survey
import LocalizedStrings.Proofs.Run.Repeated
import LocalizedStrings.Proofs.Run.Sources
import LocalizedStrings.Proofs.FileTree.Reach
import LocalizedStrings.Proofs.Literal.Comments
import LocalizedStrings.Proofs.Run.Check
import LocalizedStrings.Proofs.Selection.Exact
import LocalizedStrings.Proofs.Source.Passages
import LocalizedStrings.Proofs.Entry.Repeats
import LocalizedStrings.Proofs.Resource.Rendering
import LocalizedStrings.Proofs.Resource.Spacing
import LocalizedStrings.Proofs.Config.Places
import LocalizedStrings.Proofs.Config.Nearest
import LocalizedStrings.Proofs.Config.Validity
import LocalizedStrings.Proofs.Run.Ignores
import LocalizedStrings.Proofs.Json.Grammar
import LocalizedStrings.Proofs.Json.Reading
import LocalizedStrings.Proofs.Json.Skipping
import LocalizedStrings.Proofs.Json.Shapes
import LocalizedStrings.Proofs.Config.Decoding
import LocalizedStrings.Proofs.Record
import LocalizedStrings.Proofs.Run.Verbosity
import LocalizedStrings.Proofs.Text.Width
import LocalizedStrings.Proofs.Report
import LocalizedStrings.Proofs.Literal.Cursor
