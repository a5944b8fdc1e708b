import Marginalia.Comment.Json
import Marginalia.Main
import Marginalia.Proofs.Document.Copy
import Marginalia.Proofs.Document.Filters
import Marginalia.Proofs.Document.RoundTrip
import Marginalia.Proofs.Extraction.CollapsedText
import Marginalia.Proofs.Extraction.FreeText
import Marginalia.Proofs.Extraction.LineEndings
import Marginalia.Proofs.Extraction.PlainLines
import Marginalia.Proofs.Extraction.SourceOrder
import Marginalia.Proofs.Extraction.TextBlock
import Marginalia.Proofs.Tree.Outline
import Marginalia.Proofs.Extraction.BlockState
import Marginalia.Proofs.Extraction.Placement
import Marginalia.Proofs.Document.Parents
import Marginalia.Proofs.Path.Components
import Marginalia.Proofs.Path.Documents
import Marginalia.Proofs.Extraction.Removal
import Marginalia.Proofs.Text.Margin
import Marginalia.Proofs.Extraction.Shift
import Marginalia.Proofs.Extraction.Characters
import Marginalia.Proofs.Document.Shift
import Marginalia.Proofs.FileStore.Places
import Marginalia.Proofs.FileStore.Growth
import Marginalia.Proofs.Run.Emission
import Marginalia.Proofs.Path.Below
import Marginalia.Proofs.Run.Cleaning
import Marginalia.Proofs.CommandLine.Cleaning
import Marginalia.Proofs.Tree.Placement
import Marginalia.Proofs.Annotation.RoundTrip
import Marginalia.Proofs.Annotation.Escape
import Marginalia.Proofs.Path.Descent
import Marginalia.Proofs.FileStore.Making
import Marginalia.Proofs.FileStore.Visits
import Marginalia.Proofs.Run.Deeds
import Marginalia.Proofs.Run.Order
import Marginalia.Proofs.Extraction.InlineComment
import Marginalia.Proofs.Grammar.Assignments
import Marginalia.Proofs.Grammar.Nesting
import Marginalia.Proofs.Grammar.Confinement
import Marginalia.Proofs.Text.Dedent
import Marginalia.Proofs.Text.Flush
import Marginalia.Proofs.Tree.CollapsedLines
import Marginalia.Proofs.Extraction.OneLineBlock
import Marginalia.Proofs.Grammar.Template
import Marginalia.Proofs.Grammar.Compilation
import Marginalia.Proofs.Run.Traces
import Marginalia.Proofs.Extraction.Code
import Marginalia.Proofs.Task.RoundTrip
import Marginalia.Proofs.Task.FirstOccurrences
import Marginalia.Proofs.Grammar.RoundTrip
import Marginalia.Proofs.Task.Files
