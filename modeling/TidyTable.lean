import TidyTable.Export
import TidyTable.Settings.Load
import TidyTable.Proofs.RoundTrip
import TidyTable.Proofs.Reprocessing
import TidyTable.Proofs.Passes
import TidyTable.Proofs.Refusal
import TidyTable.Proofs.Sheet.RoundTrip
import TidyTable.Proofs.Sheet.Reprocessing
import TidyTable.Proofs.Provenance
import TidyTable.Proofs.Headers
import TidyTable.Proofs.Decoding
import TidyTable.Proofs.Sheet.Limits
import TidyTable.Proofs.Sheet.Agreement
import TidyTable.Proofs.Commuting
import TidyTable.Proofs.BlankNames
import TidyTable.Proofs.Layering
import TidyTable.Proofs.Numbering
import TidyTable.Proofs.Idempotence
import TidyTable.Proofs.DroppedIndex
import TidyTable.Proofs.Paths
import TidyTable.Proofs.Json.Reading
import TidyTable.Proofs.Json.RoundTrip
import TidyTable.Proofs.Classification
import TidyTable.Proofs.Html.Arrangement
import TidyTable.Proofs.Marker
import TidyTable.Proofs.Recleaning
import TidyTable.Proofs.Html.Rules
import TidyTable.Proofs.Html.Splitting
import TidyTable.Proofs.Html.Soundness
import TidyTable.Proofs.Html.Walk
import TidyTable.Proofs.Html.Characters
import TidyTable.Proofs.Html.Scanning
import TidyTable.Proofs.Html.Literal
import TidyTable.Proofs.Html.Written
import TidyTable.Proofs.Html.Nested
import TidyTable.Proofs.Extraction
import TidyTable.Proofs.Sheet.Layout
import TidyTable.Proofs.Shortest
import TidyTable.Proofs.Rendering
import TidyTable.Proofs.Integers
import TidyTable.Proofs.Lines
