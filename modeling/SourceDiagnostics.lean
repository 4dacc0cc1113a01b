import SourceDiagnostics.Text.Padding
import SourceDiagnostics.Text.Terminators
import SourceDiagnostics.Text.DisplayWidth
import SourceDiagnostics.Diagnostic.Basic
import SourceDiagnostics.Diagnostic.Stage
import SourceDiagnostics.Source.Sources
import SourceDiagnostics.Display.Row
import SourceDiagnostics.Display.Presentation
import SourceDiagnostics.Snippet.Placement
import SourceDiagnostics.Frame.Basic
import SourceDiagnostics.Reporting.Session
import SourceDiagnostics.Source.LineIndex.Lemmas
import SourceDiagnostics.Proofs.Text.Lines
import SourceDiagnostics.Proofs.Text.Columns
import SourceDiagnostics.Proofs.Text.Terminators
import SourceDiagnostics.Proofs.Source.Positions
import SourceDiagnostics.Proofs.Source.Lines
import SourceDiagnostics.Proofs.Source.Locations
import SourceDiagnostics.Proofs.Source.Slices
import SourceDiagnostics.Proofs.Snippet.Excerpt
import SourceDiagnostics.Proofs.Snippet.OpenLanes
import SourceDiagnostics.Proofs.Snippet.Items
import SourceDiagnostics.Proofs.Snippet.Rendering
import SourceDiagnostics.Proofs.Snippet.Refinement
import SourceDiagnostics.Proofs.Snippet.Lanes
import SourceDiagnostics.Proofs.Snippet.Alignment
import SourceDiagnostics.Proofs.Frame.Outcome
import SourceDiagnostics.Proofs.Snippet.Planning
import SourceDiagnostics.Proofs.Frame.Blocks
import SourceDiagnostics.Proofs.Frame.Composition
import SourceDiagnostics.Proofs.Frame.Gutter
import SourceDiagnostics.Proofs.Snippet.Agreement
import SourceDiagnostics.Proofs.Snippet.Locality
import SourceDiagnostics.Proofs.Text.Tabs
import SourceDiagnostics.Proofs.Frame.Tabs
import SourceDiagnostics.Proofs.Snippet.Order
import SourceDiagnostics.Proofs.Frame.Renaming
import SourceDiagnostics.Proofs.Frame.Characters
import SourceDiagnostics.Proofs.Text.Escapes
import SourceDiagnostics.Proofs.Frame.Painting
import SourceDiagnostics.Proofs.Frame.Splitting
import SourceDiagnostics.Proofs.Frame.Identity
import SourceDiagnostics.Proofs.Frame.NoteRows
import SourceDiagnostics.Proofs.Frame.GlyphSets
import SourceDiagnostics.Proofs.Snippet.LaneFaults
import SourceDiagnostics.Proofs.Reporting.Streams
import SourceDiagnostics.Proofs.Reporting.Fifo
import SourceDiagnostics.Proofs.Reporting.FilterChains
import SourceDiagnostics.Proofs.Reporting.Sinks
import SourceDiagnostics.Proofs.Reporting.Registry
