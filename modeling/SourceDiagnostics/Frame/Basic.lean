import SourceDiagnostics.Frame.Header
import SourceDiagnostics.Frame.Notes
import SourceDiagnostics.Snippet.Drawing
import SourceDiagnostics.Snippet.Placement

/-!
# Frames

The frame of a diagnostic is its header, one snippet for each source it points into, and its
notes.  Nothing is written unless all of it can be rendered.  As text, the rows of a frame are
separated by line feeds, and frames by empty lines.
-/

namespace SourceDiagnostics

/-- The gutter of a frame: the one its layouts share, or none without snippets. -/
def frameGutter : List Layout → Nat
  | [] => 0
  | layout :: _ => layout.gutterWidth

namespace Diagnostic

def render (d : Diagnostic) (sources : Sources) (p : Presentation) :
    Except RenderFault (List Row) := do
  let layouts ← d.layouts sources
  let gutter := frameGutter layouts
  let snippets ← layouts.mapM fun layout => layout.render sources p gutter
  return d.headerRow :: snippets.flatten ++ notesRows p gutter d.notes

def format (d : Diagnostic) (sources : Sources) (p : Presentation) (color : Bool) :
    Except RenderFault String := do
  let rows ← d.render sources p
  return String.intercalate "\n" (rows.map (Row.text color))

theorem format_of_render {d : Diagnostic} {sources : Sources} {p : Presentation}
    {rows : List Row} (h : d.render sources p = .ok rows) (color : Bool) :
    d.format sources p color = .ok (String.intercalate "\n" (rows.map (Row.text color))) := by
  rw [format, h]
  rfl

end Diagnostic

/-- The frames of diagnostics as text, or the first reason why one cannot be rendered. -/
def formatAll (diagnostics : List Diagnostic) (sources : Sources) (p : Presentation)
    (color : Bool) : Except RenderFault String := do
  let frames ← diagnostics.mapM fun d => d.format sources p color
  return String.intercalate "\n\n" frames

/-- Whether text that is not bound for a stream is colored: as told, or as the settings say. -/
def Presentation.textColor (p : Presentation) (color : Option Bool) (noColor : Option String) :
    Bool :=
  color.getD (p.useColor noColor none)

end SourceDiagnostics
