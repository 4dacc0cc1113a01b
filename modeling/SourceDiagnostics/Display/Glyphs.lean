import SourceDiagnostics.Diagnostic.Label

/-!
# Drawing glyphs

The characters that gutters, lanes, brackets and underlines are drawn with.  There are two sets,
box-drawing characters and plain ASCII.  Every glyph is one character except the one that opens a
snippet, so both sets draw the same columns.
-/

namespace SourceDiagnostics

structure Glyphs where
  /-- Between the gutter and the source text. -/
  border : Char
  /-- Opens a snippet, in front of the source's name. -/
  file : String
  /-- Vertical bar of a bracket that is open. -/
  lane : Char
  /-- Corners of the rows that open and close a bracket. -/
  openCorner : Char
  closeCorner : Char
  /-- Between a corner and the column it points at. -/
  horizontal : Char
  /-- Tips of the rows that open and close a bracket. -/
  openTip : Char
  closeTip : Char
  /-- In front of a note. -/
  note : Char
  /-- Underlines of each emphasis. -/
  primary : Char
  secondary : Char
  tertiary : Char
  quaternary : Char
deriving DecidableEq, Repr

namespace Glyphs

def boxDrawing : Glyphs where
  border := '│'
  file := "┌─"
  lane := '│'
  openCorner := '╭'
  closeCorner := '╰'
  horizontal := '─'
  openTip := '\''
  closeTip := '^'
  note := '='
  primary := '^'
  secondary := '-'
  tertiary := '~'
  quaternary := '.'

def ascii : Glyphs where
  border := '|'
  file := "-->"
  lane := '|'
  openCorner := ','
  closeCorner := '\x60'
  horizontal := '-'
  openTip := '\''
  closeTip := '^'
  note := '='
  primary := '^'
  secondary := '-'
  tertiary := '~'
  quaternary := '.'

def underline (glyphs : Glyphs) : Emphasis → Char
  | .primary => glyphs.primary
  | .secondary => glyphs.secondary
  | .tertiary => glyphs.tertiary
  | .quaternary => glyphs.quaternary

/-- Both sets underline alike. -/
theorem underline_ascii (emphasis : Emphasis) :
    ascii.underline emphasis = boxDrawing.underline emphasis := by
  cases emphasis <;> rfl

end Glyphs

end SourceDiagnostics
