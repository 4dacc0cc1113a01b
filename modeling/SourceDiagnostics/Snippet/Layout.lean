import SourceDiagnostics.Diagnostic.Label
import SourceDiagnostics.Source.Location

/-!
# Layouts

A layout says what to draw of one source for one diagnostic: which lines, what is underlined on
them, and where the brackets of regions that cross lines open and close.  It is plain data, so it
can also be written by hand; then its parts need not agree with each other, and drawing reports
what cannot be drawn.

Each bracket has a lane, a column left of the source text in which its bar runs from the opening
row to the closing row.  Lane `k` stands in column `2 * k + 1` of a lane area that is two columns
wider than its lanes need.

Drawing follows `Layout.items`: the rows below the header in order, one item a row.
-/

namespace SourceDiagnostics

/-! ### What is drawn -/

/-- An underlined part of one line. -/
structure Underline where
  start : Location
  stop : Location
  startOffset : Int
  stopOffset : Int
  message : String
  emphasis : Emphasis
deriving DecidableEq, Repr

/-- The line an underline is measured on. -/
def Underline.line (u : Underline) : Nat := u.start.line

inductive BracketEnd
  | opening
  | closing
deriving DecidableEq, Repr

open Text in
instance : Vocabulary BracketEnd where
  noun := "MarkerKind"
  members := [.opening, .closing]
  word
    | .opening => "open"
    | .closing => "close"
  mem_members a := by cases a <;> decide
  word_inj a b := by cases a <;> cases b <;> decide

/-- One end of a region that crosses lines. -/
structure Marker where
  bracketEnd : BracketEnd
  location : Location
  offset : Int
  lane : Nat
  emphasis : Emphasis
  message : String := ""
deriving DecidableEq, Repr

/-- The line a marker is measured on. -/
def Marker.line (m : Marker) : Nat := m.location.line

/-- Values kept for some lines; a later entry for a line replaces an earlier one. -/
abbrev ByLine (α : Type) := List (Int × α)

def ByLine.at? {α : Type} (table : ByLine α) (line : Int) : Option α :=
  (table.reverse.find? (fun entry => entry.1 == line)).map Prod.snd

/-- What to draw of one source. -/
structure Layout where
  source : Int
  name : String
  /-- Lines to draw, in drawing order. -/
  lines : List Int
  underlines : ByLine Underline
  markers : ByLine (List Marker)
  /-- The largest line that is drawn. -/
  maxLine : Int
  /-- Columns kept for line numbers. -/
  gutterWidth : Nat
  laneCount : Int
deriving DecidableEq, Repr

/-- The column of a lane's bar in the lane area. -/
def laneColumn (lane : Nat) : Nat := 2 * lane + 1

/-- One row of a snippet below its header. -/
inductive Item
  | text (line : Int)
  | bracket (m : Marker)
  | underline (u : Underline)
deriving DecidableEq, Repr

namespace Layout

/-- Columns between the border and the source text; a layout with no lanes keeps two. -/
def laneWidth (layout : Layout) : Int := (layout.laneCount + 1) * 2

/-- The markers of one kind that are drawn below a line. -/
def markersAt (layout : Layout) (line : Int) (bracketEnd : BracketEnd) : List Marker :=
  ((layout.markers.at? line).getD []).filter fun m => m.bracketEnd = bracketEnd

/-- The rows of one line: its text, then the brackets it opens, then what is underlined on it,
then the brackets it closes. -/
def itemsAt (layout : Layout) (line : Int) : List Item :=
  .text line :: (layout.markersAt line .opening).map .bracket ++
    (layout.underlines.at? line).toList.map .underline ++
    (layout.markersAt line .closing).map .bracket

/-- The rows below the header, in order. -/
def items (layout : Layout) : List Item := layout.lines.flatMap layout.itemsAt

end Layout

/-- Digits of the largest line number; at least one. -/
def lineNumberWidth (maxLine : Int) : Nat := (Nat.repr (max maxLine 1).toNat).length

/-! ### Tables by line -/

namespace ByLine

/-- The last entry decides. -/
theorem at?_append_singleton {α : Type} (table : ByLine α) (entry : Int × α) (line : Int) :
    at? (table ++ [entry]) line = if entry.1 = line then some entry.2 else at? table line := by
  unfold at?
  rw [List.reverse_append]
  by_cases h : entry.1 = line
  · simp [h]
  · simp [h]

end ByLine

end SourceDiagnostics
