import SourceDiagnostics.Proofs.Source.Positions
import SourceDiagnostics.Snippet.Drawing
import SourceDiagnostics.Snippet.Placement
import Mathlib.Data.Finset.Sort

/-!
# Excerpts

The direct description of a snippet: which rows it has and what each of them says, read off the
text of the source and the list of regions.  There is no line index here, no layout, and nothing
to remember from row to row: whether a lane has a bar on a row is decided by the lines on which
its region starts and ends.

A region that ends on a later line than it starts on has a lane, numbered in the order of the
regions.  `Excerpt.rows` is what drawing a layout comes to.
-/

namespace SourceDiagnostics

open Text

theorem zipIdx_pairwise {α : Type} (items : List α) :
    items.zipIdx.Pairwise fun a b => a.2 < b.2 := by
  have h : (items.zipIdx.map Prod.snd).Pairwise (· < ·) := by
    rw [List.zipIdx_map_snd]
    exact List.pairwise_lt_range'
  exact List.pairwise_map.mp h

/-- What a snippet shows, and how. -/
structure Excerpt where
  presentation : Presentation
  gutter : Nat
  name : String
  content : String
  highlights : List Highlight

namespace Excerpt

variable (e : Excerpt)

/-! ### Regions and lines -/

def firstLine (h : Highlight) : Nat := lineAt e.content h.region.start

def lastLine (h : Highlight) : Nat := lineAt e.content h.region.stop

/-- The lines on which some region starts or ends. -/
def lines : Finset Nat := (e.highlights.map e.firstLine ++ e.highlights.map e.lastLine).toFinset

def within (line : Nat) : List Highlight :=
  e.highlights.filter fun h => e.firstLine h = line ∧ e.lastLine h = line

def crossing : List Highlight := e.highlights.filter fun h => e.firstLine h < e.lastLine h

/-- The regions that cross lines, each with its lane. -/
def laned : List (Highlight × Nat) := e.crossing.zipIdx

/-! ### Pieces of rows -/

def margin : String :=
  spaces e.gutter ++ " " ++ String.singleton e.presentation.glyphs.border

def numbered (line : Nat) : String :=
  alignRight e.gutter (toString line) ++ " " ++ String.singleton e.presentation.glyphs.border

/-- Two columns for each of some regions, with a bar for those whose lanes are open. -/
def bars (isOpen : Highlight → Bool) (regions : List Highlight) : List Char :=
  regions.flatMap fun h => [' ', if isOpen h then e.presentation.glyphs.lane else ' ']

/-- The whole lane area, two columns wider than the lanes need. -/
def lanes (isOpen : Highlight → Bool) : String :=
  String.ofList (e.bars isOpen e.crossing ++ [' ', ' '])

/-- The lane area up to the column of a lane. -/
def lanesUpTo (isOpen : Highlight → Bool) (lane : Nat) : String :=
  String.ofList (e.bars isOpen (e.crossing.take lane) ++ [' '])

def sourceLine (line : Nat) : String := (linesOf e.content).getD (line - 1) ""

def columns (text : String) : Nat :=
  textWidth e.presentation.widths e.presentation.tabWidth text

def labelled (h : Highlight) : String :=
  (between e.content h.region.start h.region.stop).getD ""

/-! ### Rows -/

def headerRow : Row :=
  Row.ofPieces
    [(spaces e.gutter ++ " " ++ e.presentation.glyphs.file ++ " ", .gutter), (e.name, .gutter)]

def sourceRow (line : Nat) : Row :=
  Row.ofPieces
    [(e.numbered line, .gutter),
     (e.lanes fun g => e.firstLine g < line ∧ line ≤ e.lastLine g, .gutter),
     (expandTabs e.presentation.tabWidth (e.sourceLine line), .source)]

def underlineRow (h : Highlight) : Row :=
  let style := Style.ofEmphasis h.emphasis
  Row.ofPieces
    [(e.margin, .gutter),
     (e.lanes fun g => e.firstLine g ≤ e.firstLine h ∧ e.firstLine h ≤ e.lastLine g, .gutter),
     (spaces (e.columns (lineHeadAt e.content h.region.start)), .source),
     (run (e.presentation.glyphs.underline h.emphasis) (e.columns (e.labelled h)), style),
     (Canvas.trailing h.region.message, style)]

/-- A corner in the lane of a region and a tip below an offset on its line. -/
def bracket (lane offset : Nat) (corner tip : Char) : String :=
  String.singleton corner ++
    run e.presentation.glyphs.horizontal
      (2 * (e.crossing.length - lane) + e.columns (lineHeadAt e.content offset)) ++
    String.singleton tip

def openingRow (h : Highlight) (lane : Nat) : Row :=
  Row.ofPieces
    [(e.margin, .gutter),
     (e.lanesUpTo (fun g => e.firstLine g ≤ e.firstLine h ∧ e.firstLine h ≤ e.lastLine g) lane,
      .gutter),
     (e.bracket lane h.region.start e.presentation.glyphs.openCorner
        e.presentation.glyphs.openTip, Style.ofEmphasis h.emphasis)]

def closingRow (h : Highlight) (lane : Nat) : Row :=
  let style := Style.ofEmphasis h.emphasis
  Row.ofPieces
    [(e.margin, .gutter),
     (e.lanesUpTo (fun g => e.firstLine g ≤ e.lastLine h ∧ e.lastLine h < e.lastLine g) lane,
      .gutter),
     (e.bracket lane h.region.stop e.presentation.glyphs.closeCorner
        e.presentation.glyphs.closeTip, style),
     (Canvas.trailing h.region.message, style)]

/-- The rows of one line: its text, then the regions that start on it and end later, then the last
region that lies within it, then the regions that end on it and started earlier. -/
def rowsAt (line : Nat) : List Row :=
  e.sourceRow line ::
    (e.laned.filter fun entry => e.firstLine entry.1 = line).map
      (fun entry => e.openingRow entry.1 entry.2) ++
    (e.within line).getLast?.toList.map e.underlineRow ++
    (e.laned.filter fun entry => e.lastLine entry.1 = line).map
      (fun entry => e.closingRow entry.1 entry.2)

/-- **The rows of a snippet**, in the order of the lines. -/
def rows : List Row := e.headerRow :: e.lines.sort.flatMap e.rowsAt

/-! ### Lanes by number -/

variable {e}

theorem mem_lines {line : Nat} :
    line ∈ e.lines ↔ ∃ h ∈ e.highlights, line = e.firstLine h ∨ line = e.lastLine h := by
  simp only [lines, List.mem_toFinset, List.mem_append, List.mem_map]
  constructor
  · rintro (⟨h, hmem, rfl⟩ | ⟨h, hmem, rfl⟩)
    · exact ⟨h, hmem, Or.inl rfl⟩
    · exact ⟨h, hmem, Or.inr rfl⟩
  · rintro ⟨h, hmem, rfl | rfl⟩
    · exact Or.inl ⟨h, hmem, rfl⟩
    · exact Or.inr ⟨h, hmem, rfl⟩

theorem mem_crossing {h : Highlight} :
    h ∈ e.crossing ↔ h ∈ e.highlights ∧ e.firstLine h < e.lastLine h := by
  simp [crossing]

theorem mem_within {line : Nat} {h : Highlight} :
    h ∈ e.within line ↔ h ∈ e.highlights ∧ e.firstLine h = line ∧ e.lastLine h = line := by
  simp [within]

theorem mem_rowsAt {line : Nat} {row : Row} :
    row ∈ e.rowsAt line ↔ row = e.sourceRow line ∨
      (∃ entry ∈ e.laned, e.firstLine entry.1 = line ∧ row = e.openingRow entry.1 entry.2) ∨
      (∃ h, (e.within line).getLast? = some h ∧ row = e.underlineRow h) ∨
      ∃ entry ∈ e.laned, e.lastLine entry.1 = line ∧ row = e.closingRow entry.1 entry.2 := by
  simp only [rowsAt, List.mem_append, List.mem_cons, List.mem_map, List.mem_filter,
    Option.mem_toList, decide_eq_true_eq, and_assoc, or_assoc, eq_comm (a := row)]

theorem mem_rows {row : Row} :
    row ∈ e.rows ↔ row = e.headerRow ∨ ∃ line ∈ e.lines, row ∈ e.rowsAt line := by
  rw [rows, List.mem_cons, List.mem_flatMap]
  simp only [Finset.mem_sort]

theorem mem_laned {h : Highlight} {lane : Nat} :
    (h, lane) ∈ e.laned ↔ e.crossing[lane]? = some h := by
  rw [laned, List.mem_zipIdx_iff_getElem?]

theorem mem_crossing_of_mem_laned {entry : Highlight × Nat} (h : entry ∈ e.laned) :
    entry.1 ∈ e.crossing :=
  List.mem_of_getElem? (mem_laned.mp h)

theorem lane_lt_of_mem_laned {entry : Highlight × Nat} (h : entry ∈ e.laned) :
    entry.2 < e.crossing.length :=
  (List.getElem?_eq_some_iff.mp (mem_laned.mp h)).1

/-- Lanes ascend in the order of the regions. -/
theorem laned_pairwise : e.laned.Pairwise fun a b => a.2 < b.2 := zipIdx_pairwise e.crossing

end Excerpt

end SourceDiagnostics
