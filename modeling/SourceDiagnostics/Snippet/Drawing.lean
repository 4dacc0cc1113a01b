import SourceDiagnostics.Display.Presentation
import SourceDiagnostics.Display.Row
import SourceDiagnostics.Result
import SourceDiagnostics.Snippet.Fault
import SourceDiagnostics.Snippet.Layout
import SourceDiagnostics.Source.Sources
import SourceDiagnostics.Text.DisplayWidth
import SourceDiagnostics.Text.Padding

/-!
# Drawing a layout

A snippet is a header row with the source's name and then one row per item of the layout.  Each
row starts with the gutter and the border, then the lane area, then the source text or what is
drawn below it.

Between rows only one thing is remembered: the lanes whose brackets are open.  A bracket is open
from the row after its opening row up to and including its closing row, so `Item.lanesAfter` is
applied after the row of the item has been drawn.  A row fails if an open lane lies outside the
lane area, and a closing row fails as well if its lane is not open.

Positions along a row are display widths of the source text before them, with tabs expanded, so
drawing lines up with the source row above it.
-/

namespace SourceDiagnostics

open Text

/-- What drawing a row needs to know besides the item and the open lanes. -/
structure Canvas where
  index : LineIndex
  glyphs : Glyphs
  tabWidth : Nat
  widths : CharWidths
  gutter : Nat
  laneWidth : Int

namespace Canvas

/-- The gutter of a row without line number, up to the border. -/
def margin (c : Canvas) : String := spaces c.gutter ++ " " ++ String.singleton c.glyphs.border

/-- The gutter of a source row, up to the border. -/
def numbered (c : Canvas) (line : Int) : String :=
  alignRight c.gutter (toString line) ++ " " ++ String.singleton c.glyphs.border

/-- What stands in a column of the lane area. -/
def laneCell (c : Canvas) (openLanes : List Nat) (column : Nat) : Char :=
  if column ∈ openLanes.map laneColumn then c.glyphs.lane else ' '

/-- The lane area: a bar in the column of each open lane. -/
def laneArea (c : Canvas) (openLanes : List Nat) : Except RenderFault (List Char) :=
  match openLanes.find? (fun lane => c.laneWidth ≤ laneColumn lane) with
  | some lane => .error (.laneOutsideArea lane)
  | none => .ok ((List.range c.laneWidth.toNat).map (c.laneCell openLanes))

/-- Columns of the source text between the start of a line and an offset. -/
def column (c : Canvas) (line : Nat) (offset : Int) : Except RenderFault Nat := do
  let start ← rendering (c.index.lineStart line)
  let before ← rendering (c.index.slice start offset)
  return textWidth c.widths c.tabWidth before

/-- A message behind an underline or a bracket, set off by a space. -/
def trailing (message : String) : String := if message = "" then "" else " " ++ message

/-! ### Rows -/

def textRow (c : Canvas) (openLanes : List Nat) (line : Int) : Except RenderFault Row := do
  let lanes ← c.laneArea openLanes
  let text ← rendering (c.index.lineText line)
  return Row.ofPieces
    [(c.numbered line, .gutter), (String.ofList lanes, .gutter),
     (expandTabs c.tabWidth text, .source)]

def underlineRow (c : Canvas) (openLanes : List Nat) (u : Underline) : Except RenderFault Row := do
  let column ← c.column u.line u.startOffset
  let labelled ← rendering (c.index.slice u.startOffset u.stopOffset)
  let lanes ← c.laneArea openLanes
  let style := Style.ofEmphasis u.emphasis
  return Row.ofPieces
    [(c.margin, .gutter), (String.ofList lanes, .gutter), (spaces column, .source),
     (run (c.glyphs.underline u.emphasis) (textWidth c.widths c.tabWidth labelled), style),
     (trailing u.message, style)]

/-- The corner and the tip of a bracket's row. -/
def cornerAndTip (c : Canvas) : BracketEnd → Char × Char
  | .opening => (c.glyphs.openCorner, c.glyphs.openTip)
  | .closing => (c.glyphs.closeCorner, c.glyphs.closeTip)

/-- Columns between a bracket's corner, in its lane, and its tip, below a column of the text. -/
def reach (c : Canvas) (lane column : Nat) : Nat :=
  (c.laneWidth + column - laneColumn lane - 1).toNat

/-- The row that opens or closes a bracket: the lanes left of its own, then the bracket. -/
def bracketRow (c : Canvas) (openLanes : List Nat) (m : Marker) : Except RenderFault Row := do
  let column ← c.column m.line m.offset
  let lanes ← c.laneArea openLanes
  let style := Style.ofEmphasis m.emphasis
  let (corner, tip) := c.cornerAndTip m.bracketEnd
  return Row.ofPieces
    [(c.margin, .gutter), (String.ofList (lanes.take (laneColumn m.lane)), .gutter),
     (String.singleton corner ++ run c.glyphs.horizontal (c.reach m.lane column) ++
       String.singleton tip, style),
     (trailing m.message, style)]

def draw (c : Canvas) (openLanes : List Nat) : Item → Except RenderFault Row
  | .text line => c.textRow openLanes line
  | .bracket m => c.bracketRow openLanes m
  | .underline u => c.underlineRow openLanes u

end Canvas

/-! ### Open lanes from row to row -/

/-- The lanes that are open after the row of an item.  A lane opened several times has to be
closed as often. -/
def Item.lanesAfter (openLanes : List Nat) : Item → Except RenderFault (List Nat)
  | .bracket m =>
      match m.bracketEnd with
      | .opening => .ok (openLanes ++ [m.lane])
      | .closing =>
          if m.lane ∈ openLanes then .ok (openLanes.erase m.lane)
          else .error (.laneNotOpen m.lane)
  | _ => .ok openLanes

/-- The rows of items, starting with some open lanes. -/
def Canvas.drawAll (c : Canvas) (openLanes : List Nat) : List Item → Except RenderFault (List Row)
  | [] => .ok []
  | item :: rest => do
      let row ← c.draw openLanes item
      let openLanes ← item.lanesAfter openLanes
      let rows ← c.drawAll openLanes rest
      return row :: rows

namespace Layout

/-- What a layout is drawn on, with a gutter of the given width. -/
def canvas (layout : Layout) (p : Presentation) (gutter : Nat) (index : LineIndex) : Canvas where
  index := index
  glyphs := p.glyphs
  tabWidth := p.tabWidth
  widths := p.widths
  gutter := gutter
  laneWidth := layout.laneWidth

def headerRow (layout : Layout) (p : Presentation) (gutter : Nat) : Row :=
  Row.ofPieces
    [(spaces gutter ++ " " ++ p.glyphs.file ++ " ", .gutter), (layout.name, .gutter)]

def render (layout : Layout) (sources : Sources) (p : Presentation) (gutter : Nat) :
    Except RenderFault (List Row) := do
  let index ← rendering (sources.index layout.source)
  let rows ← (layout.canvas p gutter index).drawAll [] layout.items
  return layout.headerRow p gutter :: rows

end Layout

/-! ### Lane areas -/

namespace Canvas

theorem laneArea_eq_ok_iff (c : Canvas) (openLanes : List Nat) (cells : List Char) :
    c.laneArea openLanes = .ok cells ↔
      (∀ lane ∈ openLanes, (laneColumn lane : Int) < c.laneWidth) ∧
      cells = (List.range c.laneWidth.toNat).map (c.laneCell openLanes) := by
  unfold laneArea
  split
  · rename_i lane hfind
    have hmem := List.mem_of_find?_eq_some hfind
    have hout : c.laneWidth ≤ laneColumn lane := by simpa using List.find?_some hfind
    simp only [reduceCtorEq, false_iff, not_and]
    intro hall
    exact absurd (hall lane hmem) (Int.not_lt.mpr hout)
  · rename_i hfind
    have hall : ∀ lane ∈ openLanes, (laneColumn lane : Int) < c.laneWidth := by
      intro lane hmem
      have := List.find?_eq_none.mp hfind lane hmem
      simpa using this
    constructor
    · intro h
      cases h
      exact ⟨hall, rfl⟩
    · rintro ⟨_, rfl⟩
      rfl

/-- Drawing succeeds exactly when the first row can be drawn, its lanes can be opened or closed,
and the other rows can be drawn after that. -/
theorem drawAll_cons_eq_ok_iff {c : Canvas} {openLanes : List Nat} {item : Item}
    {rest : List Item} {rows : List Row} :
    c.drawAll openLanes (item :: rest) = .ok rows ↔
      ∃ row after others, c.draw openLanes item = .ok row ∧
        item.lanesAfter openLanes = .ok after ∧ c.drawAll after rest = .ok others ∧
        rows = row :: others := by
  rw [drawAll, Result.bind_eq_ok_iff]
  constructor
  · rintro ⟨row, hrow, h⟩
    obtain ⟨after, hafter, h⟩ := Result.bind_eq_ok_iff.mp h
    obtain ⟨others, hothers, h⟩ := Result.bind_eq_ok_iff.mp h
    cases h
    exact ⟨row, after, others, hrow, hafter, hothers, rfl⟩
  · rintro ⟨row, after, others, hrow, hafter, hothers, rfl⟩
    exact ⟨row, hrow, Result.bind_eq_ok_iff.mpr
      ⟨after, hafter, Result.bind_eq_ok_iff.mpr ⟨others, hothers, rfl⟩⟩⟩

theorem length_drawAll {c : Canvas} {openLanes : List Nat} {items : List Item} {rows : List Row}
    (h : c.drawAll openLanes items = .ok rows) : rows.length = items.length := by
  induction items generalizing openLanes rows with
  | nil =>
      cases h
      rfl
  | cons item rest ih =>
      obtain ⟨row, after, others, _, _, hothers, rfl⟩ := drawAll_cons_eq_ok_iff.mp h
      rw [List.length_cons, List.length_cons, ih hothers]

end Canvas

end SourceDiagnostics
