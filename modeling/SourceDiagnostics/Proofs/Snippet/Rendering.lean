import SourceDiagnostics.Proofs.Snippet.Items

/-!
# Rendering a layout draws its excerpt

Row by row, drawing the items of a planned layout gives the rows of the excerpt: which lanes are
open comes from the run of open lanes, what stands in the text from the lookups in the line index.
None of it can fail, `Excerpt.drawAll_items`.
-/

namespace SourceDiagnostics

open Text

/-! ### Rows from their parts -/

theorem Row.ofPieces_append_empty (pieces : List (String × Style)) (style : Style) :
    ofPieces (pieces ++ [("", style)]) = ofPieces pieces := by
  simp [ofPieces]

namespace Canvas

variable {c : Canvas} {openLanes : List Nat} {lanes : List Char}

theorem column_eq_ok {line : Nat} {offset : Int} {start : Nat} {before : String}
    (hstart : c.index.lineStart line = .ok start)
    (hslice : c.index.slice start offset = .ok before) :
    c.column line offset = .ok (textWidth c.widths c.tabWidth before) := by
  rw [column, hstart]
  show (rendering (c.index.slice start offset) >>= _) = _
  rw [hslice]
  rfl

theorem textRow_eq_ok {line : Int} {text : String} (hlanes : c.laneArea openLanes = .ok lanes)
    (htext : c.index.lineText line = .ok text) :
    c.textRow openLanes line = .ok (Row.ofPieces
      [(c.numbered line, .gutter), (String.ofList lanes, .gutter),
       (expandTabs c.tabWidth text, .source)]) := by
  rw [textRow, hlanes, htext]
  rfl

theorem underlineRow_eq_ok {u : Underline} {column : Nat} {labelled : String}
    (hcolumn : c.column u.line u.startOffset = .ok column)
    (hslice : c.index.slice u.startOffset u.stopOffset = .ok labelled)
    (hlanes : c.laneArea openLanes = .ok lanes) :
    c.underlineRow openLanes u = .ok (Row.ofPieces
      [(c.margin, .gutter), (String.ofList lanes, .gutter), (spaces column, .source),
       (run (c.glyphs.underline u.emphasis) (textWidth c.widths c.tabWidth labelled),
        Style.ofEmphasis u.emphasis),
       (trailing u.message, Style.ofEmphasis u.emphasis)]) := by
  rw [underlineRow, hcolumn, hslice, hlanes]
  rfl

theorem bracketRow_eq_ok {m : Marker} {column : Nat}
    (hcolumn : c.column m.line m.offset = .ok column)
    (hlanes : c.laneArea openLanes = .ok lanes) :
    c.bracketRow openLanes m = .ok (Row.ofPieces
      [(c.margin, .gutter), (String.ofList (lanes.take (laneColumn m.lane)), .gutter),
       (String.singleton (c.cornerAndTip m.bracketEnd).1 ++
          run c.glyphs.horizontal (c.reach m.lane column) ++
          String.singleton (c.cornerAndTip m.bracketEnd).2, Style.ofEmphasis m.emphasis),
       (trailing m.message, Style.ofEmphasis m.emphasis)]) := by
  rw [bracketRow, hcolumn, hlanes]
  rfl

/-! ### Cells of the lane area -/

theorem laneCell_even (c : Canvas) (openLanes : List Nat) (lane : Nat) :
    c.laneCell openLanes (2 * lane) = ' ' := by
  rw [laneCell, if_neg]
  intro hmem
  obtain ⟨other, _, hcolumn⟩ := List.mem_map.mp hmem
  unfold laneColumn at hcolumn
  omega

theorem laneCell_odd (c : Canvas) (openLanes : List Nat) (lane : Nat) :
    c.laneCell openLanes (2 * lane + 1) = if lane ∈ openLanes then c.glyphs.lane else ' ' := by
  have hmem : 2 * lane + 1 ∈ openLanes.map laneColumn ↔ lane ∈ openLanes := by
    constructor
    · intro hmem
      obtain ⟨other, hother, hcolumn⟩ := List.mem_map.mp hmem
      unfold laneColumn at hcolumn
      have : other = lane := by omega
      exact this ▸ hother
    · intro hlane
      exact List.mem_map_of_mem hlane
  rw [laneCell, if_congr hmem rfl rfl]

end Canvas

namespace Excerpt

variable (e : Excerpt)

def canvas : Canvas where
  index := LineIndex.ofContent e.content
  glyphs := e.presentation.glyphs
  tabWidth := e.presentation.tabWidth
  widths := e.presentation.widths
  gutter := e.gutter
  laneWidth := ((e.crossing.length : Int) + 1) * 2

/-- The cells of the first lanes, as bars of their regions. -/
theorem map_laneCell (openLanes : List Nat) (isOpen : Highlight → Bool)
    (regions : List Highlight)
    (h : ∀ lane g, regions[lane]? = some g → (lane ∈ openLanes ↔ isOpen g = true)) :
    (List.range (2 * regions.length)).map (e.canvas.laneCell openLanes) =
      e.bars isOpen regions := by
  induction regions using List.reverseRecOn with
  | nil => rfl
  | append_singleton regions last ih =>
      have hinit := ih (fun lane g hg => h lane g (by
        rw [List.getElem?_append_left (List.getElem?_eq_some_iff.mp hg).1, hg]))
      have hlast := h regions.length last (by simp)
      have hlength : 2 * (regions ++ [last]).length = 2 * regions.length + 1 + 1 := by
        simp
        omega
      rw [hlength, List.range_succ, List.range_succ, List.map_append, List.map_append, hinit,
        List.map_singleton, List.map_singleton, Canvas.laneCell_even, Canvas.laneCell_odd,
        if_congr hlast rfl rfl, bars, bars, List.flatMap_append, List.append_assoc]
      rfl

variable {e}

/-- Every lane that is open belongs to a region, so the lane area has room for it. -/
theorem laneArea_eq_ok {openLanes : List Nat}
    (h : ∀ lane ∈ openLanes, lane < e.crossing.length) :
    e.canvas.laneArea openLanes =
      .ok ((List.range (2 * e.crossing.length + 1 + 1)).map (e.canvas.laneCell openLanes)) := by
  refine (Canvas.laneArea_eq_ok_iff _ _ _).mpr ⟨?_, ?_⟩
  · intro lane hlane
    have := h lane hlane
    show ((laneColumn lane : Nat) : Int) < ((e.crossing.length : Int) + 1) * 2
    unfold laneColumn
    omega
  · have : e.canvas.laneWidth.toNat = 2 * e.crossing.length + 1 + 1 := by
      show (((e.crossing.length : Int) + 1) * 2).toNat = _
      omega
    rw [this]

section Open

variable {openLanes : List Nat} {isOpen : Highlight → Bool}

theorem lanes_eq (hlt : ∀ lane ∈ openLanes, lane < e.crossing.length)
    (h : ∀ g lane, (g, lane) ∈ e.laned → (lane ∈ openLanes ↔ isOpen g = true)) :
    ∃ cells, e.canvas.laneArea openLanes = .ok cells ∧ String.ofList cells = e.lanes isOpen := by
  have hlast : e.crossing.length ∉ openLanes := by
    intro hmem
    exact Nat.lt_irrefl _ (hlt _ hmem)
  have hbars := e.map_laneCell openLanes isOpen e.crossing (by
    intro lane g hg
    exact h g lane (mem_laned.mpr hg))
  refine ⟨_, laneArea_eq_ok hlt, ?_⟩
  rw [List.range_succ, List.range_succ, List.map_append, List.map_append, hbars,
    List.map_singleton, List.map_singleton, Canvas.laneCell_even, Canvas.laneCell_odd,
    if_neg hlast, lanes, List.append_assoc]
  rfl

/-- Left of a lane only the lanes below it are seen. -/
theorem lanesUpTo_eq {lane : Nat} (hlane : lane < e.crossing.length)
    (hlt : ∀ other ∈ openLanes, other < e.crossing.length)
    (h : ∀ g other, other < lane → (g, other) ∈ e.laned → (other ∈ openLanes ↔ isOpen g = true)) :
    ∃ cells, e.canvas.laneArea openLanes = .ok cells ∧
      String.ofList (cells.take (laneColumn lane)) = e.lanesUpTo isOpen lane := by
  have hlength : (e.crossing.take lane).length = lane := by
    rw [List.length_take]
    omega
  have hbars := e.map_laneCell openLanes isOpen (e.crossing.take lane) (by
    intro other g hg
    have hother : other < lane := by
      have := (List.getElem?_eq_some_iff.mp hg).1
      omega
    rw [List.getElem?_take_of_lt hother] at hg
    exact h g other hother (mem_laned.mpr hg))
  rw [hlength] at hbars
  refine ⟨_, laneArea_eq_ok hlt, ?_⟩
  have hmin : min (laneColumn lane) (2 * e.crossing.length + 1 + 1) = 2 * lane + 1 := by
    unfold laneColumn
    omega
  rw [← List.map_take, List.take_range, hmin, List.range_succ, List.map_append, hbars,
    List.map_singleton, Canvas.laneCell_even, lanesUpTo]

end Open

/-! ### Lookups -/

theorem lineText_sourceLine {byte : Nat} (hboundary : IsBoundary e.content byte) :
    e.canvas.index.lineText (lineAt e.content byte) =
        .ok (e.sourceLine (lineAt e.content byte)) ∧
      (linesOf e.content)[lineAt e.content byte - 1]? =
        some (e.sourceLine (lineAt e.content byte)) := by
  have hcontent : IsBoundary (LineIndex.ofContent e.content).content byte := hboundary
  obtain ⟨line, htext, hline⟩ := LineIndex.lineText_lineAt hcontent
  rw [LineIndex.content_ofContent] at htext hline
  have hsource : e.sourceLine (lineAt e.content byte) = line := by
    rw [sourceLine, List.getD_eq_getElem?_getD, hline]
    rfl
  rw [hsource]
  exact ⟨htext, hline⟩

theorem column_eq_ok {byte : Nat} (hboundary : IsBoundary e.content byte) :
    e.canvas.column (lineAt e.content byte) byte =
      .ok (e.columns (lineHeadAt e.content byte)) := by
  have hcontent : IsBoundary (LineIndex.ofContent e.content).content byte := hboundary
  obtain ⟨start, hstart, hslice⟩ := LineIndex.slice_lineStart hcontent
  exact Canvas.column_eq_ok hstart hslice

theorem between_eq_labelled (fits : e.Fits) {h : Highlight} (hmem : h ∈ e.highlights) :
    between e.content h.region.start h.region.stop = some (e.labelled h) := by
  obtain ⟨hstart, hstop⟩ := fits h hmem
  have hbetween := between_eq_some_iff.mpr ⟨hstart, hstop, rfl⟩
  rw [labelled, hbetween]
  rfl

theorem reach_eq {lane column : Nat} (hlane : lane < e.crossing.length) :
    e.canvas.reach lane column = 2 * (e.crossing.length - lane) + column := by
  show (((e.crossing.length : Int) + 1) * 2 + column - (laneColumn lane : Nat) - 1).toNat = _
  unfold laneColumn
  omega

/-! ### Drawing each item -/

section Draw

variable {openLanes : List Nat}

/-- A bracket with either end, once the bars left of its lane are known. -/
theorem draw_bracket {m : Marker} {byte : Nat} {isOpen : Highlight → Bool}
    (hboundary : IsBoundary e.content byte) (hoffset : m.offset = byte)
    (hline : m.line = lineAt e.content byte) (hlane : m.lane < e.crossing.length)
    (hlt : ∀ other ∈ openLanes, other < e.crossing.length)
    (h : ∀ g other, other < m.lane → (g, other) ∈ e.laned →
      (other ∈ openLanes ↔ isOpen g = true)) :
    e.canvas.draw openLanes (.bracket m) = .ok (Row.ofPieces
      [(e.margin, .gutter), (e.lanesUpTo isOpen m.lane, .gutter),
       (e.bracket m.lane byte (e.canvas.cornerAndTip m.bracketEnd).1
          (e.canvas.cornerAndTip m.bracketEnd).2, Style.ofEmphasis m.emphasis),
       (Canvas.trailing m.message, Style.ofEmphasis m.emphasis)]) := by
  obtain ⟨cells, hcells, heq⟩ := lanesUpTo_eq hlane hlt h
  have hcolumn : e.canvas.column m.line m.offset =
      .ok (e.columns (lineHeadAt e.content byte)) := by
    rw [hline, hoffset]
    exact column_eq_ok hboundary
  refine (Canvas.bracketRow_eq_ok hcolumn hcells).trans ?_
  rw [heq, reach_eq hlane]
  rfl

theorem lane_lt_of_mem {item : Item}
    (hopen : ∀ lane, lane ∈ openLanes ↔ OpenAt (e.drawing.map Prod.fst) item lane) :
    ∀ lane ∈ openLanes, lane < e.crossing.length := by
  intro lane hlane
  exact lane_lt_of_openAt ((hopen lane).mp hlane)

variable (fits : e.Fits)

include fits

theorem draw_text {line : Nat} (hline : line ∈ e.lines)
    (hopen : ∀ lane, lane ∈ openLanes ↔ OpenAt (e.drawing.map Prod.fst) (.text line) lane) :
    e.canvas.draw openLanes (.text line) = .ok (e.sourceRow line) := by
  have hlanes : ∀ g lane, (g, lane) ∈ e.laned → (lane ∈ openLanes ↔
      decide (e.firstLine g < line ∧ line ≤ e.lastLine g) = true) := by
    intro g lane hlaned
    rw [hopen, openAt_drawing_iff fits hlaned]
    simp only [Item.line, Item.phase, Item.lane, decide_eq_true_eq]
    omega
  obtain ⟨cells, hcells, heq⟩ := lanes_eq (lane_lt_of_mem hopen) hlanes
  have htext : e.canvas.index.lineText (line : Int) = .ok (e.sourceLine line) := by
    obtain ⟨h, hmem, rfl | rfl⟩ := mem_lines.mp hline
    · exact (lineText_sourceLine (fits h hmem).1).1
    · exact (lineText_sourceLine (fits h hmem).2).1
  refine (Canvas.textRow_eq_ok hcells htext).trans ?_
  rw [heq]
  rfl

theorem draw_underline {line : Nat} {h : Highlight} (hmem : h ∈ e.within line)
    (hopen : ∀ lane, lane ∈ openLanes ↔
      OpenAt (e.drawing.map Prod.fst) (.underline (e.placed h).underline) lane) :
    e.canvas.draw openLanes (.underline (e.placed h).underline) = .ok (e.underlineRow h) := by
  obtain ⟨hhighlight, hfirst, hlast⟩ := mem_within.mp hmem
  obtain ⟨hstart, hstop⟩ := fits h hhighlight
  have hline : (e.placed h).underline.line = e.firstLine h := start_line_placed fits hhighlight
  have hlanes : ∀ g lane, (g, lane) ∈ e.laned → (lane ∈ openLanes ↔
      decide (e.firstLine g ≤ e.firstLine h ∧ e.firstLine h ≤ e.lastLine g) = true) := by
    intro g lane hlaned
    rw [hopen, openAt_drawing_iff fits hlaned]
    simp only [Item.line, Item.phase, Item.lane, decide_eq_true_eq, hline]
    omega
  obtain ⟨cells, hcells, heq⟩ := lanes_eq (lane_lt_of_mem hopen) hlanes
  have hcolumn : e.canvas.column (e.placed h).underline.line (e.placed h).underline.startOffset =
      .ok (e.columns (lineHeadAt e.content h.region.start)) := by
    rw [hline]
    exact column_eq_ok hstart
  have hslice : e.canvas.index.slice (e.placed h).underline.startOffset
      (e.placed h).underline.stopOffset = .ok (e.labelled h) :=
    LineIndex.slice_natCast_eq_ok_iff.mpr (between_eq_labelled fits hhighlight)
  refine (Canvas.underlineRow_eq_ok hcolumn hslice hcells).trans ?_
  rw [heq]
  rfl

theorem draw_opening {h : Highlight} {lane : Nat} (hlaned : (h, lane) ∈ e.laned)
    (hopen : ∀ other, other ∈ openLanes ↔
      OpenAt (e.drawing.map Prod.fst) (.bracket ((e.placed h).opening lane)) other) :
    e.canvas.draw openLanes (.bracket ((e.placed h).opening lane)) =
      .ok (e.openingRow h lane) := by
  have hmem := (mem_crossing.mp (mem_crossing_of_mem_laned hlaned)).1
  have hline : ((e.placed h).opening lane).line = e.firstLine h := start_line_placed fits hmem
  have hbelow : ∀ g other, other < lane → (g, other) ∈ e.laned → (other ∈ openLanes ↔
      decide (e.firstLine g ≤ e.firstLine h ∧ e.firstLine h ≤ e.lastLine g) = true) := by
    intro g other hother hlaned'
    rw [hopen, openAt_drawing_iff fits hlaned']
    have hkey : (Item.bracket ((e.placed h).opening lane)).line = e.firstLine h :=
      congrArg Int.ofNat hline
    have hphase : (Item.bracket ((e.placed h).opening lane)).phase = 1 := rfl
    have hlane : (Item.bracket ((e.placed h).opening lane)).lane = lane := rfl
    rw [hkey, hphase, hlane, decide_eq_true_eq]
    omega
  refine (draw_bracket (fits h hmem).1 rfl hline (lane_lt_of_mem_laned hlaned)
    (lane_lt_of_mem hopen) hbelow).trans ?_
  -- an opening row has no message, so its last piece is empty
  exact congrArg Except.ok (Row.ofPieces_append_empty [_, _, _] _)

theorem draw_closing {h : Highlight} {lane : Nat} (hlaned : (h, lane) ∈ e.laned)
    (hopen : ∀ other, other ∈ openLanes ↔
      OpenAt (e.drawing.map Prod.fst) (.bracket ((e.placed h).closing lane)) other) :
    e.canvas.draw openLanes (.bracket ((e.placed h).closing lane)) =
      .ok (e.closingRow h lane) := by
  have hmem := (mem_crossing.mp (mem_crossing_of_mem_laned hlaned)).1
  have hline : ((e.placed h).closing lane).line = e.lastLine h := stop_line_placed fits hmem
  -- a lane below this one that ends on the same line was closed just before
  have hbelow : ∀ g other, other < lane → (g, other) ∈ e.laned → (other ∈ openLanes ↔
      decide (e.firstLine g ≤ e.lastLine h ∧ e.lastLine h < e.lastLine g) = true) := by
    intro g other hother hlaned'
    rw [hopen, openAt_drawing_iff fits hlaned']
    have hkey : (Item.bracket ((e.placed h).closing lane)).line = e.lastLine h :=
      congrArg Int.ofNat hline
    have hphase : (Item.bracket ((e.placed h).closing lane)).phase = 3 := rfl
    have hlane : (Item.bracket ((e.placed h).closing lane)).lane = lane := rfl
    rw [hkey, hphase, hlane, decide_eq_true_eq]
    omega
  exact draw_bracket (fits h hmem).2 rfl hline (lane_lt_of_mem_laned hlaned)
    (lane_lt_of_mem hopen) hbelow

theorem draw_entry {entry : Item × Row} (hentry : entry ∈ e.drawing)
    (hopen : ∀ lane, lane ∈ openLanes ↔ OpenAt (e.drawing.map Prod.fst) entry.1 lane) :
    e.canvas.draw openLanes entry.1 = .ok entry.2 := by
  obtain ⟨line, hline, hat⟩ := mem_drawing.mp hentry
  rcases mem_drawingAt.mp hat with rfl | ⟨h, lane, hlaned, _, rfl⟩ | ⟨h, hlast, rfl⟩ |
    ⟨h, lane, hlaned, _, rfl⟩
  · exact draw_text fits hline hopen
  · exact draw_opening fits hlaned hopen
  · exact draw_underline fits (List.mem_of_getLast? hlast) hopen
  · exact draw_closing fits hlaned hopen

/-- **Drawing.**  The items of an excerpt can all be drawn, each as the row beside it. -/
theorem drawAll_items :
    e.canvas.drawAll [] (e.drawing.map Prod.fst) = .ok (e.lines.sort.flatMap e.rowsAt) := by
  rw [← drawing_map_snd]
  apply Bracketed.drawAll_of_bracketed (drawing_bracketed fits)
  intro entry hentry openLanes hopen
  exact draw_entry fits hentry hopen

end Draw

end Excerpt

/-! ### The excerpt of a layout -/

/-- The excerpt of a registered text. -/
def Excerpt.ofSource (p : Presentation) (gutter : Nat) (source : Source)
    (highlights : List Highlight) : Excerpt where
  presentation := p
  gutter := gutter
  name := source.name
  content := source.content
  highlights := highlights

/-- What a layout has to agree on with an excerpt to be drawn as it. -/
structure Layout.Shows (layout : Layout) (sources : Sources) (e : Excerpt) : Prop where
  index_eq : sources.index layout.source = .ok (LineIndex.ofContent e.content)
  name_eq : layout.name = e.name
  items_eq : layout.items = e.drawing.map Prod.fst
  laneCount_eq : layout.laneCount = e.crossing.length
  line_le_maxLine : ∀ line ∈ e.lines, (line : Int) ≤ layout.maxLine
  fits : e.Fits

/-- A planned layout shows the excerpt of its regions, however it is presented. -/
theorem Layout.exists_shows {sources : Sources} {source : Int} {highlights : List Highlight}
    {layout : Layout} (h : Layout.ofHighlights sources source highlights = .ok layout)
    (p : Presentation) (gutter : Nat) :
    ∃ found, sources.find source = .ok found ∧
      layout.Shows sources (Excerpt.ofSource p gutter found highlights) := by
  obtain ⟨found, hfound, hall, rfl⟩ := Layout.ofHighlights_eq_ok_iff.mp h
  have hindex : found.index = LineIndex.ofContent found.content := LineIndex.eq_ofContent _
  have hfits : (Excerpt.ofSource p gutter found highlights).Fits := by
    intro highlight hmem
    exact (hall highlight hmem).2
  have hplaced : Placed.ofIndex found.index =
      (Excerpt.ofSource p gutter found highlights).placed := by
    rw [hindex]
    rfl
  rw [hplaced]
  have hlaned := congrArg List.length (Excerpt.laned_placed hfits)
  rw [List.length_map, Excerpt.laned, List.length_zipIdx] at hlaned
  refine ⟨found, hfound, ?_, rfl, Excerpt.items_ofPlaced hfits _ _, ?_, ?_, hfits⟩
  · show sources.index source = .ok (LineIndex.ofContent found.content)
    rw [Sources.index, hfound, ← hindex]
    rfl
  · exact congrArg Int.ofNat hlaned
  · intro line hline
    exact Int.ofNat_le.mpr (Excerpt.line_le_lastLine hfits hline)

/-- **Rendering.**  What shows an excerpt renders as its rows. -/
theorem Layout.Shows.render_eq_rows {layout : Layout} {sources : Sources} {e : Excerpt}
    (h : layout.Shows sources e) :
    layout.render sources e.presentation e.gutter = .ok e.rows := by
  have hcanvas : layout.canvas e.presentation e.gutter (LineIndex.ofContent e.content) =
      e.canvas := by
    rw [Layout.canvas, Layout.laneWidth, h.laneCount_eq]
    rfl
  have hheader : layout.headerRow e.presentation e.gutter = e.headerRow := by
    rw [Layout.headerRow, h.name_eq]
    rfl
  rw [Layout.render, h.index_eq, h.items_eq]
  show ((layout.canvas _ _ _).drawAll [] _ >>= _) = _
  rw [hcanvas, Excerpt.drawAll_items h.fits, hheader]
  rfl

/-! ### A small snippet -/

def demoSources : Sources := Sources.ofList [("demo.fun", "fn\n\tend\n")]

def demoHighlights : List Highlight :=
  [{ source := 0, region := { start := 0, stop := 2, message := "here" }, emphasis := .primary },
   { source := 0, region := { start := 1, stop := 7, message := "body" }, emphasis := .secondary }]

def demoLayout : Layout :=
  Layout.ofPlaced 0 "demo.fun"
    (demoHighlights.map (Placed.ofIndex (LineIndex.ofContent "fn\n\tend\n")))

theorem ofHighlights_demo :
    Layout.ofHighlights demoSources 0 demoHighlights = .ok demoLayout := by rfl

end SourceDiagnostics
