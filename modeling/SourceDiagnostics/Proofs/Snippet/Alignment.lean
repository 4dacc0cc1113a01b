import SourceDiagnostics.Proofs.Snippet.Lanes
import SourceDiagnostics.Proofs.Text.Columns

/-!
# Alignment below source text

Underlines and the tips of brackets stand below the text they belong to.  A source row and the
rows below it are put together differently: one shows its line with tabs expanded, the others
count the columns of a part of it.  Since the gutter and the lane area are as wide in both, and
expanding tabs commutes with cutting the line, the columns agree.
-/

namespace SourceDiagnostics

open Text

/-! ### Aligned rows -/

/-- The run of an underline starts below the labelled text and is as wide as it. -/
def UnderlineAligned (p : Presentation) (index : LineIndex) (u : Underline) (source row : Row) :
    Prop :=
  ∃ left before labelled after lead n,
    index.lineText u.line = .ok (before ++ labelled ++ after) ∧
    before.utf8ByteSize + 1 = u.start.column ∧
    index.slice u.startOffset u.stopOffset = .ok labelled ∧
    source.plain = left ++ expandTabs p.tabWidth before ++ expandTabs p.tabWidth labelled ++
      expandTabs p.tabWidth after ∧
    row.plain = lead ++ run (p.glyphs.underline u.emphasis) n ++ Canvas.trailing u.message ∧
    ∀ tab,
      textWidth p.widths tab lead =
        textWidth p.widths tab (left ++ expandTabs p.tabWidth before) ∧
      n = textWidth p.widths tab (expandTabs p.tabWidth labelled)

/-- The tip of a bracket stands below the position it points at, joined to its corner. -/
def BracketAligned (p : Presentation) (index : LineIndex) (m : Marker) (source row : Row) : Prop :=
  ∃ left before after lead n,
    index.lineText m.line = .ok (before ++ after) ∧
    before.utf8ByteSize + 1 = m.location.column ∧
    source.plain = left ++ expandTabs p.tabWidth before ++ expandTabs p.tabWidth after ∧
    row.plain = lead ++ String.singleton (p.glyphs.corner m.bracketEnd) ++
      run p.glyphs.horizontal n ++ String.singleton (p.glyphs.tip m.bracketEnd) ++
      Canvas.trailing m.message ∧
    2 ≤ n ∧
    ∀ tab,
      textWidth p.widths tab (lead ++ String.singleton (p.glyphs.corner m.bracketEnd) ++
          run p.glyphs.horizontal n) =
        textWidth p.widths tab (left ++ expandTabs p.tabWidth before)

namespace Excerpt

variable {e : Excerpt} {isOpen : Highlight → Bool} {line lane : Nat} {h : Highlight}

/-! ### Widths left of the text -/

theorem length_bars (regions : List Highlight) :
    (e.bars isOpen regions).length = 2 * regions.length := by
  induction regions with
  | nil => rfl
  | cons region rest ih =>
      rw [bars, List.flatMap_cons, List.length_append, ← bars, ih]
      show 2 + 2 * rest.length = 2 * (rest.length + 1)
      omega

section Narrow

variable (narrow : e.presentation.DrawsNarrow)

include narrow

theorem isNarrow_border : IsNarrow e.presentation.widths e.presentation.glyphs.border :=
  narrow.isNarrow (by simp [Glyphs.leading])

theorem textWidth_margin (tab : Nat) :
    textWidth e.presentation.widths tab e.margin = e.gutter + 2 := by
  rw [margin, textWidth_append, textWidth_append, textWidth_spaces, textWidth_blank,
    textWidth_singleton (isNarrow_border narrow)]

theorem textWidth_numbered (hfits : (Nat.repr line).length ≤ e.gutter) (tab : Nat) :
    textWidth e.presentation.widths tab (e.numbered line) = e.gutter + 2 := by
  have hnumber : textWidth e.presentation.widths tab (alignRight e.gutter (toString line)) =
      e.gutter := textWidth_alignRight_repr hfits tab
  rw [numbered, textWidth_append, textWidth_append, hnumber, textWidth_blank,
    textWidth_singleton (isNarrow_border narrow)]

theorem isNarrow_of_mem_bars {regions : List Highlight} {c : Char}
    (hc : c ∈ e.bars isOpen regions) : IsNarrow e.presentation.widths c := by
  obtain ⟨region, _, hc⟩ := List.mem_flatMap.mp hc
  rcases List.mem_cons.mp hc with rfl | hbar
  · exact isNarrow_space
  · rw [List.mem_singleton.mp hbar]
    by_cases hopen : isOpen region = true
    · rw [if_pos hopen]
      exact narrow.isNarrow (by simp [Glyphs.leading])
    · rw [if_neg hopen]
      exact isNarrow_space

theorem textWidth_bars_append {regions : List Highlight} (blanks tab : Nat) :
    textWidth e.presentation.widths tab
      (String.ofList (e.bars isOpen regions ++ List.replicate blanks ' ')) =
      2 * regions.length + blanks := by
  rw [textWidth_of_isNarrow]
  · rw [← String.length_toList, String.toList_ofList, List.length_append, length_bars,
      List.length_replicate]
  · intro c hc
    rw [String.toList_ofList, List.mem_append, List.mem_replicate] at hc
    rcases hc with hbar | ⟨_, rfl⟩
    · exact isNarrow_of_mem_bars narrow hbar
    · exact isNarrow_space

theorem textWidth_lanes (tab : Nat) :
    textWidth e.presentation.widths tab (e.lanes isOpen) = 2 * e.crossing.length + 2 :=
  textWidth_bars_append narrow 2 tab

theorem textWidth_lanesUpTo (hlane : lane < e.crossing.length) (tab : Nat) :
    textWidth e.presentation.widths tab (e.lanesUpTo isOpen lane) = 2 * lane + 1 := by
  have hlength : (e.crossing.take lane).length = lane := by
    rw [List.length_take]
    omega
  have hwidth : textWidth e.presentation.widths tab (e.lanesUpTo isOpen lane) =
      2 * (e.crossing.take lane).length + 1 := textWidth_bars_append narrow 1 tab
  rwa [hlength] at hwidth

/-- What stands left of the text in a source row. -/
def leftOfText (e : Excerpt) (line : Nat) : String :=
  e.numbered line ++ e.lanes fun g => e.firstLine g < line ∧ line ≤ e.lastLine g

theorem textWidth_leftOfText (hfits : (Nat.repr line).length ≤ e.gutter) (tab : Nat) :
    textWidth e.presentation.widths tab (e.leftOfText line) =
      e.gutter + 2 + (2 * e.crossing.length + 2) := by
  rw [leftOfText, textWidth_append, textWidth_numbered narrow hfits, textWidth_lanes narrow]

end Narrow

/-! ### The text of a row -/

theorem plain_sourceRow (line : Nat) :
    (e.sourceRow line).plain =
      e.leftOfText line ++ expandTabs e.presentation.tabWidth (e.sourceLine line) := by
  rw [sourceRow, Row.plain_ofPieces, leftOfText]
  apply String.toList_inj.mp
  simp

theorem plain_underlineRow (h : Highlight) :
    (e.underlineRow h).plain = e.margin ++
      e.lanes (fun g => e.firstLine g ≤ e.firstLine h ∧ e.firstLine h ≤ e.lastLine g) ++
      spaces (e.columns (lineHeadAt e.content h.region.start)) ++
      run (e.presentation.glyphs.underline h.emphasis) (e.columns (e.labelled h)) ++
      Canvas.trailing h.region.message := by
  rw [underlineRow, Row.plain_ofPieces]
  apply String.toList_inj.mp
  simp

theorem plain_openingRow (h : Highlight) (lane : Nat) :
    (e.openingRow h lane).plain = e.margin ++
      e.lanesUpTo (fun g => e.firstLine g ≤ e.firstLine h ∧ e.firstLine h ≤ e.lastLine g) lane ++
      e.bracket lane h.region.start e.presentation.glyphs.openCorner
        e.presentation.glyphs.openTip ++ Canvas.trailing "" := by
  rw [openingRow, Row.plain_ofPieces]
  apply String.toList_inj.mp
  simp [Canvas.trailing]

theorem plain_closingRow (h : Highlight) (lane : Nat) :
    (e.closingRow h lane).plain = e.margin ++
      e.lanesUpTo (fun g => e.firstLine g ≤ e.lastLine h ∧ e.lastLine h < e.lastLine g) lane ++
      e.bracket lane h.region.stop e.presentation.glyphs.closeCorner
        e.presentation.glyphs.closeTip ++ Canvas.trailing h.region.message := by
  rw [closingRow, Row.plain_ofPieces]
  apply String.toList_inj.mp
  simp

/-! ### The text of a line -/

theorem sourceLine_eq_head_append {byte : Nat} (hboundary : IsBoundary e.content byte) :
    ∃ after, e.sourceLine (lineAt e.content byte) = lineHeadAt e.content byte ++ after := by
  have hcontent : IsBoundary (LineIndex.ofContent e.content).content byte := hboundary
  obtain ⟨middle, back, _, htext⟩ :=
    LineIndex.slice_of_lineAt_eq hcontent hcontent (Nat.le_refl byte) rfl
  have hsource := (lineText_sourceLine hboundary).1.symm.trans htext
  refine ⟨middle ++ back, ?_⟩
  rw [Except.ok.inj hsource, String.append_assoc]
  rfl

theorem sourceLine_eq_labelled_append (fits : e.Fits) (hmem : h ∈ e.within line) :
    ∃ after, e.sourceLine (e.firstLine h) =
      lineHeadAt e.content h.region.start ++ e.labelled h ++ after := by
  obtain ⟨hhighlight, hfirst, hlast⟩ := mem_within.mp hmem
  obtain ⟨hstart, hstop⟩ := fits h hhighlight
  have hstart' : IsBoundary (LineIndex.ofContent e.content).content h.region.start := hstart
  obtain ⟨middle, back, hslice, htext⟩ := LineIndex.slice_of_lineAt_eq hstart' hstop
    h.region.start_le_stop (hfirst.trans hlast.symm)
  have hbetween := LineIndex.slice_natCast_eq_ok_iff.mp hslice
  rw [LineIndex.content_ofContent, between_eq_labelled fits hhighlight] at hbetween
  have hsource := (lineText_sourceLine hstart).1.symm.trans htext
  refine ⟨back, ?_⟩
  rw [Option.some.inj hbetween]
  exact Except.ok.inj hsource

/-! ### Rows below their line -/

theorem underline_aligned (narrow : e.presentation.DrawsNarrow) (fits : e.Fits)
    (hmem : h ∈ e.within line) (hgutter : (Nat.repr (e.firstLine h)).length ≤ e.gutter) :
    UnderlineAligned e.presentation (LineIndex.ofContent e.content) (e.placed h).underline
      (e.sourceRow (e.firstLine h)) (e.underlineRow h) := by
  have hhighlight := (mem_within.mp hmem).1
  obtain ⟨hstart, hstop⟩ := fits h hhighlight
  obtain ⟨after, hsource⟩ := sourceLine_eq_labelled_append fits hmem
  have hline : (e.placed h).underline.line = e.firstLine h := start_line_placed fits hhighlight
  refine ⟨e.leftOfText (e.firstLine h), lineHeadAt e.content h.region.start, e.labelled h, after,
    _, _, ?_, ?_, ?_, ?_, plain_underlineRow h, ?_⟩
  · rw [hline, ← hsource]
    exact (lineText_sourceLine hstart).1
  · exact (LineIndex.column_locate (x := LineIndex.ofContent e.content) hstart).symm
  · exact LineIndex.slice_natCast_eq_ok_iff.mpr (between_eq_labelled fits hhighlight)
  · rw [plain_sourceRow, hsource, expandTabs_append, expandTabs_append, ← String.append_assoc,
      ← String.append_assoc]
  · intro tab
    rw [textWidth_append, textWidth_append, textWidth_append, textWidth_margin narrow,
      textWidth_lanes narrow, textWidth_leftOfText narrow hgutter, textWidth_spaces,
      textWidth_expandTabs, textWidth_expandTabs]
    exact ⟨rfl, rfl⟩

/-- The columns of a bracket add up: the lane, the corner and the run take what the rest of the
lane area and the text before the tip take in the source row. -/
theorem bracket_aligned (narrow : e.presentation.DrawsNarrow) {m : Marker} {byte : Nat} {row : Row}
    (hboundary : IsBoundary e.content byte)
    (hlocation : m.location = (LineIndex.ofContent e.content).locate byte)
    (hlane : m.lane < e.crossing.length)
    (hplain : row.plain = e.margin ++ e.lanesUpTo isOpen m.lane ++
      e.bracket m.lane byte (e.presentation.glyphs.corner m.bracketEnd)
        (e.presentation.glyphs.tip m.bracketEnd) ++ Canvas.trailing m.message)
    (hgutter : (Nat.repr (lineAt e.content byte)).length ≤ e.gutter) :
    BracketAligned e.presentation (LineIndex.ofContent e.content) m
      (e.sourceRow (lineAt e.content byte)) row := by
  obtain ⟨after, hsource⟩ := sourceLine_eq_head_append hboundary
  have hline : m.line = lineAt e.content byte := by
    rw [Marker.line, hlocation]
    exact LineIndex.line_locate (x := LineIndex.ofContent e.content) hboundary
  have hcorner :
      IsNarrow e.presentation.widths (e.presentation.glyphs.corner m.bracketEnd) := by
    apply narrow.isNarrow
    cases m.bracketEnd <;> simp [Glyphs.leading, Glyphs.corner]
  have hhorizontal : IsNarrow e.presentation.widths e.presentation.glyphs.horizontal := by
    apply narrow.isNarrow
    simp [Glyphs.leading]
  refine ⟨e.leftOfText (lineAt e.content byte), lineHeadAt e.content byte, after,
    e.margin ++ e.lanesUpTo isOpen m.lane,
    2 * (e.crossing.length - m.lane) + e.columns (lineHeadAt e.content byte), ?_, ?_, ?_, ?_, ?_,
    ?_⟩
  · rw [hline, ← hsource]
    exact (lineText_sourceLine hboundary).1
  · rw [hlocation]
    exact (LineIndex.column_locate (x := LineIndex.ofContent e.content) hboundary).symm
  · rw [plain_sourceRow, hsource, expandTabs_append, ← String.append_assoc]
  · rw [hplain, bracket]
    simp only [String.append_assoc]
  · omega
  · intro tab
    simp only [textWidth_append, textWidth_margin narrow, textWidth_leftOfText narrow hgutter,
      textWidth_lanesUpTo narrow hlane, textWidth_singleton hcorner, textWidth_run hhorizontal,
      textWidth_expandTabs, columns]
    omega

end Excerpt

/-! ### Alignment by row -/

variable {sources : Sources} {layout : Layout} {e : Excerpt}

/-- Above every row drawn below a line stands the source row of that line, and only one. -/
theorem Layout.Shows.exists_sourceRow (hshows : layout.Shows sources e) {number line : Nat}
    {item : Item} (hitem : layout.itemOn number = some item) (hline : item.line = line)
    (hphase : 0 < item.phase) (hmem : line ∈ e.lines) :
    ∃ above < number, (∀ other, layout.itemOn other = some (.text line) ↔ other = above) ∧
      e.rows[above]? = some (e.sourceRow line) := by
  have hordered := hshows.bracketed.ordered
  have hentry : (Item.text line, e.sourceRow line) ∈ e.drawing :=
    Excerpt.mem_drawing.mpr ⟨line, hmem, Excerpt.mem_drawingAt.mpr (Or.inl rfl)⟩
  obtain ⟨place, hplace⟩ := List.getElem?_of_mem hentry
  have htext : layout.items[place]? = some (.text line) := by
    rw [hshows.items_eq, List.getElem?_map, hplace]
    rfl
  refine ⟨place + 1, ?_, ?_, ?_⟩
  · cases number with
    | zero => cases hitem
    | succ below =>
        have hbefore : (Item.text line).Before item := Or.inr ⟨hline.symm, Or.inl hphase⟩
        exact Nat.succ_lt_succ ((Bracketed.before_iff_lt hordered htext hitem).mp hbefore)
  · intro other
    constructor
    · intro hother
      cases other with
      | zero => cases hother
      | succ place' => rw [Bracketed.getElem?_inj hordered hother htext]
    · rintro rfl
      exact htext
  · rw [Excerpt.rows, List.getElem?_cons_succ, ← Excerpt.drawing_map_snd, List.getElem?_map, hplace]
    rfl

section Aligned

variable (hshows : layout.Shows sources e) (narrow : e.presentation.DrawsNarrow)
  (hnumber : ∀ line ∈ e.lines, (Nat.repr line).length ≤ e.gutter)

include hshows narrow hnumber

theorem Layout.Shows.underlineRow_aligned {number : Nat} {u : Underline} {row : Row}
    (hitem : layout.itemOn number = some (.underline u)) (hrow : e.rows[number]? = some row) :
    ∃ above < number, ∃ sourceRow,
      (∀ other, layout.itemOn other = some (.text u.line) ↔ other = above) ∧
      e.rows[above]? = some sourceRow ∧
      UnderlineAligned e.presentation (LineIndex.ofContent e.content) u sourceRow row := by
  obtain ⟨place, rfl, hentry⟩ := hshows.exists_entry hitem hrow
  obtain ⟨line, hline, hat⟩ := Excerpt.mem_drawing.mp (List.mem_of_getElem? hentry)
  have hkey : (u.line : Int) = line := Excerpt.line_of_mem_drawingAt hshows.fits hat
  obtain ⟨above, hlt, hunique, habove⟩ :=
    hshows.exists_sourceRow hitem hkey Nat.zero_lt_two hline
  refine ⟨above, hlt, _, ?_, habove, ?_⟩
  · rw [hkey]
    exact hunique
  rcases Excerpt.mem_drawingAt.mp hat with heq | ⟨h, lane, _, _, heq⟩ | ⟨h, hlast, heq⟩ |
    ⟨h, lane, _, _, heq⟩
  · cases heq
  · cases heq
  · cases heq
    have hwithin := List.mem_of_getLast? hlast
    have hfirst := (Excerpt.mem_within.mp hwithin).2.1
    subst hfirst
    exact Excerpt.underline_aligned narrow hshows.fits hwithin (hnumber _ hline)
  · cases heq

theorem Layout.Shows.bracketRow_aligned {number : Nat} {m : Marker} {row : Row}
    (hitem : layout.itemOn number = some (.bracket m)) (hrow : e.rows[number]? = some row) :
    ∃ above < number, ∃ sourceRow,
      (∀ other, layout.itemOn other = some (.text m.line) ↔ other = above) ∧
      e.rows[above]? = some sourceRow ∧
      BracketAligned e.presentation (LineIndex.ofContent e.content) m sourceRow row := by
  have fits := hshows.fits
  obtain ⟨place, rfl, hentry⟩ := hshows.exists_entry hitem hrow
  obtain ⟨line, hline, hat⟩ := Excerpt.mem_drawing.mp (List.mem_of_getElem? hentry)
  have hkey : (m.line : Int) = line := Excerpt.line_of_mem_drawingAt fits hat
  have hphase : 0 < (Item.bracket m).phase := by
    rw [Item.phase]
    cases m.bracketEnd <;> decide
  obtain ⟨above, hlt, hunique, habove⟩ := hshows.exists_sourceRow hitem hkey hphase hline
  refine ⟨above, hlt, _, ?_, habove, ?_⟩
  · rw [hkey]
    exact hunique
  rcases Excerpt.mem_drawingAt.mp hat with heq | ⟨h, lane, hlaned, rfl, heq⟩ | ⟨h, _, heq⟩ |
    ⟨h, lane, hlaned, rfl, heq⟩
  · cases heq
  · cases heq
    have hmem := (Excerpt.mem_crossing.mp (Excerpt.mem_crossing_of_mem_laned hlaned)).1
    exact Excerpt.bracket_aligned narrow (fits h hmem).1 rfl (Excerpt.lane_lt_of_mem_laned hlaned)
      (Excerpt.plain_openingRow h lane) (hnumber _ hline)
  · cases heq
  · cases heq
    have hmem := (Excerpt.mem_crossing.mp (Excerpt.mem_crossing_of_mem_laned hlaned)).1
    exact Excerpt.bracket_aligned narrow (fits h hmem).2 rfl (Excerpt.lane_lt_of_mem_laned hlaned)
      (Excerpt.plain_closingRow h lane) (hnumber _ hline)

end Aligned

/-- **Alignment.**  Whatever the widths of characters, if the glyphs left of a tip take one column
and the gutter takes the largest line number, every underline stands below the text it labels and
is as wide, and the tip of every bracket stands below the position it points at. -/
theorem Layout.rows_aligned {source : Int} {highlights : List Highlight}
    (h : Layout.ofHighlights sources source highlights = .ok layout) {p : Presentation}
    (narrow : p.DrawsNarrow) {gutter : Nat} (hgutter : lineNumberWidth layout.maxLine ≤ gutter) :
    ∃ rows index, layout.render sources p gutter = .ok rows ∧ sources.index source = .ok index ∧
      (∀ number u row, layout.itemOn number = some (.underline u) → rows[number]? = some row →
        ∃ above < number, ∃ sourceRow,
          (∀ other, layout.itemOn other = some (.text u.line) ↔ other = above) ∧
          rows[above]? = some sourceRow ∧ UnderlineAligned p index u sourceRow row) ∧
      ∀ number m row, layout.itemOn number = some (.bracket m) → rows[number]? = some row →
        ∃ above < number, ∃ sourceRow,
          (∀ other, layout.itemOn other = some (.text m.line) ↔ other = above) ∧
          rows[above]? = some sourceRow ∧ BracketAligned p index m sourceRow row := by
  obtain ⟨found, _, hshows⟩ := Layout.exists_shows h p gutter
  have hsource : layout.source = source := by
    obtain ⟨_, _, _, rfl⟩ := Layout.ofHighlights_eq_ok_iff.mp h
    rfl
  have hindex := hshows.index_eq
  rw [hsource] at hindex
  have hnumber : ∀ line ∈ (Excerpt.ofSource p gutter found highlights).lines,
      (Nat.repr line).length ≤ gutter := by
    intro line hline
    have hle := hshows.line_le_maxLine line hline
    exact Nat.le_trans (length_repr_mono (by omega)) hgutter
  refine ⟨_, _, hshows.render_eq_rows, hindex, ?_, ?_⟩
  · intro number u row hitem hrow
    exact hshows.underlineRow_aligned narrow hnumber hitem hrow
  · intro number m row hitem hrow
    exact hshows.bracketRow_aligned narrow hnumber hitem hrow

theorem Layout.rows_aligned_demo :
    Layout.ofHighlights demoSources 0 demoHighlights = .ok demoLayout ∧
      Presentation.DrawsNarrow {} ∧
      ∃ rows index,
        demoLayout.render demoSources {} (lineNumberWidth demoLayout.maxLine) = .ok rows ∧
        demoSources.index 0 = .ok index ∧
        (∀ number u row, demoLayout.itemOn number = some (.underline u) →
          rows[number]? = some row → ∃ above < number, ∃ sourceRow,
            (∀ other, demoLayout.itemOn other = some (.text u.line) ↔ other = above) ∧
            rows[above]? = some sourceRow ∧ UnderlineAligned {} index u sourceRow row) ∧
        ∀ number m row, demoLayout.itemOn number = some (.bracket m) →
          rows[number]? = some row → ∃ above < number, ∃ sourceRow,
            (∀ other, demoLayout.itemOn other = some (.text m.line) ↔ other = above) ∧
            rows[above]? = some sourceRow ∧ BracketAligned {} index m sourceRow row := by
  have narrow : Presentation.DrawsNarrow {} := Presentation.drawsNarrow_of_unicode rfl
  exact ⟨ofHighlights_demo, narrow, Layout.rows_aligned ofHighlights_demo narrow (Nat.le_refl _)⟩

end SourceDiagnostics
