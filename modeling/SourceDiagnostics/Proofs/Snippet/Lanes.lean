import SourceDiagnostics.Proofs.Snippet.Rendering

/-!
# Lanes in rendered snippets

What a reader sees of the lanes, by row number.  Every lane of a planned layout has one opening
row and, further down, one closing row.  A lane is open on the rows behind its opening row, up to
and including its closing row, and the characters right of the border show exactly the open lanes:
on source rows and below underlines in the whole lane area, on the row of a bracket up to its
corner.  Rows are numbered from zero, which is the header.
-/

namespace SourceDiagnostics

open Text

/-! ### Items by number -/

namespace Bracketed

variable {items : List Item} {a b : Item} {i j : Nat}

theorem before_of_lt (h : items.Pairwise Item.Before) (hi : items[i]? = some a)
    (hj : items[j]? = some b) (hlt : i < j) : a.Before b := by
  obtain ⟨hilen, rfl⟩ := List.getElem?_eq_some_iff.mp hi
  obtain ⟨hjlen, rfl⟩ := List.getElem?_eq_some_iff.mp hj
  exact List.pairwise_iff_getElem.mp h i j hilen hjlen hlt

/-- Ascending items stand in the order of their numbers. -/
theorem before_iff_lt (h : items.Pairwise Item.Before) (hi : items[i]? = some a)
    (hj : items[j]? = some b) : a.Before b ↔ i < j := by
  constructor
  · intro hbefore
    by_contra hge
    rcases Nat.lt_or_eq_of_le (Nat.not_lt.mp hge) with hlt | rfl
    · exact hbefore.asymm (before_of_lt h hj hi hlt)
    · have hsame : a = b := Option.some.inj (hi.symm.trans hj)
      subst hsame
      exact Item.Before.irrefl a hbefore
  · intro hlt
    exact before_of_lt h hi hj hlt

theorem getElem?_inj (h : items.Pairwise Item.Before) (hi : items[i]? = some a)
    (hj : items[j]? = some a) : i = j := by
  rcases Nat.lt_trichotomy i j with hlt | heq | hlt
  · exact absurd (before_of_lt h hi hj hlt) (Item.Before.irrefl a)
  · exact heq
  · exact absurd (before_of_lt h hj hi hlt) (Item.Before.irrefl a)

end Bracketed

/-! ### Brackets by row -/

namespace Layout

/-- The item that a row is drawn for; the header has none. -/
def itemOn (layout : Layout) : Nat → Option Item
  | 0 => none
  | number + 1 => layout.items[number]?

def HasBracketOn (layout : Layout) (bracketEnd : BracketEnd) (lane number : Nat) : Prop :=
  ∃ m, layout.itemOn number = some (.bracket m) ∧ m.bracketEnd = bracketEnd ∧ m.lane = lane

/-- A lane is open on a row if it is opened on an earlier one, and not closed on an earlier one. -/
def IsOpenOn (layout : Layout) (lane number : Nat) : Prop :=
  (∃ opened < number, layout.HasBracketOn .opening lane opened) ∧
    ¬ ∃ closed < number, layout.HasBracketOn .closing lane closed

variable {layout : Layout} {bracketEnd : BracketEnd} {lane number : Nat} {item : Item}

theorem hasBracketOn_succ :
    layout.HasBracketOn bracketEnd lane (number + 1) ↔
      ∃ m, layout.items[number]? = some (.bracket m) ∧ m.bracketEnd = bracketEnd ∧
        m.lane = lane := Iff.rfl

theorem not_hasBracketOn_zero : ¬ layout.HasBracketOn bracketEnd lane 0 := by
  rintro ⟨m, hitem, _⟩
  cases hitem

/-- A lane has at most one row for either end. -/
theorem hasBracketOn_iff_of_getElem? (b : Bracketed layout.items) {m : Marker}
    (hitem : layout.items[number]? = some (.bracket m)) (row : Nat) :
    layout.HasBracketOn m.bracketEnd m.lane row ↔ row = number + 1 := by
  constructor
  · intro hrow
    cases row with
    | zero => exact absurd hrow not_hasBracketOn_zero
    | succ other =>
        obtain ⟨m', hitem', hend, hlane⟩ := hasBracketOn_succ.mp hrow
        have hsame := b.unique m' m (List.mem_of_getElem? hitem') (List.mem_of_getElem? hitem)
          hend hlane
        rw [hsame] at hitem'
        rw [Bracketed.getElem?_inj b.ordered hitem' hitem]
  · rintro rfl
    exact hasBracketOn_succ.mpr ⟨m, hitem, rfl, rfl⟩

theorem exists_lt_hasBracketOn_iff (b : Bracketed layout.items)
    (hitem : layout.items[number]? = some item) :
    (∃ row < number + 1, layout.HasBracketOn bracketEnd lane row) ↔
      ∃ m, Item.bracket m ∈ layout.items ∧ m.bracketEnd = bracketEnd ∧ m.lane = lane ∧
        Item.Before (.bracket m) item := by
  constructor
  · rintro ⟨row, hlt, hrow⟩
    cases row with
    | zero => exact absurd hrow not_hasBracketOn_zero
    | succ other =>
        obtain ⟨m, hbracket, hend, hlane⟩ := hasBracketOn_succ.mp hrow
        refine ⟨m, List.mem_of_getElem? hbracket, hend, hlane, ?_⟩
        exact Bracketed.before_of_lt b.ordered hbracket hitem (Nat.lt_of_succ_lt_succ hlt)
  · rintro ⟨m, hmem, hend, hlane, hbefore⟩
    obtain ⟨other, hbracket⟩ := List.getElem?_of_mem hmem
    refine ⟨other + 1, ?_, hasBracketOn_succ.mpr ⟨m, hbracket, hend, hlane⟩⟩
    exact Nat.succ_lt_succ ((Bracketed.before_iff_lt b.ordered hbracket hitem).mp hbefore)

/-- Open by row number is open by what stands before. -/
theorem isOpenOn_iff (b : Bracketed layout.items) (hitem : layout.items[number]? = some item) :
    layout.IsOpenOn lane (number + 1) ↔ OpenAt layout.items item lane := by
  rw [IsOpenOn, exists_lt_hasBracketOn_iff b hitem, exists_lt_hasBracketOn_iff b hitem, OpenAt]

end Layout

/-! ### Cells -/

def Glyphs.corner (glyphs : Glyphs) : BracketEnd → Char
  | .opening => glyphs.openCorner
  | .closing => glyphs.closeCorner

def Glyphs.tip (glyphs : Glyphs) : BracketEnd → Char
  | .opening => glyphs.openTip
  | .closing => glyphs.closeTip

/-- Cells right of the border: bars in the columns of the open lanes, and blanks elsewhere. -/
structure LaneCells (bar : Char) (isOpen : Nat → Prop) (width : Nat) (cells : List Char) :
    Prop where
  length_eq : cells.length = width
  bar_of_open : ∀ lane, laneColumn lane < width → isOpen lane →
    cells[laneColumn lane]? = some bar
  blank : ∀ column < width, (∀ lane, column = laneColumn lane → ¬ isOpen lane) →
    cells[column]? = some ' '

/-- What a row for an item shows right of its border while some lanes are open. -/
def ShowsLanes (p : Presentation) (gutter laneCount : Nat) (isOpen : Nat → Prop) (row : Row) :
    Item → Prop
  | .text line => ∃ cells rest, LaneCells p.glyphs.lane isOpen (2 * laneCount + 2) cells ∧
      row.plain = alignRight gutter (toString line) ++ " " ++
        String.singleton p.glyphs.border ++ String.ofList cells ++ rest
  | .underline _ => ∃ cells rest, LaneCells p.glyphs.lane isOpen (2 * laneCount + 2) cells ∧
      row.plain = spaces gutter ++ " " ++ String.singleton p.glyphs.border ++
        String.ofList cells ++ rest
  | .bracket m => ∃ cells rest, LaneCells p.glyphs.lane isOpen (2 * m.lane + 1) cells ∧
      row.plain = spaces gutter ++ " " ++ String.singleton p.glyphs.border ++
        String.ofList cells ++ String.singleton (p.glyphs.corner m.bracketEnd) ++ rest

namespace Canvas

variable {c : Canvas} {openLanes : List Nat} {isOpen : Nat → Prop} {row : Row}

theorem laneCells_map_laneCell (h : ∀ lane, lane ∈ openLanes ↔ isOpen lane) (width : Nat) :
    LaneCells c.glyphs.lane isOpen width ((List.range width).map (c.laneCell openLanes)) where
  length_eq := by rw [List.length_map, List.length_range]
  bar_of_open := by
    intro lane hlt hopen
    have hmem : laneColumn lane ∈ openLanes.map laneColumn :=
      List.mem_map_of_mem ((h lane).mpr hopen)
    rw [List.getElem?_map, List.getElem?_range hlt, Option.map_some, laneCell, if_pos hmem]
  blank := by
    intro column hlt hclosed
    have hmem : column ∉ openLanes.map laneColumn := by
      intro hmem
      obtain ⟨lane, hlane, rfl⟩ := List.mem_map.mp hmem
      exact hclosed lane rfl ((h lane).mp hlane)
    rw [List.getElem?_map, List.getElem?_range hlt, Option.map_some, laneCell, if_neg hmem]

theorem plain_of_textRow {line : Int} (h : c.textRow openLanes line = .ok row) :
    ∃ cells rest, c.laneArea openLanes = .ok cells ∧
      row.plain = c.numbered line ++ String.ofList cells ++ rest := by
  obtain ⟨cells, hcells, h⟩ := Result.bind_eq_ok_iff.mp h
  obtain ⟨text, _, h⟩ := Result.bind_eq_ok_iff.mp h
  refine ⟨cells, expandTabs c.tabWidth text, hcells, ?_⟩
  rw [← Except.ok.inj h, Row.plain_ofPieces]
  apply String.toList_inj.mp
  simp

theorem plain_of_underlineRow {u : Underline} (h : c.underlineRow openLanes u = .ok row) :
    ∃ cells rest, c.laneArea openLanes = .ok cells ∧
      row.plain = c.margin ++ String.ofList cells ++ rest := by
  obtain ⟨column, _, h⟩ := Result.bind_eq_ok_iff.mp h
  obtain ⟨labelled, _, h⟩ := Result.bind_eq_ok_iff.mp h
  obtain ⟨cells, hcells, h⟩ := Result.bind_eq_ok_iff.mp h
  refine ⟨cells, spaces column ++ (run (c.glyphs.underline u.emphasis)
    (textWidth c.widths c.tabWidth labelled) ++ trailing u.message), hcells, ?_⟩
  rw [← Except.ok.inj h, Row.plain_ofPieces]
  apply String.toList_inj.mp
  simp

theorem plain_of_bracketRow {m : Marker} (h : c.bracketRow openLanes m = .ok row) :
    ∃ cells rest, c.laneArea openLanes = .ok cells ∧
      row.plain = c.margin ++ String.ofList (cells.take (laneColumn m.lane)) ++
        String.singleton (c.cornerAndTip m.bracketEnd).1 ++ rest := by
  obtain ⟨column, _, h⟩ := Result.bind_eq_ok_iff.mp h
  obtain ⟨cells, hcells, h⟩ := Result.bind_eq_ok_iff.mp h
  refine ⟨cells, run c.glyphs.horizontal (c.reach m.lane column) ++
    (String.singleton (c.cornerAndTip m.bracketEnd).2 ++ trailing m.message), hcells, ?_⟩
  rw [← Except.ok.inj h, Row.plain_ofPieces]
  apply String.toList_inj.mp
  simp [cornerAndTip]

end Canvas

namespace Excerpt

variable {e : Excerpt} {openLanes : List Nat} {isOpen : Nat → Prop} {row : Row}

theorem showsLanes_of_draw {item : Item} (hdraw : e.canvas.draw openLanes item = .ok row)
    (hopen : ∀ lane, lane ∈ openLanes ↔ isOpen lane)
    (hlane : ∀ m, item = .bracket m → m.lane < e.crossing.length) :
    ShowsLanes e.presentation e.gutter e.crossing.length isOpen row item := by
  have hwidth : e.canvas.laneWidth.toNat = 2 * e.crossing.length + 2 := by
    show (((e.crossing.length : Int) + 1) * 2).toNat = _
    omega
  have hcells : ∀ cells, e.canvas.laneArea openLanes = .ok cells →
      cells = (List.range (2 * e.crossing.length + 2)).map (e.canvas.laneCell openLanes) := by
    intro cells harea
    rw [← hwidth]
    exact ((Canvas.laneArea_eq_ok_iff _ _ _).mp harea).2
  cases item with
  | text line =>
      obtain ⟨cells, rest, harea, hplain⟩ := Canvas.plain_of_textRow hdraw
      refine ⟨cells, rest, ?_, hplain⟩
      rw [hcells cells harea]
      exact Canvas.laneCells_map_laneCell (c := e.canvas) hopen _
  | underline u =>
      obtain ⟨cells, rest, harea, hplain⟩ := Canvas.plain_of_underlineRow hdraw
      refine ⟨cells, rest, ?_, hplain⟩
      rw [hcells cells harea]
      exact Canvas.laneCells_map_laneCell (c := e.canvas) hopen _
  | bracket m =>
      obtain ⟨cells, rest, harea, hplain⟩ := Canvas.plain_of_bracketRow hdraw
      -- the lane area reaches beyond the lane of the bracket, so cutting it there leaves enough
      have hmin : min (laneColumn m.lane) (2 * e.crossing.length + 2) = 2 * m.lane + 1 := by
        have := hlane m rfl
        unfold laneColumn
        omega
      refine ⟨cells.take (laneColumn m.lane), rest, ?_, ?_⟩
      · rw [hcells cells harea, ← List.map_take, List.take_range, hmin]
        exact Canvas.laneCells_map_laneCell (c := e.canvas) hopen _
      · rw [hplain]
        cases m.bracketEnd <;> rfl

/-- Some list holds just the lanes that are open at an item. -/
theorem exists_openLanes (item : Item) :
    ∃ openLanes : List Nat, ∀ lane,
      lane ∈ openLanes ↔ OpenAt (e.drawing.map Prod.fst) item lane := by
  classical
  refine ⟨(List.range e.crossing.length).filter fun lane =>
    OpenAt (e.drawing.map Prod.fst) item lane, ?_⟩
  intro lane
  rw [List.mem_filter, List.mem_range, decide_eq_true_eq]
  constructor
  · intro h
    exact h.2
  · intro h
    exact ⟨lane_lt_of_openAt h, h⟩

end Excerpt

/-! ### Lanes by row -/

namespace Layout.Shows

variable {sources : Sources} {layout : Layout} {e : Excerpt} (hshows : layout.Shows sources e)

include hshows

theorem bracketed : Bracketed layout.items := by
  rw [hshows.items_eq]
  exact Excerpt.drawing_bracketed hshows.fits

theorem length_rows : e.rows.length = layout.items.length + 1 := by
  rw [Excerpt.rows, ← Excerpt.drawing_map_snd, hshows.items_eq, List.length_cons,
    List.length_map, List.length_map]

/-- The entry of an item stands on the row with its number, one row below its place in the
drawing. -/
theorem exists_entry {number : Nat} {item : Item} {row : Row}
    (hitem : layout.itemOn number = some item) (hrow : e.rows[number]? = some row) :
    ∃ place, number = place + 1 ∧ e.drawing[place]? = some (item, row) := by
  cases number with
  | zero => cases hitem
  | succ place =>
      rw [Excerpt.rows, List.getElem?_cons_succ, ← Excerpt.drawing_map_snd, List.getElem?_map,
        Option.map_eq_some_iff] at hrow
      obtain ⟨entry, hentry, rfl⟩ := hrow
      have hfst : layout.items[place]? = some entry.1 := by
        rw [hshows.items_eq, List.getElem?_map, hentry]
        rfl
      have hsame : entry.1 = item := Option.some.inj (hfst.symm.trans hitem)
      subst hsame
      exact ⟨place, rfl, hentry⟩

theorem lane_lt_of_itemOn {number : Nat} {m : Marker}
    (hitem : layout.itemOn number = some (.bracket m)) : m.lane < e.crossing.length := by
  cases number with
  | zero => cases hitem
  | succ place =>
      have hmem : Item.bracket m ∈ layout.items := List.mem_of_getElem? hitem
      rw [hshows.items_eq] at hmem
      obtain ⟨h, lane, hlaned, rfl | rfl⟩ := Excerpt.bracket_mem_drawing.mp hmem
      · exact Excerpt.lane_lt_of_mem_laned hlaned
      · exact Excerpt.lane_lt_of_mem_laned hlaned

/-- A lane has just two rows for its bracket. -/
theorem exists_bracket_rows {lane : Nat} (hlt : lane < e.crossing.length) :
    ∃ opened closed, opened < closed ∧
      (∀ number, layout.HasBracketOn .opening lane number ↔ number = opened) ∧
      (∀ number, layout.HasBracketOn .closing lane number ↔ number = closed) := by
  have b := hshows.bracketed
  obtain ⟨region, hregion⟩ : ∃ region, (region, lane) ∈ e.laned :=
    ⟨_, Excerpt.mem_laned.mpr (List.getElem?_eq_getElem hlt)⟩
  have hopening := Excerpt.bracket_mem_drawing.mpr ⟨region, lane, hregion, Or.inl rfl⟩
  have hclosing := Excerpt.bracket_mem_drawing.mpr ⟨region, lane, hregion, Or.inr rfl⟩
  rw [← hshows.items_eq] at hopening hclosing
  have hbefore := b.opens_before _ _ hopening hclosing rfl rfl rfl
  obtain ⟨opened, hopened⟩ := List.getElem?_of_mem hopening
  obtain ⟨closed, hclosed⟩ := List.getElem?_of_mem hclosing
  refine ⟨opened + 1, closed + 1, ?_, ?_, ?_⟩
  · exact Nat.succ_lt_succ ((Bracketed.before_iff_lt b.ordered hopened hclosed).mp hbefore)
  · exact hasBracketOn_iff_of_getElem? b hopened
  · exact hasBracketOn_iff_of_getElem? b hclosed

theorem showsLanes {number : Nat} {row : Row} {item : Item} (hrow : e.rows[number]? = some row)
    (hitem : layout.itemOn number = some item) :
    ShowsLanes e.presentation e.gutter e.crossing.length
      (fun lane => layout.IsOpenOn lane number) row item := by
  obtain ⟨place, rfl, hentry⟩ := hshows.exists_entry hitem hrow
  obtain ⟨openLanes, hopen⟩ := Excerpt.exists_openLanes item
  have hdraw := Excerpt.draw_entry hshows.fits (List.mem_of_getElem? hentry) hopen
  apply Excerpt.showsLanes_of_draw hdraw
  · intro lane
    rw [hopen, isOpenOn_iff hshows.bracketed hitem, hshows.items_eq]
  · rintro m rfl
    exact hshows.lane_lt_of_itemOn hitem

end Layout.Shows

/-- **Lanes.**  In a rendered snippet every lane has one opening row and, further down, one closing
row; there are no other bracket rows; and every row below the header shows exactly the lanes that
are open on it. -/
theorem Layout.lanes_continuous {sources : Sources} {source : Int} {highlights : List Highlight}
    {layout : Layout} (h : Layout.ofHighlights sources source highlights = .ok layout)
    (p : Presentation) (gutter : Nat) :
    ∃ (rows : List Row) (laneCount : Nat),
      layout.render sources p gutter = .ok rows ∧ layout.laneCount = laneCount ∧
      rows.length = layout.items.length + 1 ∧
      (∀ lane < laneCount, ∃ opened closed, opened < closed ∧
        (∀ number, layout.HasBracketOn .opening lane number ↔ number = opened) ∧
        (∀ number, layout.HasBracketOn .closing lane number ↔ number = closed)) ∧
      (∀ bracketEnd lane number, layout.HasBracketOn bracketEnd lane number →
        lane < laneCount) ∧
      ∀ number row item, rows[number]? = some row → layout.itemOn number = some item →
        ShowsLanes p gutter laneCount (fun lane => layout.IsOpenOn lane number) row item := by
  obtain ⟨found, _, hshows⟩ := Layout.exists_shows h p gutter
  refine ⟨_, _, hshows.render_eq_rows, hshows.laneCount_eq, hshows.length_rows, ?_, ?_, ?_⟩
  · intro lane hlt
    exact hshows.exists_bracket_rows hlt
  · rintro bracketEnd lane number ⟨m, hitem, _, rfl⟩
    exact hshows.lane_lt_of_itemOn hitem
  · intro number row item hrow hitem
    exact hshows.showsLanes hrow hitem

theorem Layout.lanes_continuous_demo :
    ∃ rows, Layout.ofHighlights demoSources 0 demoHighlights = .ok demoLayout ∧
      demoLayout.render demoSources {} 1 = .ok rows ∧
      ∃ opened closed, opened < closed ∧
        (∀ number, demoLayout.HasBracketOn .opening 0 number ↔ number = opened) ∧
        (∀ number, demoLayout.HasBracketOn .closing 0 number ↔ number = closed) := by
  obtain ⟨rows, laneCount, hrender, hcount, _, hlanes, _⟩ :=
    Layout.lanes_continuous ofHighlights_demo {} 1
  have hone : demoLayout.laneCount = 1 := by
    obtain ⟨found, hfound, hshows⟩ := Layout.exists_shows ofHighlights_demo {} 1
    cases hfound
    rw [hshows.laneCount_eq]
    decide +kernel
  refine ⟨rows, ofHighlights_demo, hrender, hlanes 0 ?_⟩
  omega

end SourceDiagnostics
