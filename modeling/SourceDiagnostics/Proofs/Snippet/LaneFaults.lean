import SourceDiagnostics.Proofs.Snippet.Rendering
import SourceDiagnostics.Proofs.Source.Lines
import Mathlib.Data.Multiset.AddSub

/-!
# Layouts that cannot be drawn

A layout written by hand need not be one that was planned: lines may be repeated, a lane may be
opened twice or never, and the lane area may be too small for it.  As long as its lines and
offsets exist in the source, whether it can be drawn depends on its lanes only.

What has to be known of the lanes is how often each of them is open.  An opening bracket adds its
lane after its row, a closing one takes its lane away once.  A row can be drawn if every open lane
lies in the lane area, and a bracket can be closed if its lane is open; rendering stops at the
first row for which one of these fails, and a row has to be drawn before its lane is closed
(`Layout.render_of_locatable`).
-/

namespace SourceDiagnostics

/-! ### Lanes that are open, with repetition -/

namespace Item

/-- The open lanes after the row of an item. -/
def turn (lanes : Multiset Nat) : Item → Multiset Nat
  | .bracket m =>
      match m.bracketEnd with
      | .opening => m.lane ::ₘ lanes
      | .closing => lanes.erase m.lane
  | _ => lanes

/-- What it takes to get past the row of an item. -/
structure Passes (laneCount : Int) (lanes : Multiset Nat) (item : Item) : Prop where
  fits : ∀ lane ∈ lanes, (lane : Int) ≤ laneCount
  closes : ∀ m, item = .bracket m → m.bracketEnd = .closing → m.lane ∈ lanes

/-- The faults that the row of an item can come to.  The row is drawn first. -/
inductive Fails (laneCount : Int) (lanes : Multiset Nat) : Item → RenderFault → Prop
  | outside {item : Item} {lane : Nat} (hmem : lane ∈ lanes) (hout : laneCount < lane) :
      Fails laneCount lanes item (.laneOutsideArea lane)
  | notOpen {m : Marker} (hfits : ∀ lane ∈ lanes, (lane : Int) ≤ laneCount)
      (hend : m.bracketEnd = .closing) (hclosed : m.lane ∉ lanes) :
      Fails laneCount lanes (.bracket m) (.laneNotOpen m.lane)

/-- The open lanes after the rows of some items. -/
def turnAll (lanes : Multiset Nat) (items : List Item) : Multiset Nat := items.foldl turn lanes

/-- Every row is got past, one after the other. -/
def AllPass (laneCount : Int) (lanes : Multiset Nat) (items : List Item) : Prop :=
  ∀ done item todo, items = done ++ item :: todo → item.Passes laneCount (turnAll lanes done)

variable {laneCount : Int} {lanes : Multiset Nat} {item : Item} {items rest : List Item}

theorem allPass_nil : AllPass laneCount lanes [] := by
  intro done item todo h
  cases done <;> cases h

theorem allPass_cons :
    AllPass laneCount lanes (item :: rest) ↔
      item.Passes laneCount lanes ∧ AllPass laneCount (item.turn lanes) rest := by
  constructor
  · intro h
    exact ⟨h [] item rest rfl, fun done next todo hsplit => h (item :: done) next todo (by
      rw [hsplit, List.cons_append])⟩
  · rintro ⟨hitem, hrest⟩ done next todo hsplit
    cases done with
    | nil =>
        cases hsplit
        exact hitem
    | cons first done =>
        cases hsplit
        exact hrest done next todo rfl

/-- If not every row is got past, there is a first one that is not. -/
theorem exists_first_of_not_allPass (h : ¬ AllPass laneCount lanes items) :
    ∃ done item todo, items = done ++ item :: todo ∧ AllPass laneCount lanes done ∧
      ¬ item.Passes laneCount (turnAll lanes done) := by
  induction items generalizing lanes with
  | nil => exact absurd allPass_nil h
  | cons item rest ih =>
      by_cases hitem : item.Passes laneCount lanes
      · obtain ⟨done, next, todo, rfl, hdone, hnext⟩ := ih fun hrest =>
          h (allPass_cons.mpr ⟨hitem, hrest⟩)
        exact ⟨item :: done, next, todo, rfl, allPass_cons.mpr ⟨hitem, hdone⟩, hnext⟩
      · exact ⟨[], item, rest, rfl, allPass_nil, hitem⟩

theorem passes_iff :
    item.Passes laneCount lanes ↔ (∀ lane ∈ lanes, (lane : Int) ≤ laneCount) ∧
      match item with
      | .bracket m => m.bracketEnd = .closing → m.lane ∈ lanes
      | _ => True := by
  constructor
  · rintro ⟨hfits, hcloses⟩
    refine ⟨hfits, ?_⟩
    cases item with
    | bracket m => exact hcloses m rfl
    | text _ => trivial
    | underline _ => trivial
  · rintro ⟨hfits, hcloses⟩
    refine ⟨hfits, ?_⟩
    rintro m rfl
    exact hcloses

instance (laneCount : Int) (lanes : Multiset Nat) :
    (item : Item) → Decidable (item.Passes laneCount lanes)
  | .bracket _ => decidable_of_iff _ passes_iff.symm
  | .text _ => decidable_of_iff _ passes_iff.symm
  | .underline _ => decidable_of_iff _ passes_iff.symm

instance decidableAllPass (laneCount : Int) :
    (lanes : Multiset Nat) → (items : List Item) → Decidable (AllPass laneCount lanes items)
  | _, [] => isTrue allPass_nil
  | lanes, item :: rest =>
      have := decidableAllPass laneCount (item.turn lanes) rest
      decidable_of_iff _ allPass_cons.symm

end Item

/-! ### Lookups that succeed -/

namespace LineIndex

variable {x : LineIndex}

def HasLine (x : LineIndex) (line : Int) : Prop := 1 ≤ line ∧ line ≤ x.lineCount

theorem HasLine.exists_isLineOf {line : Int} (h : x.HasLine line) :
    ∃ head text tail, Text.IsLineOf x.content head text tail ∧
      line = ((head.toList.count lineBreak + 1 : Nat) : Int) := by
  obtain ⟨hlow, hhigh⟩ := h
  obtain ⟨head, text, tail, cut, hcount⟩ :=
    exists_isLineOf_of_lt (x := x) (n := (line - 1).toNat) (by omega)
  exact ⟨head, text, tail, cut, by omega⟩

theorem HasLine.exists_lineText {line : Int} (h : x.HasLine line) :
    ∃ text, x.lineText line = .ok text := by
  obtain ⟨head, text, tail, cut, rfl⟩ := h.exists_isLineOf
  exact ⟨text, lineText_of_isLineOf cut⟩

theorem HasLine.exists_lineStart {line : Int} (h : x.HasLine line) :
    ∃ start : Nat, x.lineStart line = .ok start ∧ x.HasOffset start := by
  obtain ⟨head, text, tail, cut, rfl⟩ := h.exists_isLineOf
  refine ⟨head.utf8ByteSize, lineStart_of_isLineOf cut, _, rfl, ?_⟩
  rw [cut.text_eq, String.append_assoc]
  exact Text.isBoundary_append _ _

end LineIndex

namespace Canvas

variable {c : Canvas} {laneCount : Int} {openLanes : List Nat} {item : Item} {items : List Item}

/-- Everything that is looked up to draw an item is there. -/
def Locates (c : Canvas) : Item → Prop
  | .text line => c.index.HasLine line
  | .bracket m => c.index.HasLine m.line ∧ c.index.HasOffset m.offset
  | .underline u =>
      c.index.HasLine u.line ∧ c.index.HasOffset u.startOffset ∧ c.index.HasOffset u.stopOffset

theorem exists_column {line : Nat} {offset : Int} (hline : c.index.HasLine line)
    (hoffset : c.index.HasOffset offset) : ∃ column, c.column line offset = .ok column := by
  obtain ⟨start, hstart, hboundary⟩ := hline.exists_lineStart
  obtain ⟨before, hbefore⟩ := hboundary.exists_slice hoffset
  exact ⟨_, column_eq_ok hstart hbefore⟩

/-- With its lookups done, drawing a row is left with the lane area. -/
theorem Locates.exists_row {lanes : List Char} (h : c.Locates item)
    (hlanes : c.laneArea openLanes = .ok lanes) : ∃ row, c.draw openLanes item = .ok row := by
  cases item with
  | text line =>
      obtain ⟨text, htext⟩ := LineIndex.HasLine.exists_lineText h
      exact ⟨_, textRow_eq_ok hlanes htext⟩
  | bracket m =>
      obtain ⟨column, hcolumn⟩ := exists_column h.1 h.2
      exact ⟨_, bracketRow_eq_ok hcolumn hlanes⟩
  | underline u =>
      obtain ⟨hline, hstart, hstop⟩ := h
      obtain ⟨column, hcolumn⟩ := exists_column hline hstart
      obtain ⟨labelled, hlabelled⟩ := hstart.exists_slice hstop
      exact ⟨_, underlineRow_eq_ok hcolumn hlabelled hlanes⟩

theorem Locates.draw_eq_error {fault : RenderFault} (h : c.Locates item)
    (hlanes : c.laneArea openLanes = .error fault) : c.draw openLanes item = .error fault := by
  cases item with
  | text line =>
      rw [draw, textRow, hlanes]
      rfl
  | bracket m =>
      obtain ⟨column, hcolumn⟩ := exists_column h.1 h.2
      rw [draw, bracketRow, hcolumn, hlanes]
      rfl
  | underline u =>
      obtain ⟨hline, hstart, hstop⟩ := h
      obtain ⟨column, hcolumn⟩ := exists_column hline hstart
      obtain ⟨labelled, hlabelled⟩ := hstart.exists_slice hstop
      rw [draw, underlineRow, hcolumn, hlabelled, hlanes]
      rfl

/-! ### One row -/

section Row

variable (hwidth : c.laneWidth = (laneCount + 1) * 2)

include hwidth

theorem laneColumn_lt_iff (lane : Nat) :
    (laneColumn lane : Int) < c.laneWidth ↔ (lane : Int) ≤ laneCount := by
  rw [hwidth, laneColumn]
  omega

theorem exists_laneArea (hfits : ∀ lane ∈ openLanes, (lane : Int) ≤ laneCount) :
    ∃ lanes, c.laneArea openLanes = .ok lanes := by
  refine ⟨_, (c.laneArea_eq_ok_iff openLanes _).mpr ⟨?_, rfl⟩⟩
  intro lane hlane
  exact (laneColumn_lt_iff hwidth lane).mpr (hfits lane hlane)

theorem laneArea_eq_error (hfits : ¬ ∀ lane ∈ openLanes, (lane : Int) ≤ laneCount) :
    ∃ lane ∈ openLanes, laneCount < lane ∧
      c.laneArea openLanes = .error (.laneOutsideArea lane) := by
  unfold laneArea
  split
  · rename_i lane hfind
    have hout : c.laneWidth ≤ laneColumn lane := by simpa using List.find?_some hfind
    refine ⟨lane, List.mem_of_find?_eq_some hfind, ?_, rfl⟩
    have hnot := mt (laneColumn_lt_iff hwidth lane).mpr (by omega)
    omega
  · rename_i hfind
    exfalso
    apply hfits
    intro lane hlane
    have hinside : ¬ c.laneWidth ≤ laneColumn lane := by
      simpa using List.find?_eq_none.mp hfind lane hlane
    exact (laneColumn_lt_iff hwidth lane).mp (by omega)

/-- **One row.**  An item whose row is got past leaves the open lanes as many times open as its
turn says. -/
theorem Locates.exists_lanesAfter (h : c.Locates item)
    (hpasses : item.Passes laneCount openLanes) :
    ∃ row after, c.draw openLanes item = .ok row ∧ item.lanesAfter openLanes = .ok after ∧
      (after : Multiset Nat) = item.turn openLanes := by
  obtain ⟨lanes, hlanes⟩ := exists_laneArea hwidth hpasses.fits
  obtain ⟨row, hrow⟩ := h.exists_row hlanes
  cases item with
  | text line => exact ⟨row, openLanes, hrow, rfl, rfl⟩
  | underline u => exact ⟨row, openLanes, hrow, rfl, rfl⟩
  | bracket m =>
      cases hend : m.bracketEnd with
      | opening =>
          refine ⟨row, openLanes ++ [m.lane], hrow, ?_, ?_⟩
          · simp only [Item.lanesAfter, hend]
          · simp [Item.turn, hend]
      | closing =>
          have hmem : m.lane ∈ openLanes := hpasses.closes m rfl hend
          refine ⟨row, openLanes.erase m.lane, hrow, ?_, ?_⟩
          · simp only [Item.lanesAfter, hend, hmem, if_true]
          · simp [Item.turn, hend]

/-- An item whose row is not got past ends the run with one of its faults. -/
theorem Locates.drawAll_eq_error (h : c.Locates item)
    (hpasses : ¬ item.Passes laneCount openLanes) (rest : List Item) :
    ∃ fault, item.Fails laneCount openLanes fault ∧
      c.drawAll openLanes (item :: rest) = .error fault := by
  by_cases hfits : ∀ lane ∈ openLanes, (lane : Int) ≤ laneCount
  · obtain ⟨lanes, hlanes⟩ := exists_laneArea hwidth hfits
    obtain ⟨row, hrow⟩ := h.exists_row hlanes
    have hcloses : ¬ ∀ m, item = .bracket m → m.bracketEnd = .closing → m.lane ∈ openLanes :=
      fun hcloses => hpasses ⟨hfits, hcloses⟩
    simp only [not_forall] at hcloses
    obtain ⟨m, rfl, hend, hclosed⟩ := hcloses
    refine ⟨_, .notOpen hfits hend hclosed, ?_⟩
    rw [drawAll, hrow]
    simp only [Item.lanesAfter, hend, if_neg hclosed]
    rfl
  · obtain ⟨lane, hmem, hout, hlanes⟩ := laneArea_eq_error hwidth hfits
    refine ⟨_, .outside hmem hout, ?_⟩
    rw [drawAll, h.draw_eq_error hlanes]
    rfl

/-! ### A whole run -/

/-- **A whole run.**  If every row is got past, all of them are drawn. -/
theorem exists_drawAll (hlocates : ∀ item ∈ items, c.Locates item)
    (hpass : Item.AllPass laneCount openLanes items) :
    ∃ rows, c.drawAll openLanes items = .ok rows := by
  induction items generalizing openLanes with
  | nil => exact ⟨[], rfl⟩
  | cons item rest ih =>
      rw [List.forall_mem_cons] at hlocates
      obtain ⟨hitem, hrest⟩ := Item.allPass_cons.mp hpass
      obtain ⟨row, after, hrow, hafter, hturn⟩ := hlocates.1.exists_lanesAfter hwidth hitem
      rw [← hturn] at hrest
      obtain ⟨rows, hrows⟩ := ih hlocates.2 hrest
      exact ⟨_, drawAll_cons_eq_ok_iff.mpr ⟨row, after, rows, hrow, hafter, hrows, rfl⟩⟩

/-- The first row that is not got past decides about the fault. -/
theorem drawAll_append_eq_error {done todo : List Item}
    (hlocates : ∀ other ∈ done ++ item :: todo, c.Locates other)
    (hdone : Item.AllPass laneCount openLanes done)
    (hitem : ¬ item.Passes laneCount (Item.turnAll openLanes done)) :
    ∃ fault, item.Fails laneCount (Item.turnAll openLanes done) fault ∧
      c.drawAll openLanes (done ++ item :: todo) = .error fault := by
  -- the induction is on what has been drawn before, and the open lanes move along with it
  induction done generalizing openLanes with
  | nil =>
      have hlocated : c.Locates item := hlocates item (List.mem_cons_self ..)
      exact hlocated.drawAll_eq_error hwidth hitem todo
  | cons first others ih =>
      rw [List.cons_append, List.forall_mem_cons] at hlocates
      obtain ⟨hfirst, hothers⟩ := Item.allPass_cons.mp hdone
      obtain ⟨row, after, hrow, hafter, hturn⟩ := hlocates.1.exists_lanesAfter hwidth hfirst
      rw [Item.turnAll, List.foldl_cons, ← Item.turnAll, ← hturn] at hitem ⊢
      rw [← hturn] at hothers
      obtain ⟨fault, hfails, herror⟩ := ih hlocates.2 hothers hitem
      refine ⟨fault, hfails, ?_⟩
      rw [List.cons_append, drawAll, hrow]
      show (first.lanesAfter openLanes >>= _) = _
      rw [hafter]
      show (c.drawAll after (others ++ item :: todo) >>= _) = _
      rw [herror]
      rfl

end Row

end Canvas

namespace Layout

variable {layout : Layout} {sources : Sources} {found : Source}

/-! ### What a layout draws -/

/-- The lines of a layout and the places that are marked on them exist in the source. -/
structure Locatable (layout : Layout) (index : LineIndex) : Prop where
  lines : ∀ line ∈ layout.lines, index.HasLine line
  underlines : ∀ line ∈ layout.lines, ∀ u, layout.underlines.at? line = some u →
    index.HasLine u.line ∧ index.HasOffset u.startOffset ∧ index.HasOffset u.stopOffset
  markers : ∀ line ∈ layout.lines, ∀ m ∈ (layout.markers.at? line).getD [],
    index.HasLine m.line ∧ index.HasOffset m.offset

theorem mem_itemsAt {line : Int} {item : Item} (h : item ∈ layout.itemsAt line) :
    item = .text line ∨ (∃ m ∈ (layout.markers.at? line).getD [], item = .bracket m) ∨
      ∃ u, layout.underlines.at? line = some u ∧ item = .underline u := by
  simp only [itemsAt, markersAt, List.mem_append, List.mem_cons, List.mem_map, List.mem_filter,
    Option.mem_toList] at h
  rcases h with ((rfl | ⟨m, ⟨hm, _⟩, rfl⟩) | ⟨u, hu, rfl⟩) | ⟨m, ⟨hm, _⟩, rfl⟩
  · exact Or.inl rfl
  · exact Or.inr (Or.inl ⟨m, hm, rfl⟩)
  · exact Or.inr (Or.inr ⟨u, hu, rfl⟩)
  · exact Or.inr (Or.inl ⟨m, hm, rfl⟩)

theorem Locatable.locates (h : layout.Locatable found.index) (p : Presentation) (gutter : Nat) :
    ∀ item ∈ layout.items, (layout.canvas p gutter found.index).Locates item := by
  intro item hitem
  obtain ⟨line, hline, hat⟩ := List.mem_flatMap.mp hitem
  rcases mem_itemsAt hat with rfl | ⟨m, hm, rfl⟩ | ⟨u, hu, rfl⟩
  · exact h.lines line hline
  · exact h.markers line hline m hm
  · exact h.underlines line hline u hu

/-- Each marker opens or closes. -/
theorem length_markersAt (layout : Layout) (line : Int) :
    (layout.markersAt line .opening).length + (layout.markersAt line .closing).length =
      ((layout.markers.at? line).getD []).length := by
  rw [markersAt, markersAt]
  induction (layout.markers.at? line).getD [] with
  | nil => rfl
  | cons m rest ih => cases hend : m.bracketEnd <;> simp [hend] <;> omega

theorem length_itemsAt (layout : Layout) (line : Int) :
    (layout.itemsAt line).length =
      1 + ((layout.markers.at? line).getD []).length +
        if (layout.underlines.at? line).isSome then 1 else 0 := by
  rw [← length_markersAt, itemsAt]
  cases layout.underlines.at? line <;> simp <;> omega

theorem render_eq_drawAll (hsource : sources.find layout.source = .ok found) (p : Presentation)
    (gutter : Nat) :
    layout.render sources p gutter =
      ((layout.canvas p gutter found.index).drawAll [] layout.items).map
        (layout.headerRow p gutter :: ·) := by
  rw [render, Sources.index, hsource]
  show ((layout.canvas p gutter found.index).drawAll [] layout.items >>= _) = _
  cases (layout.canvas p gutter found.index).drawAll [] layout.items <;> rfl

/-- **Layouts.**  Take any layout whose source is registered and whose lines and offsets exist in
it.  It is rendered exactly if every row is got past: the open lanes lie in the lane area, and a
bracket that closes finds its lane open.  Otherwise rendering fails with the fault of the first row
that is not got past.  A rendered layout has a header, and for each of its lines the source text,
its markers and what is underlined on it. -/
theorem render_of_locatable (hsource : sources.find layout.source = .ok found)
    (hlocatable : layout.Locatable found.index) (p : Presentation) (gutter : Nat) :
    ((∃ rows, layout.render sources p gutter = .ok rows) ↔
      Item.AllPass layout.laneCount 0 layout.items) ∧
    (∀ done item todo, layout.items = done ++ item :: todo →
      Item.AllPass layout.laneCount 0 done →
      ¬ item.Passes layout.laneCount (Item.turnAll 0 done) →
      ∃ fault, item.Fails layout.laneCount (Item.turnAll 0 done) fault ∧
        layout.render sources p gutter = .error fault) ∧
    ∀ rows, layout.render sources p gutter = .ok rows →
      rows.length = 1 + (layout.lines.map fun line =>
        1 + ((layout.markers.at? line).getD []).length +
          if (layout.underlines.at? line).isSome then 1 else 0).sum := by
  have hwidth : (layout.canvas p gutter found.index).laneWidth = (layout.laneCount + 1) * 2 := rfl
  have hlocates := hlocatable.locates p gutter
  rw [render_eq_drawAll hsource]
  have herror : ∀ done item todo, layout.items = done ++ item :: todo →
      Item.AllPass layout.laneCount 0 done →
      ¬ item.Passes layout.laneCount (Item.turnAll 0 done) →
      ∃ fault, item.Fails layout.laneCount (Item.turnAll 0 done) fault ∧
        ((layout.canvas p gutter found.index).drawAll [] layout.items).map
          (layout.headerRow p gutter :: ·) = .error fault := by
    intro done item todo hsplit hdone hitem
    rw [hsplit] at hlocates ⊢
    obtain ⟨fault, hfails, hdraw⟩ :=
      Canvas.drawAll_append_eq_error hwidth hlocates hdone hitem
    exact ⟨fault, hfails, by rw [hdraw]; rfl⟩
  refine ⟨⟨?_, ?_⟩, herror, ?_⟩
  · rintro ⟨rows, hrows⟩
    by_contra hnot
    obtain ⟨done, item, todo, hsplit, hdone, hitem⟩ := Item.exists_first_of_not_allPass hnot
    obtain ⟨fault, _, hfault⟩ := herror done item todo hsplit hdone hitem
    rw [hrows] at hfault
    cases hfault
  · intro hpass
    obtain ⟨rows, hrows⟩ := Canvas.exists_drawAll hwidth hlocates hpass
    exact ⟨_, by rw [hrows]; rfl⟩
  · intro rows hrows
    cases hdraw : (layout.canvas p gutter found.index).drawAll [] layout.items with
    | error fault =>
        rw [hdraw] at hrows
        cases hrows
    | ok others =>
        rw [hdraw] at hrows
        cases hrows
        rw [List.length_cons, Canvas.length_drawAll hdraw, items, List.length_flatMap,
          Nat.add_comm]
        simp only [length_itemsAt]

end Layout

/-! ### A layout written by hand -/

/-- Where both brackets say that they are. -/
def handPlace : Location := ⟨1, 1, Nat.one_pos, Nat.one_pos⟩

def handOpening : Marker where
  bracketEnd := .opening
  location := handPlace
  offset := 8
  lane := 1
  emphasis := .tertiary
  message := "back"

def handClosing : Marker where
  bracketEnd := .closing
  location := handPlace
  offset := 0
  lane := 1
  emphasis := .primary

/-- The bracket of its only lane opens on the second line and closes on the first. -/
def handLayout (lines : List Int) (laneCount : Int) : Layout where
  source := 0
  name := "by hand"
  lines := lines
  underlines := []
  markers := [(1, [handClosing]), (2, [handOpening])]
  maxLine := 7
  gutterWidth := 0
  laneCount := laneCount

def demoSource : Source := ⟨"demo.fun", LineIndex.ofContent "fn\n\tend\n"⟩

theorem handLayout_locatable {lines : List Int} (h : ∀ line ∈ lines, line = 1 ∨ line = 2)
    (laneCount : Int) : (handLayout lines laneCount).Locatable demoSource.index where
  lines := by
    intro line hline
    rcases h line hline with rfl | rfl <;> exact ⟨by decide +kernel, by decide +kernel⟩
  underlines := by
    intro line _ u hu
    cases hu
  markers := by
    intro line hline m hm
    rcases h line hline with rfl | rfl
    · cases List.mem_singleton.mp hm
      exact ⟨⟨by decide +kernel, by decide +kernel⟩, by decide +kernel⟩
    · cases List.mem_singleton.mp hm
      exact ⟨⟨by decide +kernel, by decide +kernel⟩, by decide +kernel⟩

/-- Drawn from the second line the bracket closes, and may even be opened again; with no room for
the lane this fails at the row below the opening one, and drawn from the first line it fails at the
closing row. -/
theorem Layout.render_of_locatable_byHand :
    (∃ rows, (handLayout [2, 1, 2] 1).render demoSources {} 1 = .ok rows ∧ rows.length = 7) ∧
    (handLayout [2, 1, 2] 0).render demoSources {} 1 = .error (.laneOutsideArea 1) ∧
    (handLayout [1, 2] 1).render demoSources {} 1 = .error (.laneNotOpen 1) := by
  have hsource : ∀ lines laneCount,
      demoSources.find (handLayout lines laneCount).source = .ok demoSource := fun _ _ => rfl
  have hback := @handLayout_locatable [2, 1, 2] (by simp)
  have hforth := @handLayout_locatable [1, 2] (by simp)
  refine ⟨?_, ?_, ?_⟩
  · obtain ⟨hiff, _, hlength⟩ := Layout.render_of_locatable (hsource _ 1) (hback 1) {} 1
    obtain ⟨rows, hrows⟩ := hiff.mpr (by decide +kernel)
    exact ⟨rows, hrows, hlength rows hrows⟩
  · obtain ⟨fault, hfails, herror⟩ :=
      (Layout.render_of_locatable (hsource _ 0) (hback 0) {} 1).2.1
        [.text 2, .bracket handOpening] (.text 1)
        [.bracket handClosing, .text 2, .bracket handOpening] rfl (by decide +kernel)
        (by decide +kernel)
    cases hfails with
    | @outside _ lane hmem _ =>
        have hlane : lane = 1 := Multiset.mem_singleton.mp hmem
        rw [herror, hlane]
  · obtain ⟨fault, hfails, herror⟩ :=
      (Layout.render_of_locatable (hsource _ 1) (hforth 1) {} 1).2.1
        [.text 1] (.bracket handClosing) [.text 2, .bracket handOpening] rfl (by decide +kernel)
        (by decide +kernel)
    cases hfails with
    | outside hmem _ => exact absurd hmem (Multiset.notMem_zero _)
    | notOpen _ _ _ => exact herror

end SourceDiagnostics
