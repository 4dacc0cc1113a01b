import SourceDiagnostics.Proofs.Snippet.Excerpt
import SourceDiagnostics.Proofs.Snippet.OpenLanes

/-!
# The items of a layout

A layout keeps its underlines and markers in tables by line, and drawing reads them line by line
and kind by kind.  This module reads the tables of a planned layout back: its items are those of
the excerpt, `items_ofPlaced`, where each of them stands beside the row it is to become,
`Excerpt.drawing`.  They ascend and bracket their lanes, `drawing_bracketed`.
-/

namespace SourceDiagnostics

open Text

/-! ### Placing regions -/

def Highlight.Fits (content : String) (h : Highlight) : Prop :=
  IsBoundary content h.region.start ∧ IsBoundary content h.region.stop

def Placed.ofIndex (index : LineIndex) (h : Highlight) : Placed where
  highlight := h
  start := index.locate h.region.start
  stop := index.locate h.region.stop

theorem Placed.of?_eq_ok_iff {source : Int} {index : LineIndex} {h : Highlight} {p : Placed} :
    Placed.of? source index h = .ok p ↔
      (h.source = source ∧ h.Fits index.content) ∧ p = Placed.ofIndex index h := by
  unfold Placed.of?
  by_cases hsource : h.source = source
  · rw [if_neg (not_not_intro hsource), Result.bind_eq_ok_iff]
    constructor
    · rintro ⟨start, hstart, hrest⟩
      obtain ⟨stop, hstop, hp⟩ := Result.bind_eq_ok_iff.mp hrest
      rw [rendering_eq_ok_iff, LineIndex.toLocation_natCast_eq_ok_iff] at hstart hstop
      obtain ⟨hfirst, rfl⟩ := hstart
      obtain ⟨hlast, rfl⟩ := hstop
      cases hp
      exact ⟨⟨hsource, hfirst, hlast⟩, rfl⟩
    · rintro ⟨⟨_, hfirst, hlast⟩, rfl⟩
      refine ⟨_, (rendering_eq_ok_iff _ _).mpr (LineIndex.toLocation_natCast hfirst), ?_⟩
      rw [Result.bind_eq_ok_iff]
      exact ⟨_, (rendering_eq_ok_iff _ _).mpr (LineIndex.toLocation_natCast hlast), rfl⟩
  · rw [if_pos hsource]
    constructor
    · intro h
      cases h
    · rintro ⟨⟨h, _⟩, _⟩
      exact absurd h hsource

theorem mapM_of?_eq_ok_iff {source : Int} {index : LineIndex} {highlights : List Highlight}
    {placed : List Placed} :
    highlights.mapM (Placed.of? source index) = .ok placed ↔
      (∀ h ∈ highlights, h.source = source ∧ h.Fits index.content) ∧
        placed = highlights.map (Placed.ofIndex index) := by
  rw [Result.mapM_eq_ok_iff]
  induction highlights generalizing placed with
  | nil => cases placed <;> simp
  | cons h rest ih =>
      cases placed with
      | nil => simp
      | cons p others =>
          rw [List.map_cons, List.map_cons, List.map_cons, List.cons.injEq, List.cons.injEq,
            Placed.of?_eq_ok_iff, ih, List.forall_mem_cons]
          constructor
          · rintro ⟨⟨hfits, rfl⟩, hall, rfl⟩
            exact ⟨⟨hfits, hall⟩, rfl, rfl⟩
          · rintro ⟨⟨hfits, hall⟩, rfl, rfl⟩
            exact ⟨⟨hfits, rfl⟩, hall, rfl⟩

/-- **Layouts.**  Regions are laid out exactly if their source is registered, all of them point
into it, and all their offsets are boundaries of its text. -/
theorem Layout.ofHighlights_eq_ok_iff {sources : Sources} {source : Int}
    {highlights : List Highlight} {layout : Layout} :
    Layout.ofHighlights sources source highlights = .ok layout ↔
      ∃ found, sources.find source = .ok found ∧
        (∀ h ∈ highlights, h.source = source ∧ h.Fits found.content) ∧
        layout = Layout.ofPlaced source found.name
          (highlights.map (Placed.ofIndex found.index)) := by
  unfold Layout.ofHighlights
  rw [Result.bind_eq_ok_iff]
  constructor
  · rintro ⟨found, hfound, hrest⟩
    obtain ⟨placed, hplaced, hlayout⟩ := Result.bind_eq_ok_iff.mp hrest
    obtain ⟨hall, rfl⟩ := mapM_of?_eq_ok_iff.mp hplaced
    cases hlayout
    exact ⟨found, (rendering_eq_ok_iff _ _).mp hfound, hall, rfl⟩
  · rintro ⟨found, hfound, hall, rfl⟩
    refine ⟨found, (rendering_eq_ok_iff _ _).mpr hfound, ?_⟩
    rw [Result.bind_eq_ok_iff]
    exact ⟨_, mapM_of?_eq_ok_iff.mpr ⟨hall, rfl⟩, rfl⟩

theorem stop_line_le_lastLine {p : Placed} {placed : List Placed} (h : p ∈ placed) :
    p.stop.line ≤ lastLine placed := by
  induction placed with
  | nil => cases h
  | cons first rest ih =>
      show p.stop.line ≤ max first.stop.line (lastLine rest)
      rcases List.mem_cons.mp h with rfl | hrest
      · exact Nat.le_max_left ..
      · exact Nat.le_trans (ih hrest) (Nat.le_max_right ..)

/-! ### Tables built line by line -/

/-- A table with the value of a function for each of some lines holds that value. -/
theorem ByLine.at?_filterMap {α : Type} (f : Nat → Option α) (lines : List Nat) (line : Nat) :
    ByLine.at? (lines.filterMap fun l => (f l).map fun a => (Int.ofNat l, a)) line =
      if line ∈ lines then f line else none := by
  -- the last entry for a line decides, so the induction is from the end
  induction lines using List.reverseRecOn with
  | nil => rfl
  | append_singleton lines last ih =>
      rw [List.filterMap_append]
      have hcast : Int.ofNat last = (line : Int) ↔ last = line := Int.ofNat_inj
      cases hf : f last with
      | none =>
          rw [List.filterMap_cons, hf, Option.map_none, List.filterMap_nil, List.append_nil, ih]
          by_cases hlast : last = line
          · subst hlast
            simp [hf]
          · simp [Ne.symm hlast]
      | some a =>
          rw [List.filterMap_cons, hf, Option.map_some, List.filterMap_nil,
            ByLine.at?_append_singleton, ih, if_congr hcast rfl rfl]
          by_cases hlast : last = line
          · subst hlast
            simp [hf]
          · simp [hlast, Ne.symm hlast]

/-- Of the markers on a line, those of one kind are the ends of that kind on that line. -/
theorem markersOn_filter (placed : List Placed) (line : Nat) (bracketEnd : BracketEnd) :
    (markersOn placed line).filter (fun m => m.bracketEnd = bracketEnd) =
      match bracketEnd with
      | .opening => ((laned placed).filter fun entry => entry.1.start.line = line).map
          fun entry => entry.1.opening entry.2
      | .closing => ((laned placed).filter fun entry => entry.1.stop.line = line).map
          fun entry => entry.1.closing entry.2 := by
  unfold markersOn allMarkers
  induction laned placed with
  | nil => cases bracketEnd <;> rfl
  | cons entry rest ih =>
      rw [List.flatMap_cons, List.filter_append, List.map_append, List.filter_append, ih]
      have hopening : (entry.1.opening entry.2).bracketEnd = .opening := rfl
      have hclosing : (entry.1.closing entry.2).bracketEnd = .closing := rfl
      by_cases hfirst : entry.1.start.line = line
      · by_cases hlast : entry.1.stop.line = line
        · cases bracketEnd <;> simp [hfirst, hlast, hopening, hclosing]
        · cases bracketEnd <;> simp [hfirst, hlast, hopening]
      · by_cases hlast : entry.1.stop.line = line
        · cases bracketEnd <;> simp [hfirst, hlast, hclosing]
        · cases bracketEnd <;> simp [hfirst, hlast]

theorem markers_ofPlaced (source : Int) (name : String) (placed : List Placed) :
    (Layout.ofPlaced source name placed).markers =
      (endpointLines placed).filterMap fun l =>
        (if markersOn placed l = [] then none else some (markersOn placed l)).map
          fun markers => (Int.ofNat l, markers) := by
  refine List.filterMap_congr ?_
  intro l _
  cases markersOn placed l <;> rfl

theorem underlines_ofPlaced (source : Int) (name : String) (placed : List Placed) :
    (Layout.ofPlaced source name placed).underlines =
      (endpointLines placed).filterMap fun l =>
        ((underlinedOn placed l).map Placed.underline).map fun u => (Int.ofNat l, u) := by
  refine List.filterMap_congr ?_
  intro l _
  rw [Option.map_map]
  rfl

theorem markersAt_ofPlaced {source : Int} {name : String} {placed : List Placed} {line : Nat}
    (h : line ∈ endpointLines placed) (bracketEnd : BracketEnd) :
    (Layout.ofPlaced source name placed).markersAt line bracketEnd =
      (markersOn placed line).filter fun m => m.bracketEnd = bracketEnd := by
  rw [Layout.markersAt, markers_ofPlaced, ByLine.at?_filterMap, if_pos h]
  by_cases hnil : markersOn placed line = []
  · rw [if_pos hnil, hnil]
    rfl
  · rw [if_neg hnil]
    rfl

theorem underlineAt_ofPlaced {source : Int} {name : String} {placed : List Placed} {line : Nat}
    (h : line ∈ endpointLines placed) :
    (Layout.ofPlaced source name placed).underlines.at? line =
      (underlinedOn placed line).map Placed.underline := by
  rw [underlines_ofPlaced, ByLine.at?_filterMap, if_pos h]

namespace Excerpt

variable (e : Excerpt)

/-! ### Each item beside its row -/

def placed (h : Highlight) : Placed := Placed.ofIndex (LineIndex.ofContent e.content) h

def drawingAt (line : Nat) : List (Item × Row) :=
  (.text line, e.sourceRow line) ::
    (e.laned.filter fun entry => e.firstLine entry.1 = line).map
      (fun entry =>
        (.bracket ((e.placed entry.1).opening entry.2), e.openingRow entry.1 entry.2)) ++
    (e.within line).getLast?.toList.map
      (fun h => (.underline (e.placed h).underline, e.underlineRow h)) ++
    (e.laned.filter fun entry => e.lastLine entry.1 = line).map
      (fun entry =>
        (.bracket ((e.placed entry.1).closing entry.2), e.closingRow entry.1 entry.2))

/-- What is drawn below the header, each item with its row. -/
def drawing : List (Item × Row) := e.lines.sort.flatMap e.drawingAt

theorem drawing_map_snd : e.drawing.map Prod.snd = e.lines.sort.flatMap e.rowsAt := by
  rw [drawing, List.map_flatMap]
  refine List.flatMap_congr ?_
  intro line _
  simp [drawingAt, rowsAt, Function.comp_def]

/-- All regions of an excerpt lie in its text. -/
def Fits : Prop := ∀ h ∈ e.highlights, h.Fits e.content

variable {e}

theorem start_line_placed (fits : e.Fits) {h : Highlight} (hmem : h ∈ e.highlights) :
    (e.placed h).start.line = e.firstLine h :=
  LineIndex.line_locate (fits h hmem).1

theorem stop_line_placed (fits : e.Fits) {h : Highlight} (hmem : h ∈ e.highlights) :
    (e.placed h).stop.line = e.lastLine h :=
  LineIndex.line_locate (fits h hmem).2

theorem firstLine_le_lastLine (fits : e.Fits) {h : Highlight} (hmem : h ∈ e.highlights) :
    e.firstLine h ≤ e.lastLine h :=
  lineAt_mono (fits h hmem).1 (fits h hmem).2 h.region.start_le_stop

theorem line_le_lastLine (fits : e.Fits) {line : Nat} (hline : line ∈ e.lines) :
    line ≤ SourceDiagnostics.lastLine (e.highlights.map e.placed) := by
  obtain ⟨h, hmem, hends⟩ := mem_lines.mp hline
  have hlast : (e.placed h).stop.line ≤ SourceDiagnostics.lastLine (e.highlights.map e.placed) :=
    stop_line_le_lastLine (List.mem_map_of_mem hmem)
  rw [stop_line_placed fits hmem] at hlast
  rcases hends with rfl | rfl
  · exact Nat.le_trans (firstLine_le_lastLine fits hmem) hlast
  · exact hlast

theorem laned_placed (fits : e.Fits) :
    SourceDiagnostics.laned (e.highlights.map e.placed) =
      e.laned.map fun entry => (e.placed entry.1, entry.2) := by
  have hcross : (e.highlights.map e.placed).filter Placed.crossesLines =
      e.crossing.map e.placed := by
    rw [List.filter_map, crossing]
    congr 1
    refine List.filter_congr ?_
    intro h hmem
    have hle := firstLine_le_lastLine fits hmem
    simp only [Function.comp_apply, Placed.crossesLines, start_line_placed fits hmem,
      stop_line_placed fits hmem]
    exact decide_eq_decide.mpr (by omega)
  rw [SourceDiagnostics.laned, hcross, List.zipIdx_map, laned]
  rfl

theorem underlinedOn_placed (fits : e.Fits) (line : Nat) :
    underlinedOn (e.highlights.map e.placed) line = (e.within line).getLast?.map e.placed := by
  have hwithin : (e.highlights.map e.placed).filter (Placed.liesOn line) =
      (e.within line).map e.placed := by
    rw [List.filter_map, within]
    congr 1
    refine List.filter_congr ?_
    intro h hmem
    simp only [Function.comp_apply, Placed.liesOn, start_line_placed fits hmem,
      stop_line_placed fits hmem]
  rw [underlinedOn, hwithin, List.getLast?_map]

theorem endpointLines_placed (fits : e.Fits) :
    endpointLines (e.highlights.map e.placed) = e.lines.sort := by
  have hmem : ∀ line, line ∈ endpointLines (e.highlights.map e.placed) ↔ line ∈ e.lines.sort := by
    intro line
    rw [mem_endpointLines, Finset.mem_sort, mem_lines]
    constructor
    · rintro ⟨p, hp, hline⟩
      obtain ⟨h, hh, rfl⟩ := List.mem_map.mp hp
      rw [start_line_placed fits hh, stop_line_placed fits hh] at hline
      exact ⟨h, hh, hline⟩
    · rintro ⟨h, hh, hline⟩
      rw [← start_line_placed fits hh, ← stop_line_placed fits hh] at hline
      exact ⟨e.placed h, List.mem_map_of_mem hh, hline⟩
  have hsorted : (e.lines.sort).Pairwise (· < ·) := e.lines.sortedLT_sort.pairwise
  have hperm := (List.perm_ext_iff_of_nodup
    ((endpointLines_pairwise _).imp Nat.ne_of_lt) (hsorted.imp Nat.ne_of_lt)).mpr hmem
  exact hperm.eq_of_pairwise' (endpointLines_pairwise _) hsorted

/-- **Reading the tables back.**  The items of the layout of some regions are those of the
excerpt. -/
theorem items_ofPlaced (fits : e.Fits) (source : Int) (name : String) :
    (Layout.ofPlaced source name (e.highlights.map e.placed)).items = e.drawing.map Prod.fst := by
  have hlines : (Layout.ofPlaced source name (e.highlights.map e.placed)).lines =
      e.lines.sort.map Int.ofNat := by
    rw [← endpointLines_placed fits]
    rfl
  rw [Layout.items, hlines, drawing, List.map_flatMap, List.flatMap_map]
  refine List.flatMap_congr ?_
  intro line hline
  have hmem : line ∈ endpointLines (e.highlights.map e.placed) := by
    rw [endpointLines_placed fits]
    exact hline
  have hopening : ((laned e).filter fun entry => (e.placed entry.1).start.line = line) =
      (laned e).filter fun entry => e.firstLine entry.1 = line := by
    refine List.filter_congr ?_
    intro entry hentry
    rw [start_line_placed fits (mem_crossing.mp (mem_crossing_of_mem_laned hentry)).1]
  have hclosing : ((laned e).filter fun entry => (e.placed entry.1).stop.line = line) =
      (laned e).filter fun entry => e.lastLine entry.1 = line := by
    refine List.filter_congr ?_
    intro entry hentry
    rw [stop_line_placed fits (mem_crossing.mp (mem_crossing_of_mem_laned hentry)).1]
  show (Layout.ofPlaced source name (e.highlights.map e.placed)).itemsAt (line : Int) = _
  rw [Layout.itemsAt, markersAt_ofPlaced hmem, markersAt_ofPlaced hmem, underlineAt_ofPlaced hmem,
    markersOn_filter, markersOn_filter, laned_placed fits, underlinedOn_placed fits,
    List.filter_map, List.filter_map]
  simp only [Function.comp_def, hopening, hclosing, drawingAt, List.map_cons, List.map_append,
    List.map_map, Option.toList_map, List.cons_append]

/-! ### The items ascend and bracket their lanes -/

theorem mem_drawingAt {line : Nat} {entry : Item × Row} :
    entry ∈ e.drawingAt line ↔
      entry = (.text line, e.sourceRow line) ∨
      (∃ h lane, (h, lane) ∈ e.laned ∧ e.firstLine h = line ∧
        (.bracket ((e.placed h).opening lane), e.openingRow h lane) = entry) ∨
      (∃ h, (e.within line).getLast? = some h ∧
        (.underline (e.placed h).underline, e.underlineRow h) = entry) ∨
      (∃ h lane, (h, lane) ∈ e.laned ∧ e.lastLine h = line ∧
        (.bracket ((e.placed h).closing lane), e.closingRow h lane) = entry) := by
  simp only [drawingAt, List.cons_append, List.mem_cons, List.mem_append, List.mem_map,
    List.mem_filter, decide_eq_true_eq, Option.mem_toList, Prod.exists, or_assoc, and_assoc]

theorem mem_drawing {entry : Item × Row} :
    entry ∈ e.drawing ↔ ∃ line ∈ e.lines, entry ∈ e.drawingAt line := by
  simp only [drawing, List.mem_flatMap, Finset.mem_sort]

section Keys

variable (fits : e.Fits)

include fits

theorem line_of_mem_drawingAt {line : Nat} {entry : Item × Row} (h : entry ∈ e.drawingAt line) :
    entry.1.line = line := by
  rcases mem_drawingAt.mp h with rfl | ⟨h, lane, hmem, rfl, rfl⟩ | ⟨h, hlast, rfl⟩ |
    ⟨h, lane, hmem, rfl, rfl⟩
  · rfl
  · exact congrArg Int.ofNat
      (start_line_placed fits (mem_crossing.mp (mem_crossing_of_mem_laned hmem)).1)
  · obtain ⟨hmem, hfirst, _⟩ := mem_within.mp (List.mem_of_getLast? hlast)
    rw [← hfirst]
    exact congrArg Int.ofNat (start_line_placed fits hmem)
  · exact congrArg Int.ofNat
      (stop_line_placed fits (mem_crossing.mp (mem_crossing_of_mem_laned hmem)).1)

/-- On one line the items ascend: phase by phase, and brackets of one kind lane by lane. -/
theorem drawingAt_pairwise (line : Nat) :
    (e.drawingAt line).Pairwise fun a b => a.1.Before b.1 := by
  -- all items of a line agree on it, so only phases and lanes are left to compare
  have hphase : ∀ a ∈ e.drawingAt line, ∀ b ∈ e.drawingAt line,
      a.1.phase < b.1.phase ∨ a.1.phase = b.1.phase ∧ a.1.lane < b.1.lane →
        a.1.Before b.1 := by
    intro a ha b hb h
    exact Or.inr ⟨by rw [line_of_mem_drawingAt fits ha, line_of_mem_drawingAt fits hb], h⟩
  refine List.Pairwise.imp_of_mem (fun ha hb h => hphase _ ha _ hb h) ?_
  simp only [drawingAt, List.cons_append, List.pairwise_cons, List.pairwise_append,
    List.pairwise_map, List.mem_append, List.mem_map]
  refine ⟨?_, ⟨?_, ?_, ?_⟩, ?_, ?_⟩
  · rintro other ((⟨entry, _, rfl⟩ | ⟨h, _, rfl⟩) | ⟨entry, _, rfl⟩)
    · exact Or.inl Nat.zero_lt_one
    · exact Or.inl Nat.zero_lt_two
    · exact Or.inl (Nat.zero_lt_succ 2)
  · exact (laned_pairwise.filter _).imp fun h => Or.inr ⟨rfl, h⟩
  · cases (e.within line).getLast? with
    | none => exact List.Pairwise.nil
    | some h => exact List.pairwise_singleton _ _
  · rintro _ ⟨entry, _, rfl⟩ _ ⟨h, _, rfl⟩
    exact Or.inl Nat.one_lt_two
  · exact (laned_pairwise.filter _).imp fun h => Or.inr ⟨rfl, h⟩
  · rintro _ (⟨entry, _, rfl⟩ | ⟨h, _, rfl⟩) _ ⟨entry', _, rfl⟩
    · exact Or.inl (show 1 < 3 by decide)
    · exact Or.inl (show 2 < 3 by decide)

theorem drawing_pairwise : (e.drawing.map Prod.fst).Pairwise Item.Before := by
  rw [List.pairwise_map, drawing, List.pairwise_flatMap]
  refine ⟨fun line _ => drawingAt_pairwise fits line, ?_⟩
  refine e.lines.sortedLT_sort.pairwise.imp ?_
  intro line line' hlt a ha b hb
  refine Or.inl ?_
  rw [line_of_mem_drawingAt fits ha, line_of_mem_drawingAt fits hb]
  exact Int.ofNat_lt.mpr hlt

end Keys

theorem bracket_mem_drawing {m : Marker} :
    Item.bracket m ∈ e.drawing.map Prod.fst ↔
      ∃ h lane, (h, lane) ∈ e.laned ∧
        (m = (e.placed h).opening lane ∨ m = (e.placed h).closing lane) := by
  constructor
  · intro hmem
    obtain ⟨entry, hentry, hitem⟩ := List.mem_map.mp hmem
    obtain ⟨line, _, hat⟩ := mem_drawing.mp hentry
    rcases mem_drawingAt.mp hat with rfl | ⟨h, lane, hlaned, _, rfl⟩ | ⟨h, _, rfl⟩ |
      ⟨h, lane, hlaned, _, rfl⟩
    · cases hitem
    · cases hitem
      exact ⟨h, lane, hlaned, Or.inl rfl⟩
    · cases hitem
    · cases hitem
      exact ⟨h, lane, hlaned, Or.inr rfl⟩
  · rintro ⟨h, lane, hlaned, hm⟩
    have hhighlight := (mem_crossing.mp (mem_crossing_of_mem_laned hlaned)).1
    rcases hm with rfl | rfl
    · refine List.mem_map.mpr ⟨_, mem_drawing.mpr ⟨e.firstLine h, ?_, mem_drawingAt.mpr
        (Or.inr (Or.inl ⟨h, lane, hlaned, rfl, rfl⟩))⟩, rfl⟩
      exact mem_lines.mpr ⟨h, hhighlight, Or.inl rfl⟩
    · refine List.mem_map.mpr ⟨_, mem_drawing.mpr ⟨e.lastLine h, ?_, mem_drawingAt.mpr
        (Or.inr (Or.inr (Or.inr ⟨h, lane, hlaned, rfl, rfl⟩)))⟩, rfl⟩
      exact mem_lines.mpr ⟨h, hhighlight, Or.inr rfl⟩

/-- A lane belongs to one region. -/
theorem laned_unique {h h' : Highlight} {lane : Nat} (hmem : (h, lane) ∈ e.laned)
    (hmem' : (h', lane) ∈ e.laned) : h = h' := by
  rw [mem_laned] at hmem hmem'
  rw [hmem] at hmem'
  exact Option.some.inj hmem'

theorem opening_mem_drawing {m : Marker} (hopening : m.bracketEnd = .opening) :
    Item.bracket m ∈ e.drawing.map Prod.fst ↔
      ∃ h lane, (h, lane) ∈ e.laned ∧ m = (e.placed h).opening lane := by
  rw [bracket_mem_drawing]
  constructor
  · rintro ⟨h, lane, hlaned, rfl | rfl⟩
    · exact ⟨h, lane, hlaned, rfl⟩
    · cases hopening
  · rintro ⟨h, lane, hlaned, rfl⟩
    exact ⟨h, lane, hlaned, Or.inl rfl⟩

theorem closing_mem_drawing {m : Marker} (hclosing : m.bracketEnd = .closing) :
    Item.bracket m ∈ e.drawing.map Prod.fst ↔
      ∃ h lane, (h, lane) ∈ e.laned ∧ m = (e.placed h).closing lane := by
  rw [bracket_mem_drawing]
  constructor
  · rintro ⟨h, lane, hlaned, rfl | rfl⟩
    · cases hclosing
    · exact ⟨h, lane, hlaned, rfl⟩
  · rintro ⟨h, lane, hlaned, rfl⟩
    exact ⟨h, lane, hlaned, Or.inr rfl⟩

theorem opening_before_iff (fits : e.Fits) {h : Highlight} {lane : Nat}
    (hlaned : (h, lane) ∈ e.laned) (item : Item) :
    Item.Before (.bracket ((e.placed h).opening lane)) item ↔
      (e.firstLine h : Int) < item.line ∨ (e.firstLine h : Int) = item.line ∧
        (1 < item.phase ∨ 1 = item.phase ∧ lane < item.lane) := by
  rw [← start_line_placed fits (mem_crossing.mp (mem_crossing_of_mem_laned hlaned)).1]
  exact Iff.rfl

theorem closing_before_iff (fits : e.Fits) {h : Highlight} {lane : Nat}
    (hlaned : (h, lane) ∈ e.laned) (item : Item) :
    Item.Before (.bracket ((e.placed h).closing lane)) item ↔
      (e.lastLine h : Int) < item.line ∨ (e.lastLine h : Int) = item.line ∧
        (3 < item.phase ∨ 3 = item.phase ∧ lane < item.lane) := by
  rw [← stop_line_placed fits (mem_crossing.mp (mem_crossing_of_mem_laned hlaned)).1]
  exact Iff.rfl

/-- **Brackets.**  The items of an excerpt ascend, and each lane is opened and closed once, in
this order. -/
theorem drawing_bracketed (fits : e.Fits) : Bracketed (e.drawing.map Prod.fst) where
  ordered := drawing_pairwise fits
  unique m m' hm hm' hend hlane := by
    obtain ⟨h, lane, hlaned, hmarker⟩ := bracket_mem_drawing.mp hm
    obtain ⟨h', lane', hlaned', hmarker'⟩ := bracket_mem_drawing.mp hm'
    rcases hmarker with rfl | rfl
    · rcases hmarker' with rfl | rfl
      · cases hlane
        rw [laned_unique hlaned hlaned']
      · cases hend
    · rcases hmarker' with rfl | rfl
      · cases hend
      · cases hlane
        rw [laned_unique hlaned hlaned']
  opens_of_closes lane := by
    rintro ⟨m, hm, hclosing, hlane⟩
    obtain ⟨h, lane', hlaned, rfl⟩ := (closing_mem_drawing hclosing).mp hm
    exact ⟨(e.placed h).opening lane', bracket_mem_drawing.mpr ⟨h, lane', hlaned, Or.inl rfl⟩,
      rfl, hlane⟩
  opens_before m m' hm hm' hopening hclosing hlane := by
    obtain ⟨h, lane, hlaned, rfl⟩ := (opening_mem_drawing hopening).mp hm
    obtain ⟨h', lane', hlaned', rfl⟩ := (closing_mem_drawing hclosing).mp hm'
    cases hlane
    have hsame := laned_unique hlaned hlaned'
    subst hsame
    obtain ⟨hmem, hlt⟩ := mem_crossing.mp (mem_crossing_of_mem_laned hlaned)
    refine (opening_before_iff fits hlaned _).mpr (Or.inl ?_)
    show (e.firstLine h : Int) < (e.placed h).stop.line
    rw [stop_line_placed fits hmem]
    exact Int.ofNat_lt.mpr hlt

/-- Only the lanes of regions are ever open. -/
theorem lane_lt_of_openAt {item : Item} {lane : Nat}
    (h : OpenAt (e.drawing.map Prod.fst) item lane) : lane < e.crossing.length := by
  obtain ⟨⟨m, hm, hopening, rfl, _⟩, _⟩ := h
  obtain ⟨h, lane, hlaned, rfl⟩ := (opening_mem_drawing hopening).mp hm
  exact lane_lt_of_mem_laned hlaned

/-- Whether a lane is open at an item, said by the lines of its region. -/
theorem openAt_drawing_iff (fits : e.Fits) {h : Highlight} {lane : Nat}
    (hlaned : (h, lane) ∈ e.laned) (item : Item) :
    OpenAt (e.drawing.map Prod.fst) item lane ↔
      ((e.firstLine h : Int) < item.line ∨ (e.firstLine h : Int) = item.line ∧
        (1 < item.phase ∨ 1 = item.phase ∧ lane < item.lane)) ∧
      ¬ ((e.lastLine h : Int) < item.line ∨ (e.lastLine h : Int) = item.line ∧
        (3 < item.phase ∨ 3 = item.phase ∧ lane < item.lane)) := by
  rw [← opening_before_iff fits hlaned, ← closing_before_iff fits hlaned]
  constructor
  · rintro ⟨⟨m, hm, hopening, hlane, hbefore⟩, hcloses⟩
    obtain ⟨h', lane', hlaned', rfl⟩ := (opening_mem_drawing hopening).mp hm
    cases hlane
    have hsame := laned_unique hlaned' hlaned
    subst hsame
    refine ⟨hbefore, ?_⟩
    intro hclosed
    exact hcloses ⟨_, bracket_mem_drawing.mpr ⟨h', _, hlaned, Or.inr rfl⟩, rfl, rfl, hclosed⟩
  · rintro ⟨hopened, hcloses⟩
    refine ⟨⟨_, bracket_mem_drawing.mpr ⟨h, lane, hlaned, Or.inl rfl⟩, rfl, rfl, hopened⟩, ?_⟩
    rintro ⟨m, hm, hclosing, hlane, hbefore⟩
    obtain ⟨h', lane', hlaned', rfl⟩ := (closing_mem_drawing hclosing).mp hm
    cases hlane
    have hsame := laned_unique hlaned' hlaned
    subst hsame
    exact hcloses hbefore

end Excerpt

end SourceDiagnostics
