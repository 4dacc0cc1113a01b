import SourceDiagnostics.Proofs.Snippet.Items
import SourceDiagnostics.Proofs.Source.Lines

/-!
# What a layout says of its regions

A layout keeps what it knows of its regions in several places: the lines to draw, a table of
underlines, a table of markers, a number of lanes, a largest line.  `Layout.Describes` says what
each of them holds, in terms of the regions and the locations of their ends alone, and
`Layout.ofHighlights_describes` that whatever is laid out agrees with it.

The tables are sorted by line.  That nothing is lost or doubled in them is a fact about sorting by
a key, `flatMap_filter_perm`: the groups of a list, put behind each other, are the list in another
order.
-/

namespace SourceDiagnostics

open Text Search

/-! ### Sorting by a key -/

theorem flatMap_filter_perm {α κ : Type} [DecidableEq κ] (key : α → κ) {keys : List κ}
    {items : List α} (hnodup : keys.Nodup) (hkeys : ∀ item ∈ items, key item ∈ keys) :
    (keys.flatMap fun k => items.filter fun item => key item = k).Perm items := by
  induction keys generalizing items with
  | nil =>
      have hnil : items = [] := by
        apply List.eq_nil_iff_forall_not_mem.mpr
        intro item hitem
        cases hkeys item hitem
      rw [hnil]
      exact List.Perm.refl []
  | cons k rest ih =>
      obtain ⟨hk, hrest⟩ := List.nodup_cons.mp hnodup
      -- the other groups take nothing from the first one
      have hothers : (rest.flatMap fun k' => items.filter fun item => key item = k') =
          rest.flatMap fun k' =>
            (items.filter fun item => !decide (key item = k)).filter fun item => key item = k' := by
        refine List.flatMap_congr ?_
        intro k' hk'
        rw [List.filter_filter]
        refine List.filter_congr ?_
        intro item _
        by_cases h : key item = k'
        · have hne : ¬ k' = k := by
            rintro rfl
            exact hk hk'
          simp [h, hne]
        · simp [h]
      have hcovered : ∀ item ∈ items.filter fun item => !decide (key item = k), key item ∈ rest := by
        intro item hitem
        obtain ⟨hmem, hne⟩ := List.mem_filter.mp hitem
        rcases List.mem_cons.mp (hkeys item hmem) with heq | hother
        · simp [heq] at hne
        · exact hother
      rw [List.flatMap_cons, hothers]
      exact ((ih hrest hcovered).append_left _).trans (List.filter_append_perm _ items)

/-! ### What a layout should say -/

namespace Placed

/-- Both ends of a region's bracket, each with the line it is drawn below.  Only the end that
closes carries the message. -/
def brackets (p : Placed) (lane : Nat) : List (Int × Marker) :=
  [(p.start.line,
    { bracketEnd := .opening, location := p.start, offset := p.highlight.region.start, lane,
      emphasis := p.highlight.emphasis, message := "" }),
   (p.stop.line,
    { bracketEnd := .closing, location := p.stop, offset := p.highlight.region.stop, lane,
      emphasis := p.highlight.emphasis, message := p.highlight.region.message })]

/-- The region is the last one that lies within a line. -/
def IsLastOn (p : Placed) (placed : List Placed) (line : Int) : Prop :=
  ∃ before after, placed = before ++ p :: after ∧
    (p.start.line = line ∧ p.stop.line = line) ∧
    ∀ q ∈ after, ¬ (q.start.line = line ∧ q.stop.line = line)

end Placed

/-- What a layout says of some regions, placed in a text of `lineCount` lines. -/
structure Layout.Describes (layout : Layout) (lineCount : Nat) (placed : List Placed) : Prop where
  lines_ascend : layout.lines.Pairwise (· < ·)
  mem_lines_iff : ∀ line, line ∈ layout.lines ↔
    ∃ p ∈ placed, line = p.start.line ∨ line = p.stop.line
  line_bounds : ∀ line ∈ layout.lines, 1 ≤ line ∧ line ≤ lineCount
  maxLine_eq : layout.maxLine = layout.lines.getLastD 0
  underlines_nodup : (layout.underlines.map Prod.fst).Nodup
  underlined_iff : ∀ line, line ∈ layout.underlines.map Prod.fst ↔
    ∃ p ∈ placed, p.start.line = line ∧ p.stop.line = line
  underline_eq : ∀ line u, (line, u) ∈ layout.underlines →
    ∃ p : Placed, p.IsLastOn placed line ∧
      u = { start := p.start, stop := p.stop, startOffset := p.highlight.region.start,
            stopOffset := p.highlight.region.stop, message := p.highlight.region.message,
            emphasis := p.highlight.emphasis }
  laneCount_eq : layout.laneCount = (placed.filter fun p => p.start.line ≠ p.stop.line).length
  line_lt_of_ne : ∀ p ∈ placed, p.start.line ≠ p.stop.line → p.start.line < p.stop.line
  markers_nodup : (layout.markers.map Prod.fst).Nodup
  markers_perm : (layout.markers.flatMap fun entry => entry.2.map fun m => (entry.1, m)).Perm
    ((placed.filter fun p => p.start.line ≠ p.stop.line).zipIdx.flatMap
      fun entry => entry.1.brackets entry.2)
  markers_ordered : ∀ entry ∈ layout.markers, entry.2.Pairwise fun m m' => m.lane < m'.lane
  underlines_drawn : ∀ entry ∈ layout.underlines, entry.1 ∈ layout.lines
  markers_drawn : ∀ entry ∈ layout.markers, entry.1 ∈ layout.lines
  laneColumn_lt : ∀ entry ∈ layout.markers, ∀ m ∈ entry.2,
    (laneColumn m.lane : Int) < layout.laneWidth - 1

/-! ### Lines -/

section Lines

variable {placed : List Placed}

theorem getLast?_of_pairwise {lines : List Nat} {line : Nat} (hpairs : lines.Pairwise (· < ·))
    (hmem : line ∈ lines) (hle : ∀ other ∈ lines, other ≤ line) : lines.getLast? = some line := by
  obtain ⟨before, after, rfl⟩ := List.append_of_mem hmem
  cases after with
  | nil => exact List.getLast?_concat
  | cons next rest =>
      have hafter := (List.pairwise_append.mp hpairs).2.1
      have hlt := (List.pairwise_cons.mp hafter).1 next (List.mem_cons_self ..)
      exact absurd (hle next (by simp)) (Nat.not_le.mpr hlt)

theorem exists_stop_line_eq_lastLine (hne : placed ≠ []) :
    ∃ p ∈ placed, p.stop.line = lastLine placed := by
  induction placed with
  | nil => exact absurd rfl hne
  | cons first rest ih =>
      have hmax : lastLine (first :: rest) = max first.stop.line (lastLine rest) := rfl
      by_cases hle : lastLine rest ≤ first.stop.line
      · refine ⟨first, List.mem_cons_self .., ?_⟩
        rw [hmax, Nat.max_eq_left hle]
      · have hrest : rest ≠ [] := by
          rintro rfl
          exact hle (Nat.zero_le _)
        obtain ⟨p, hp, heq⟩ := ih hrest
        refine ⟨p, List.mem_cons_of_mem _ hp, ?_⟩
        rw [hmax, heq, Nat.max_eq_right (Nat.le_of_not_le hle)]

/-- Only ends are compared for the largest line; no region starts below it, as none starts below
its own end. -/
theorem getLastD_endpointLines (hle : ∀ p ∈ placed, p.start.line ≤ p.stop.line) :
    (endpointLines placed).getLastD 0 = lastLine placed := by
  by_cases hne : placed = []
  · rw [hne]
    rfl
  · obtain ⟨p, hp, hlast⟩ := exists_stop_line_eq_lastLine hne
    have hgetLast : (endpointLines placed).getLast? = some (lastLine placed) := by
      apply getLast?_of_pairwise (endpointLines_pairwise placed)
      · exact mem_endpointLines.mpr ⟨p, hp, Or.inr hlast.symm⟩
      · intro line hline
        obtain ⟨q, hq, hends⟩ := mem_endpointLines.mp hline
        have hstop := stop_line_le_lastLine hq
        rcases hends with rfl | rfl
        · exact Nat.le_trans (hle q hq) hstop
        · exact hstop
    rw [List.getLastD_eq_getLast?, hgetLast]
    rfl

end Lines

/-! ### Entries of tables -/

theorem ByLine.mem_filterMap_iff {α : Type} {f : Nat → Option α} {lines : List Nat} {line : Int}
    {a : α} :
    (line, a) ∈ (lines.filterMap fun l => (f l).map fun a => (Int.ofNat l, a)) ↔
      ∃ l ∈ lines, f l = some a ∧ line = l := by
  simp only [List.mem_filterMap, Option.map_eq_some_iff, Prod.mk.injEq]
  constructor
  · rintro ⟨l, hl, b, hb, rfl, rfl⟩
    exact ⟨l, hl, hb, rfl⟩
  · rintro ⟨l, hl, ha, rfl⟩
    exact ⟨l, hl, a, ha, rfl, rfl⟩

theorem ByLine.nodup_filterMap {α : Type} {f : Nat → Option α} {lines : List Nat}
    (hnodup : lines.Nodup) :
    ((lines.filterMap fun l => (f l).map fun a => (Int.ofNat l, a)).map Prod.fst).Nodup := by
  rw [List.Nodup, List.pairwise_map, List.pairwise_filterMap]
  refine hnodup.imp ?_
  intro l l' hne entry hentry entry' hentry' heq
  obtain ⟨a, _, rfl⟩ := Option.map_eq_some_iff.mp hentry
  obtain ⟨a', _, rfl⟩ := Option.map_eq_some_iff.mp hentry'
  exact hne (Int.ofNat_inj.mp heq)

theorem endpointLines_nodup (placed : List Placed) : (endpointLines placed).Nodup :=
  (endpointLines_pairwise placed).imp Nat.ne_of_lt

section Tables

variable {source : Int} {name : String} {placed : List Placed} {line : Int}

/-! ### Underlines -/

theorem liesOn_iff {p : Placed} {n : Nat} :
    p.liesOn n = true ↔ (p.start.line : Int) = n ∧ (p.stop.line : Int) = n := by
  rw [Placed.liesOn, decide_eq_true_eq, Int.ofNat_inj, Int.ofNat_inj]

theorem underlinedOn_eq_some_iff {n : Nat} {p : Placed} :
    underlinedOn placed n = some p ↔ p.IsLastOn placed n := by
  rw [underlinedOn, List.getLast?_filter, List.find?_eq_some_iff_append]
  constructor
  · rintro ⟨hp, later, earlier, hsplit, hlater⟩
    refine ⟨earlier.reverse, later.reverse, ?_, liesOn_iff.mp hp, ?_⟩
    · simpa using congrArg List.reverse hsplit
    · intro q hq hon
      have hnot := hlater q (List.mem_reverse.mp hq)
      rw [liesOn_iff.mpr hon] at hnot
      cases hnot
  · rintro ⟨before, after, rfl, hp, hafter⟩
    refine ⟨liesOn_iff.mpr hp, after.reverse, before.reverse, by simp, ?_⟩
    intro q hq
    have hnot : ¬ q.liesOn n = true := fun h =>
      hafter q (List.mem_reverse.mp hq) (liesOn_iff.mp h)
    simpa using hnot

theorem mem_underlines_iff {u : Underline} :
    (line, u) ∈ (Layout.ofPlaced source name placed).underlines ↔
      ∃ n p, underlinedOn placed n = some p ∧ u = p.underline ∧ line = (n : Nat) := by
  rw [underlines_ofPlaced, ByLine.mem_filterMap_iff]
  constructor
  · rintro ⟨n, _, hu, rfl⟩
    obtain ⟨p, hp, rfl⟩ := Option.map_eq_some_iff.mp hu
    exact ⟨n, p, hp, rfl, rfl⟩
  · rintro ⟨n, p, hp, rfl, rfl⟩
    refine ⟨n, ?_, by rw [hp]; rfl, rfl⟩
    obtain ⟨before, after, rfl, ⟨hstart, _⟩, _⟩ := underlinedOn_eq_some_iff.mp hp
    exact mem_endpointLines.mpr ⟨p, by simp, Or.inl (Int.ofNat_inj.mp hstart).symm⟩

theorem exists_underlinedOn_iff {n : Nat} :
    (∃ p, underlinedOn placed n = some p) ↔ ∃ p ∈ placed, p.liesOn n = true := by
  constructor
  · rintro ⟨p, hp⟩
    obtain ⟨hmem, hon⟩ := List.mem_filter.mp (List.mem_of_getLast? hp)
    exact ⟨p, hmem, hon⟩
  · rintro ⟨p, hmem, hon⟩
    have hne : placed.filter (Placed.liesOn n) ≠ [] :=
      List.ne_nil_of_mem (List.mem_filter.mpr ⟨hmem, hon⟩)
    exact ⟨_, List.getLast?_eq_some_getLast hne⟩

/-! ### Markers -/

theorem crossesLines_iff {p : Placed} : p.crossesLines = true ↔ p.start.line ≠ p.stop.line := by
  rw [Placed.crossesLines, decide_eq_true_eq]

theorem mem_laned {p : Placed} {lane : Nat} (h : (p, lane) ∈ laned placed) :
    p ∈ placed ∧ p.start.line ≠ p.stop.line ∧ lane < (laned placed).length := by
  obtain ⟨_, hlt, heq⟩ := List.mem_zipIdx h
  have hmem : p ∈ placed.filter Placed.crossesLines := by
    rw [heq]
    exact List.getElem_mem _
  rw [List.mem_filter, crossesLines_iff] at hmem
  refine ⟨hmem.1, hmem.2, ?_⟩
  rw [laned, List.length_zipIdx]
  omega

theorem mem_allMarkers {n : Nat} {m : Marker} (h : (n, m) ∈ allMarkers placed) :
    n ∈ endpointLines placed ∧ m.lane < (laned placed).length := by
  obtain ⟨⟨p, lane⟩, hlaned, hends⟩ := List.mem_flatMap.mp h
  obtain ⟨hmem, _, hlt⟩ := mem_laned hlaned
  rcases List.mem_cons.mp hends with heq | hlast
  · cases heq
    exact ⟨mem_endpointLines.mpr ⟨p, hmem, Or.inl rfl⟩, hlt⟩
  · cases List.mem_singleton.mp hlast
    exact ⟨mem_endpointLines.mpr ⟨p, hmem, Or.inr rfl⟩, hlt⟩

/-- Lanes ascend along the markers of one line: no region has both its ends there. -/
theorem allMarkers_pairwise (placed : List Placed) :
    (allMarkers placed).Pairwise fun a b => a.1 = b.1 → a.2.lane < b.2.lane := by
  rw [allMarkers, List.pairwise_flatMap]
  constructor
  · rintro ⟨p, lane⟩ hlaned
    have hne := (mem_laned hlaned).2.1
    exact List.pairwise_pair.mpr fun heq => absurd heq hne
  · refine (zipIdx_pairwise _).imp ?_
    rintro ⟨p, lane⟩ ⟨p', lane'⟩ hlt a ha b hb _
    have hfirst : a.2.lane = lane := by
      rcases List.mem_cons.mp ha with rfl | ha
      · rfl
      · rw [List.mem_singleton.mp ha]
        rfl
    have hsecond : b.2.lane = lane' := by
      rcases List.mem_cons.mp hb with rfl | hb
      · rfl
      · rw [List.mem_singleton.mp hb]
        rfl
    rw [hfirst, hsecond]
    exact hlt

theorem markersOn_pairwise (placed : List Placed) (n : Nat) :
    (markersOn placed n).Pairwise fun m m' => m.lane < m'.lane := by
  rw [markersOn, List.pairwise_map]
  refine ((allMarkers_pairwise placed).filter _).imp_of_mem ?_
  intro a b ha hb hlt
  have hfirst : a.1 = n := by simpa using (List.mem_filter.mp ha).2
  have hsecond : b.1 = n := by simpa using (List.mem_filter.mp hb).2
  exact hlt (hfirst.trans hsecond.symm)

theorem mem_markers_iff {ms : List Marker} :
    (line, ms) ∈ (Layout.ofPlaced source name placed).markers ↔
      ∃ n ∈ endpointLines placed, ms = markersOn placed n ∧ ms ≠ [] ∧ line = (n : Nat) := by
  rw [markers_ofPlaced, ByLine.mem_filterMap_iff]
  constructor
  · rintro ⟨n, hn, hms, rfl⟩
    by_cases hnil : markersOn placed n = []
    · rw [if_pos hnil] at hms
      cases hms
    · rw [if_neg hnil] at hms
      cases hms
      exact ⟨n, hn, rfl, hnil, rfl⟩
  · rintro ⟨n, hn, rfl, hne, rfl⟩
    exact ⟨n, hn, if_neg hne, rfl⟩

/-- Put behind each other, the entries of the table are the markers sorted by line. -/
theorem flatMap_markers (source : Int) (name : String) (placed : List Placed) :
    ((Layout.ofPlaced source name placed).markers.flatMap
      fun entry => entry.2.map fun m => (entry.1, m)) =
    ((endpointLines placed).flatMap fun n =>
      (allMarkers placed).filter fun entry => entry.1 = n).map
        fun entry => (Int.ofNat entry.1, entry.2) := by
  rw [markers_ofPlaced]
  induction endpointLines placed with
  | nil => rfl
  | cons n rest ih =>
      have hgroup : ((allMarkers placed).filter fun entry => entry.1 = n).map
          (fun entry => (Int.ofNat entry.1, entry.2)) =
            (markersOn placed n).map fun m => (Int.ofNat n, m) := by
        rw [markersOn, List.map_map]
        refine List.map_congr_left ?_
        intro entry hentry
        have hline : entry.1 = n := by simpa using (List.mem_filter.mp hentry).2
        rw [hline]
        rfl
      rw [List.flatMap_cons, List.map_append, ← ih, hgroup]
      by_cases hnil : markersOn placed n = []
      · simp [hnil]
      · simp [hnil]

theorem map_allMarkers (placed : List Placed) :
    (allMarkers placed).map (fun entry => (Int.ofNat entry.1, entry.2)) =
      (placed.filter fun p => p.start.line ≠ p.stop.line).zipIdx.flatMap
        fun entry => entry.1.brackets entry.2 := by
  have hcrossing : placed.filter (fun p => p.start.line ≠ p.stop.line) =
      placed.filter Placed.crossesLines := by
    refine List.filter_congr ?_
    intro p _
    rfl
  rw [allMarkers, List.map_flatMap, hcrossing]
  rfl

theorem markers_perm (source : Int) (name : String) (placed : List Placed) :
    ((Layout.ofPlaced source name placed).markers.flatMap
      fun entry => entry.2.map fun m => (entry.1, m)).Perm
    ((placed.filter fun p => p.start.line ≠ p.stop.line).zipIdx.flatMap
      fun entry => entry.1.brackets entry.2) := by
  rw [flatMap_markers, ← map_allMarkers]
  refine (flatMap_filter_perm Prod.fst (endpointLines_nodup placed) ?_).map _
  intro entry hentry
  exact (mem_allMarkers hentry).1

/-! ### The whole layout -/

theorem mem_lines_ofPlaced :
    line ∈ (Layout.ofPlaced source name placed).lines ↔
      ∃ p ∈ placed, line = p.start.line ∨ line = p.stop.line := by
  have hlines : (Layout.ofPlaced source name placed).lines =
      (endpointLines placed).map Int.ofNat := rfl
  rw [hlines, List.mem_map]
  constructor
  · rintro ⟨n, hn, rfl⟩
    obtain ⟨p, hp, hends⟩ := mem_endpointLines.mp hn
    exact ⟨p, hp, hends.imp (congrArg Int.ofNat) (congrArg Int.ofNat)⟩
  · rintro ⟨p, hp, rfl | rfl⟩
    · exact ⟨_, mem_endpointLines.mpr ⟨p, hp, Or.inl rfl⟩, rfl⟩
    · exact ⟨_, mem_endpointLines.mpr ⟨p, hp, Or.inr rfl⟩, rfl⟩

/-- Where no region ends before it starts, the layout of the regions describes them. -/
theorem describes_ofPlaced {lineCount : Nat}
    (hplaced : ∀ p ∈ placed, p.start.line ≤ p.stop.line ∧ p.stop.line ≤ lineCount) :
    (Layout.ofPlaced source name placed).Describes lineCount placed where
  lines_ascend := List.pairwise_map.mpr
    ((endpointLines_pairwise placed).imp fun hlt => Int.ofNat_lt.mpr hlt)
  mem_lines_iff _ := mem_lines_ofPlaced
  line_bounds line hline := by
    obtain ⟨p, hp, hends⟩ := mem_lines_ofPlaced.mp hline
    obtain ⟨hle, hcount⟩ := hplaced p hp
    have hstart := p.start.one_le_line
    rcases hends with rfl | rfl
    · omega
    · omega
  maxLine_eq := by
    have hlast := getLastD_endpointLines fun p hp => (hplaced p hp).1
    show (lastLine placed : Int) = ((endpointLines placed).map Int.ofNat).getLastD 0
    rw [← hlast, List.getLastD_eq_getLast?, List.getLastD_eq_getLast?, List.getLast?_map]
    cases (endpointLines placed).getLast? <;> rfl
  underlines_nodup := by
    rw [underlines_ofPlaced]
    exact ByLine.nodup_filterMap (endpointLines_nodup placed)
  underlined_iff line := by
    rw [List.mem_map]
    constructor
    · rintro ⟨⟨_, u⟩, hmem, rfl⟩
      obtain ⟨n, p, hp, _, rfl⟩ := mem_underlines_iff.mp hmem
      obtain ⟨q, hq, hon⟩ := exists_underlinedOn_iff.mp ⟨p, hp⟩
      exact ⟨q, hq, liesOn_iff.mp hon⟩
    · rintro ⟨p, hp, rfl, hstop⟩
      obtain ⟨q, hq⟩ := exists_underlinedOn_iff.mpr ⟨p, hp, liesOn_iff.mpr ⟨rfl, hstop⟩⟩
      exact ⟨_, mem_underlines_iff.mpr ⟨_, q, hq, rfl, rfl⟩, rfl⟩
  underline_eq line u hmem := by
    obtain ⟨n, p, hp, rfl, rfl⟩ := mem_underlines_iff.mp hmem
    exact ⟨p, underlinedOn_eq_some_iff.mp hp, rfl⟩
  laneCount_eq := by
    show ((laned placed).length : Int) = _
    rw [laned, List.length_zipIdx]
    rfl
  line_lt_of_ne p hp hne := Nat.lt_of_le_of_ne (hplaced p hp).1 hne
  markers_nodup := by
    rw [markers_ofPlaced]
    exact ByLine.nodup_filterMap (endpointLines_nodup placed)
  markers_perm := markers_perm source name placed
  markers_ordered := by
    rintro ⟨line, ms⟩ hmem
    obtain ⟨n, _, rfl, _, _⟩ := mem_markers_iff.mp hmem
    exact markersOn_pairwise placed n
  underlines_drawn := by
    rintro ⟨line, u⟩ hmem
    obtain ⟨n, p, hp, _, rfl⟩ := mem_underlines_iff.mp hmem
    obtain ⟨q, hq, hon⟩ := exists_underlinedOn_iff.mp ⟨p, hp⟩
    exact mem_lines_ofPlaced.mpr ⟨q, hq, Or.inl (liesOn_iff.mp hon).1.symm⟩
  markers_drawn := by
    rintro ⟨line, ms⟩ hmem
    obtain ⟨n, hn, _, _, rfl⟩ := mem_markers_iff.mp hmem
    exact List.mem_map_of_mem hn
  laneColumn_lt := by
    rintro ⟨line, ms⟩ hmem m hm
    obtain ⟨n, _, rfl, _, _⟩ := mem_markers_iff.mp hmem
    obtain ⟨⟨n', m'⟩, hentry, rfl⟩ := List.mem_map.mp hm
    have hlt := (mem_allMarkers (List.mem_filter.mp hentry).1).2
    show ((2 * m'.lane + 1 : Nat) : Int) < (((laned placed).length : Int) + 1) * 2 - 1
    omega

end Tables

/-! ### Regions of a text -/

theorem LineIndex.line_locate_le_lineCount (x : LineIndex) (byte : Nat) :
    (x.locate byte).line ≤ x.lineCount :=
  Nat.succ_le_succ (lowerBound_le_size x.breaks_pairwise byte)

theorem Placed.start_line_le_stop_line {index : LineIndex} {h : Highlight}
    (hfits : h.Fits index.content) :
    (Placed.ofIndex index h).start.line ≤ (Placed.ofIndex index h).stop.line := by
  show (index.locate h.region.start).line ≤ (index.locate h.region.stop).line
  rw [LineIndex.line_locate hfits.1, LineIndex.line_locate hfits.2]
  exact lineAt_mono hfits.1 hfits.2 h.region.start_le_stop

/-- **Planning.**  Whatever is laid out describes its regions, each placed where the index of their
source locates its ends. -/
theorem Layout.ofHighlights_describes {sources : Sources} {source : Int}
    {highlights : List Highlight} {layout : Layout}
    (h : Layout.ofHighlights sources source highlights = .ok layout) :
    ∃ found placed, sources.find source = .ok found ∧
      placed.map Placed.highlight = highlights ∧
      (∀ p ∈ placed,
        found.index.toLocation p.highlight.region.start = .ok p.start ∧
        found.index.toLocation p.highlight.region.stop = .ok p.stop) ∧
      layout.Describes found.index.lineCount placed := by
  obtain ⟨found, hfound, hall, rfl⟩ := Layout.ofHighlights_eq_ok_iff.mp h
  refine ⟨found, highlights.map (Placed.ofIndex found.index), hfound, ?_, ?_, ?_⟩
  · rw [List.map_map]
    exact List.map_id highlights
  · intro p hp
    obtain ⟨highlight, hmem, rfl⟩ := List.mem_map.mp hp
    obtain ⟨hstart, hstop⟩ := (hall highlight hmem).2
    exact ⟨LineIndex.toLocation_natCast hstart, LineIndex.toLocation_natCast hstop⟩
  · apply describes_ofPlaced
    intro p hp
    obtain ⟨highlight, hmem, rfl⟩ := List.mem_map.mp hp
    exact ⟨Placed.start_line_le_stop_line (hall highlight hmem).2,
      LineIndex.line_locate_le_lineCount found.index highlight.region.stop⟩

/-! ### A crowded snippet -/

def crowdedSources : Sources := Sources.ofList [("crowded.txt", "ab\ncd\n\nef")]

/-- Three regions that cross lines, nested and sharing their first line, and two on one line. -/
def crowdedHighlights : List Highlight :=
  [{ source := 0, region := { start := 1, stop := 4, message := "inner" }, emphasis := .primary },
   { source := 0, region := { start := 3, stop := 4, message := "old" }, emphasis := .secondary },
   { source := 0, region := { start := 0, stop := 8, message := "outer" }, emphasis := .tertiary },
   { source := 0, region := { start := 4, stop := 5, message := "new" }, emphasis := .primary },
   { source := 0, region := { start := 2, stop := 6, message := "" }, emphasis := .quaternary }]

def crowdedLayout : Layout :=
  Layout.ofPlaced 0 "crowded.txt"
    (crowdedHighlights.map (Placed.ofIndex (LineIndex.ofContent "ab\ncd\n\nef")))

theorem Layout.ofHighlights_describes_crowded :
    Layout.ofHighlights crowdedSources 0 crowdedHighlights = .ok crowdedLayout ∧
      ∃ placed, placed.map Placed.highlight = crowdedHighlights ∧
        crowdedLayout.Describes 4 placed := by
  have hlayout : Layout.ofHighlights crowdedSources 0 crowdedHighlights = .ok crowdedLayout := rfl
  obtain ⟨found, placed, hfound, hmap, _, hdescribes⟩ := Layout.ofHighlights_describes hlayout
  cases hfound
  have hcount : (LineIndex.ofContent "ab\ncd\n\nef").lineCount = 4 := by
    rw [LineIndex.lineCount_eq]
    decide +kernel
  rw [← hcount]
  exact ⟨hlayout, placed, hmap, hdescribes⟩

end SourceDiagnostics
