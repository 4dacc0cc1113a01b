import SourceDiagnostics.Proofs.Snippet.Planning
import SourceDiagnostics.Proofs.Snippet.Rendering

/-!
# The order of regions

A layout is made of regions in some order, and remembers little of it.  Regions that cross lines
have lanes in their order, and of several regions within one line the last is underlined.  Nothing
else depends on the order: layouts of the same regions are rearrangements of each other, and where
the two orders agree on these points they are equal (`Layout.ofPlaced_congr`).

So two neighbours can change places unless both cross lines or both lie within one line,
`Highlight.Exchangeable`.  All three facts together are `Layout.ofHighlights_order`.
-/

namespace SourceDiagnostics

open Text

/-! ### Regions of a text -/

namespace Highlight

/-- Whether a region ends on another line of the text than it starts on. -/
def crosses (content : String) (h : Highlight) : Bool :=
  lineAt content h.region.start ≠ lineAt content h.region.stop

/-- Whether a region starts and ends on a line of the text. -/
def liesIn (content : String) (line : Nat) (h : Highlight) : Bool :=
  lineAt content h.region.start = line ∧ lineAt content h.region.stop = line

/-- Whether it makes no difference which of two neighbouring regions comes first: they compete
neither for a lane nor for the underline of a line. -/
def Exchangeable (content : String) (g h : Highlight) : Prop :=
  ¬ (g.crosses content ∧ h.crosses content) ∧
    ¬ (lineAt content g.region.start = lineAt content h.region.start ∧
      g.crosses content = false ∧ h.crosses content = false)

instance (content : String) (g h : Highlight) : Decidable (Exchangeable content g h) :=
  inferInstanceAs (Decidable (_ ∧ _))

theorem crosses_eq_false_of_liesIn {content : String} {line : Nat} {h : Highlight}
    (hin : h.liesIn content line = true) : h.crosses content = false := by
  obtain ⟨hstart, hstop⟩ := of_decide_eq_true hin
  exact decide_eq_false (not_not_intro (hstart.trans hstop.symm))

/-- Neighbours of which at most one is counted are counted in either order. -/
theorem filter_swap {p : Highlight → Bool} {g h : Highlight} (hp : ¬ (p g = true ∧ p h = true))
    (before after : List Highlight) :
    (before ++ h :: g :: after).filter p = (before ++ g :: h :: after).filter p := by
  rw [List.filter_append, List.filter_append]
  congr 1
  by_cases hg : p g = true
  · have hh : ¬ p h = true := fun hh => hp ⟨hg, hh⟩
    simp [List.filter_cons, hh]
  · simp [List.filter_cons, hg]

theorem Exchangeable.not_liesIn {content : String} {g h : Highlight}
    (hexchange : Exchangeable content g h) (line : Nat) :
    ¬ (g.liesIn content line = true ∧ h.liesIn content line = true) := by
  rintro ⟨hg, hh⟩
  have hlines := (of_decide_eq_true hg).1.trans (of_decide_eq_true hh).1.symm
  exact hexchange.2 ⟨hlines, crosses_eq_false_of_liesIn hg, crosses_eq_false_of_liesIn hh⟩

variable {index : LineIndex} {h : Highlight}

theorem crossesLines_ofIndex (hfits : h.Fits index.content) :
    (Placed.ofIndex index h).crossesLines = h.crosses index.content := by
  show decide ((index.locate h.region.start).line ≠ (index.locate h.region.stop).line) = _
  rw [LineIndex.line_locate hfits.1, LineIndex.line_locate hfits.2]
  rfl

theorem liesOn_ofIndex (hfits : h.Fits index.content) (line : Nat) :
    (Placed.ofIndex index h).liesOn line = h.liesIn index.content line := by
  show decide ((index.locate h.region.start).line = line ∧
    (index.locate h.region.stop).line = line) = _
  rw [LineIndex.line_locate hfits.1, LineIndex.line_locate hfits.2]
  rfl

end Highlight

section Placing

variable {index : LineIndex} {highlights : List Highlight}
  (fits : ∀ h ∈ highlights, h.Fits index.content)

include fits

theorem laned_ofIndex :
    laned (highlights.map (Placed.ofIndex index)) =
      ((highlights.filter (Highlight.crosses index.content)).map
        (Placed.ofIndex index)).zipIdx := by
  rw [laned, List.filter_map]
  congr 2
  refine List.filter_congr ?_
  intro h hmem
  exact Highlight.crossesLines_ofIndex (fits h hmem)

theorem underlinedOn_ofIndex (line : Nat) :
    underlinedOn (highlights.map (Placed.ofIndex index)) line =
      (highlights.filter (Highlight.liesIn index.content line)).getLast?.map
        (Placed.ofIndex index) := by
  rw [underlinedOn, List.filter_map, List.getLast?_map]
  congr 2
  refine List.filter_congr ?_
  intro h hmem
  exact Highlight.liesOn_ofIndex (fits h hmem) line

end Placing

/-! ### The same lines -/

section Lines

variable {placed other : List Placed}

theorem endpointLines_eq_of_mem_iff
    (h : ∀ line, line ∈ endpointLines other ↔ line ∈ endpointLines placed) :
    endpointLines other = endpointLines placed :=
  ((List.perm_ext_iff_of_nodup (endpointLines_nodup other) (endpointLines_nodup placed)).mpr
    h).eq_of_pairwise' (endpointLines_pairwise other) (endpointLines_pairwise placed)

/-- A line is drawn for a region that crosses lines or for the region underlined on it. -/
theorem mem_endpointLines_iff_laned_or_underlined {line : Nat} :
    line ∈ endpointLines placed ↔
      (∃ entry ∈ laned placed, line = entry.1.start.line ∨ line = entry.1.stop.line) ∨
        (underlinedOn placed line).isSome := by
  rw [mem_endpointLines, Option.isSome_iff_exists, exists_underlinedOn_iff]
  constructor
  · rintro ⟨p, hp, hends⟩
    by_cases hcross : p.crossesLines = true
    · obtain ⟨lane, hlane⟩ := List.getElem?_of_mem (List.mem_filter.mpr ⟨hp, hcross⟩)
      exact Or.inl ⟨(p, lane), List.mem_zipIdx_iff_getElem?.mpr hlane, hends⟩
    · rw [crossesLines_iff, not_not] at hcross
      refine Or.inr ⟨p, hp, ?_⟩
      rw [liesOn_iff]
      omega
  · rintro (⟨entry, hentry, hends⟩ | ⟨p, hp, hon⟩)
    · exact ⟨entry.1, (mem_laned hentry).1, hends⟩
    · rw [liesOn_iff] at hon
      exact ⟨p, hp, Or.inl (Int.ofNat_inj.mp hon.1).symm⟩

theorem lastLine_eq_of_endpointLines_eq (hle : ∀ p ∈ placed, p.start.line ≤ p.stop.line)
    (hle' : ∀ p ∈ other, p.start.line ≤ p.stop.line)
    (hlines : endpointLines other = endpointLines placed) : lastLine other = lastLine placed := by
  rw [← getLastD_endpointLines hle, ← getLastD_endpointLines hle', hlines]

/-- **Equal layouts.**  The regions with lanes, in order, and the regions that are underlined
determine a layout. -/
theorem Layout.ofPlaced_congr (hle : ∀ p ∈ placed, p.start.line ≤ p.stop.line)
    (hle' : ∀ p ∈ other, p.start.line ≤ p.stop.line) (hlaned : laned other = laned placed)
    (hunderlined : underlinedOn other = underlinedOn placed) (source : Int) (name : String) :
    ofPlaced source name other = ofPlaced source name placed := by
  have hlines : endpointLines other = endpointLines placed := by
    apply endpointLines_eq_of_mem_iff
    intro line
    rw [mem_endpointLines_iff_laned_or_underlined, mem_endpointLines_iff_laned_or_underlined,
      hlaned, hunderlined]
  have hmarkers : markersOn other = markersOn placed := by
    funext line
    rw [markersOn, markersOn, allMarkers, allMarkers, hlaned]
  have hlast := lastLine_eq_of_endpointLines_eq hle hle' hlines
  rw [ofPlaced, ofPlaced, hlines, hmarkers, hlaned, hunderlined, hlast]

end Lines

/-! ### The same regions in another order -/

/-- What a marker says, apart from the lane it stands in. -/
def Marker.apartFromLane (m : Marker) : BracketEnd × Location × Int × Emphasis × String :=
  (m.bracketEnd, m.location, m.offset, m.emphasis, m.message)

/-- What the bracket of a region says at either end, with the line, in whatever lane it stands. -/
def Placed.endsApartFromLane (p : Placed) :
    List (Nat × BracketEnd × Location × Int × Emphasis × String) :=
  [(p.start.line, (p.opening 0).apartFromLane), (p.stop.line, (p.closing 0).apartFromLane)]

/-- The other layout may differ in the numbers of lanes, in the order of the markers on a line, and
in which of the regions within a line is underlined, and in nothing else. -/
structure Layout.Rearranges (index : LineIndex) (highlights : List Highlight)
    (other layout : Layout) : Prop where
  source_eq : other.source = layout.source
  name_eq : other.name = layout.name
  lines_eq : other.lines = layout.lines
  maxLine_eq : other.maxLine = layout.maxLine
  gutterWidth_eq : other.gutterWidth = layout.gutterWidth
  laneCount_eq : other.laneCount = layout.laneCount
  underlined_eq : other.underlines.map Prod.fst = layout.underlines.map Prod.fst
  underline_eq : ∀ line u, (line, u) ∈ other.underlines →
    ∃ h ∈ highlights, ∃ n : Nat, line = n ∧ h.liesIn index.content n = true ∧
      u = (Placed.ofIndex index h).underline
  markers : List.Forall₂ (fun entry entry' => entry.1 = entry'.1 ∧
    (entry.2.map Marker.apartFromLane).Perm (entry'.2.map Marker.apartFromLane))
      other.markers layout.markers

theorem ByLine.map_fst_filterMap {α : Type} (f : Nat → Option α) (lines : List Nat) :
    (lines.filterMap fun l => (f l).map fun a => (Int.ofNat l, a)).map Prod.fst =
      (lines.filter fun l => (f l).isSome).map Int.ofNat := by
  induction lines with
  | nil => rfl
  | cons line rest ih =>
      cases hf : f line with
      | none => simpa [hf] using ih
      | some a => simpa [hf] using ih

section Permuted

variable {placed other : List Placed} (hperm : other.Perm placed)

theorem map_apartFromLane_markersOn (placed : List Placed) (line : Nat) :
    (markersOn placed line).map Marker.apartFromLane =
      (((placed.filter Placed.crossesLines).flatMap Placed.endsApartFromLane).filter
        fun entry => entry.1 = line).map Prod.snd := by
  have hall : (allMarkers placed).map (fun entry => (entry.1, entry.2.apartFromLane)) =
      (placed.filter Placed.crossesLines).flatMap Placed.endsApartFromLane := by
    rw [allMarkers, List.map_flatMap]
    -- the lane is the number in the list, and what is left does not ask for it
    have hfst : (laned placed).map Prod.fst = placed.filter Placed.crossesLines :=
      List.zipIdx_map_fst ..
    rw [← hfst, List.flatMap_map]
    rfl
  rw [← hall, markersOn, List.filter_map, List.map_map, List.map_map]
  rfl

include hperm

theorem endpointLines_of_perm : endpointLines other = endpointLines placed := by
  apply endpointLines_eq_of_mem_iff
  intro line
  rw [mem_endpointLines, mem_endpointLines]
  exact exists_congr fun p => and_congr_left fun _ => hperm.mem_iff

theorem underlinedOn_isSome_of_perm (line : Nat) :
    (underlinedOn other line).isSome = (underlinedOn placed line).isSome := by
  rw [Bool.eq_iff_iff, Option.isSome_iff_exists, Option.isSome_iff_exists, exists_underlinedOn_iff,
    exists_underlinedOn_iff]
  exact exists_congr fun p => and_congr_left fun _ => hperm.mem_iff

theorem markersOn_of_perm (line : Nat) :
    ((markersOn other line).map Marker.apartFromLane).Perm
      ((markersOn placed line).map Marker.apartFromLane) := by
  rw [map_apartFromLane_markersOn, map_apartFromLane_markersOn]
  exact (((hperm.filter _).flatMap_right _).filter _).map _

theorem markers_of_perm (source : Int) (name : String) :
    List.Forall₂ (fun entry entry' => entry.1 = entry'.1 ∧
      (entry.2.map Marker.apartFromLane).Perm (entry'.2.map Marker.apartFromLane))
      (Layout.ofPlaced source name other).markers (Layout.ofPlaced source name placed).markers := by
  rw [markers_ofPlaced, markers_ofPlaced, endpointLines_of_perm hperm]
  induction endpointLines placed with
  | nil => exact List.Forall₂.nil
  | cons line rest ih =>
      have hmarkers := markersOn_of_perm hperm line
      have hlength : (markersOn other line).length = (markersOn placed line).length := by
        simpa using hmarkers.length_eq
      have hnil : markersOn other line = [] ↔ markersOn placed line = [] := by
        rw [← List.length_eq_zero_iff, hlength, List.length_eq_zero_iff]
      by_cases hempty : markersOn placed line = []
      · rw [List.filterMap_cons, List.filterMap_cons, if_pos hempty, if_pos (hnil.mpr hempty)]
        exact ih
      · rw [List.filterMap_cons, List.filterMap_cons, if_neg hempty, if_neg (hempty ∘ hnil.mp)]
        exact List.Forall₂.cons ⟨rfl, hmarkers⟩ ih

end Permuted

/-! ### Orders of highlighted regions -/

section Orders

variable {index : LineIndex} {source : Int} {name : String} {highlights other : List Highlight}
  (fits : ∀ h ∈ highlights, h.Fits index.content)

include fits

theorem start_line_le_of_mem_map {p : Placed} (hp : p ∈ highlights.map (Placed.ofIndex index)) :
    p.start.line ≤ p.stop.line := by
  obtain ⟨h, hmem, rfl⟩ := List.mem_map.mp hp
  exact Placed.start_line_le_stop_line (fits h hmem)

theorem Layout.rearranges_of_perm (hperm : other.Perm highlights) :
    Rearranges index highlights (ofPlaced source name (other.map (Placed.ofIndex index)))
      (ofPlaced source name (highlights.map (Placed.ofIndex index))) := by
  have fits' : ∀ h ∈ other, h.Fits index.content := fun h hmem => fits h (hperm.mem_iff.mp hmem)
  have hplaced := hperm.map (Placed.ofIndex index)
  have hlines := endpointLines_of_perm hplaced
  have hlast := lastLine_eq_of_endpointLines_eq
    (fun p hp => start_line_le_of_mem_map fits hp)
    (fun p hp => start_line_le_of_mem_map fits' hp) hlines
  refine ⟨rfl, rfl, ?_, ?_, ?_, ?_, ?_, ?_, markers_of_perm hplaced source name⟩
  · rw [ofPlaced, ofPlaced, hlines]
  · rw [ofPlaced, ofPlaced, hlast]
  · rw [ofPlaced, ofPlaced, hlast]
  · show ((laned _).length : Int) = (laned _).length
    rw [laned, laned, List.length_zipIdx, List.length_zipIdx, (hplaced.filter _).length_eq]
  · rw [underlines_ofPlaced, underlines_ofPlaced, ByLine.map_fst_filterMap,
      ByLine.map_fst_filterMap, hlines]
    congr 1
    refine List.filter_congr ?_
    intro line _
    rw [Option.isSome_map, Option.isSome_map, underlinedOn_isSome_of_perm hplaced]
  · intro line u hmem
    obtain ⟨n, p, hp, rfl, rfl⟩ := mem_underlines_iff.mp hmem
    rw [underlinedOn_ofIndex fits'] at hp
    obtain ⟨h, hlast, rfl⟩ := Option.map_eq_some_iff.mp hp
    obtain ⟨hother, hin⟩ := List.mem_filter.mp (List.mem_of_getLast? hlast)
    exact ⟨h, hperm.mem_iff.mp hother, n, rfl, hin, rfl⟩

theorem Layout.ofPlaced_eq_of_agree (fits' : ∀ h ∈ other, h.Fits index.content)
    (hcross : other.filter (Highlight.crosses index.content) =
      highlights.filter (Highlight.crosses index.content))
    (hlast : ∀ line, (other.filter (Highlight.liesIn index.content line)).getLast? =
      (highlights.filter (Highlight.liesIn index.content line)).getLast?) :
    ofPlaced source name (other.map (Placed.ofIndex index)) =
      ofPlaced source name (highlights.map (Placed.ofIndex index)) := by
  apply ofPlaced_congr
  · exact fun p hp => start_line_le_of_mem_map fits hp
  · exact fun p hp => start_line_le_of_mem_map fits' hp
  · rw [laned_ofIndex fits, laned_ofIndex fits', hcross]
  · funext line
    rw [underlinedOn_ofIndex fits, underlinedOn_ofIndex fits', hlast]

end Orders

/-- **Order.**  Regions can be laid out in any order, and the layouts are rearrangements of each
other.  They are equal if the regions that cross lines come in the same order and the last region
within each line is the same: the lines that are drawn are then the same too, so they need not be
compared.  In particular neighbours that do not compete can change places. -/
theorem Layout.ofHighlights_order {sources : Sources} {source : Int} {highlights : List Highlight}
    {layout : Layout} (h : Layout.ofHighlights sources source highlights = .ok layout) :
    ∃ found, sources.find source = .ok found ∧
      (∀ other : List Highlight, other.Perm highlights →
        ∃ layout', Layout.ofHighlights sources source other = .ok layout' ∧
          layout'.Rearranges found.index highlights layout) ∧
      (∀ (other : List Highlight) (layout' : Layout),
        Layout.ofHighlights sources source other = .ok layout' →
        other.filter (Highlight.crosses found.content) =
          highlights.filter (Highlight.crosses found.content) →
        (∀ line, (other.filter (Highlight.liesIn found.content line)).getLast? =
          (highlights.filter (Highlight.liesIn found.content line)).getLast?) →
        layout' = layout ∧ ∀ p gutter, ∃ rows, layout'.render sources p gutter = .ok rows ∧
          layout.render sources p gutter = .ok rows) ∧
      (∀ before first second after, highlights = before ++ first :: second :: after →
        first.Exchangeable found.content second →
        Layout.ofHighlights sources source (before ++ second :: first :: after) = .ok layout) := by
  obtain ⟨found, hfound, hall, rfl⟩ := Layout.ofHighlights_eq_ok_iff.mp h
  have fits : ∀ region ∈ highlights, region.Fits found.index.content :=
    fun region hmem => (hall region hmem).2
  refine ⟨found, hfound, ?_, ?_, ?_⟩
  · intro other hperm
    have hother : ∀ region ∈ other, region.source = source ∧ region.Fits found.content :=
      fun region hmem => hall region (hperm.mem_iff.mp hmem)
    exact ⟨_, Layout.ofHighlights_eq_ok_iff.mpr ⟨found, hfound, hother, rfl⟩,
      rearranges_of_perm fits hperm⟩
  · intro other layout' hplan hcross hlast
    obtain ⟨found', hfound', hother, rfl⟩ := Layout.ofHighlights_eq_ok_iff.mp hplan
    obtain rfl : found' = found := Except.ok.inj (hfound'.symm.trans hfound)
    have heq : ofPlaced source found'.name (other.map (Placed.ofIndex found'.index)) =
        ofPlaced source found'.name (highlights.map (Placed.ofIndex found'.index)) :=
      ofPlaced_eq_of_agree fits (fun region hmem => (hother region hmem).2) hcross hlast
    refine ⟨heq, ?_⟩
    intro p gutter
    obtain ⟨_, _, hshows⟩ := Layout.exists_shows h p gutter
    refine ⟨_, ?_, hshows.render_eq_rows⟩
    rw [heq]
    exact hshows.render_eq_rows
  · intro before first second after hsplit hexchange
    subst hsplit
    have hmem : ∀ region, region ∈ before ++ second :: first :: after →
        region ∈ before ++ first :: second :: after := by
      intro region hregion
      exact ((List.Perm.swap first second after).append_left before).mem_iff.mp hregion
    refine Layout.ofHighlights_eq_ok_iff.mpr ⟨found, hfound, fun region hregion =>
      hall region (hmem region hregion), ?_⟩
    symm
    apply ofPlaced_eq_of_agree fits (fun region hregion => fits region (hmem region hregion))
    · exact Highlight.filter_swap hexchange.1 before after
    · intro line
      exact congrArg List.getLast?
        (Highlight.filter_swap (hexchange.not_liesIn line) before after)

/-! ### A crowded snippet in other orders -/

def crowdedText : String := "ab\ncd\n\nef"

/-- The crowded regions at some places of their list. -/
def crowdedAt (places : List Nat) : List Highlight :=
  places.filterMap fun place => crowdedHighlights[place]?

/-- The crowded regions with a neighbour moved across one that crosses lines. -/
def movedHighlights : List Highlight := crowdedAt [0, 2, 1, 3, 4]

/-- The crowded regions without the one whose underline is replaced, and with the other moved to
the front. -/
def settledHighlights : List Highlight := crowdedAt [3, 0, 2, 4]

/-- Only on the second line some of them lie. -/
theorem filter_liesIn_crowded {highlights : List Highlight} (h : highlights ⊆ crowdedHighlights)
    {line : Nat} (hline : line ≠ 2) :
    highlights.filter (Highlight.liesIn crowdedText line) = [] := by
  have hsecond : ∀ region ∈ crowdedHighlights, region.crosses crowdedText = false →
      lineAt crowdedText region.region.start = 2 := by decide +kernel
  rw [List.filter_eq_nil_iff]
  intro region hmem hin
  have hcross := Highlight.crosses_eq_false_of_liesIn hin
  exact hline ((of_decide_eq_true hin).1.symm.trans (hsecond region (h hmem) hcross))

theorem Layout.ofHighlights_order_crowded :
    (∃ layout', Layout.ofHighlights crowdedSources 0 crowdedHighlights.reverse = .ok layout' ∧
      layout'.Rearranges (LineIndex.ofContent crowdedText) crowdedHighlights crowdedLayout) ∧
    Layout.ofHighlights crowdedSources 0 settledHighlights = .ok crowdedLayout ∧
    Layout.ofHighlights crowdedSources 0 movedHighlights = .ok crowdedLayout := by
  have hlayout : Layout.ofHighlights crowdedSources 0 crowdedHighlights = .ok crowdedLayout := rfl
  obtain ⟨found, hfound, hany, hsame, hmove⟩ := Layout.ofHighlights_order hlayout
  cases hfound
  refine ⟨hany _ (List.reverse_perm _), ?_, ?_⟩
  · have hsettled : Layout.ofHighlights crowdedSources 0 settledHighlights =
        .ok (Layout.ofPlaced 0 "crowded.txt"
          (settledHighlights.map (Placed.ofIndex (LineIndex.ofContent crowdedText)))) := rfl
    have hcross : settledHighlights.filter (Highlight.crosses crowdedText) =
        crowdedHighlights.filter (Highlight.crosses crowdedText) := by decide +kernel
    have hlast : ∀ line, (settledHighlights.filter (Highlight.liesIn crowdedText line)).getLast? =
        (crowdedHighlights.filter (Highlight.liesIn crowdedText line)).getLast? := by
      intro line
      by_cases hline : line = 2
      · subst hline
        decide +kernel
      · rw [filter_liesIn_crowded (by decide) hline,
          filter_liesIn_crowded (List.Subset.refl _) hline]
    rw [hsettled, (hsame _ _ hsettled hcross hlast).1]
  · exact hmove (crowdedHighlights.take 1) _ _ (crowdedHighlights.drop 3) rfl (by decide +kernel)

end SourceDiagnostics
