import SourceDiagnostics.Proofs.Frame.Blocks
import SourceDiagnostics.Proofs.Snippet.Agreement
import SourceDiagnostics.Proofs.Text.Tabs

/-!
# Frames of texts whose tabs are expanded

Whether tabs are expanded while a frame is drawn or in the texts beforehand makes no difference:
`Diagnostic.render_expandTabs`.  Beforehand means that the offsets of the regions are moved along,
each to where the expansion of the text before it ends, and then there is no tab left for a tab
width to matter.

Text and offsets differ between the two frames, and so do the regions where tabs of no width
collapse, but the lines of the regions and the columns on them do not, so the excerpts agree,
`Excerpt.agrees_withoutTabs`.
-/

namespace SourceDiagnostics

open Text

/-! ### Expanding texts and regions -/

def Source.expandTabs (tab : Nat) (source : Source) : Source where
  name := source.name
  index := LineIndex.ofContent (Text.expandTabs tab source.content)

/-- The same sources, with the tabs of every text expanded. -/
def Sources.expandTabs (tab : Nat) (sources : Sources) : Sources :=
  ⟨sources.entries.map (Source.expandTabs tab)⟩

/-- A region of a text, moved along when tabs are expanded.  Boundaries keep their order
(`expandedOffset_mono`); for other offsets the region is left empty if they do not. -/
def Region.expandTabs (tab : Nat) (text : String) (r : Region) : Region where
  start := expandedOffset tab text r.start
  stop := max (expandedOffset tab text r.start) (expandedOffset tab text r.stop)
  message := r.message

def Highlight.expandTabs (tab : Nat) (text : String) (h : Highlight) : Highlight :=
  { h with region := h.region.expandTabs tab text }

def Label.expandTabs (tab : Nat) (text : String) (label : Label) : Label :=
  { label with
    region := label.region.expandTabs tab text
    supporting := label.supporting.map (Region.expandTabs tab text) }

/-- The same diagnostic for the expanded sources.  Labels into no source stay as they are. -/
def Diagnostic.expandTabs (tab : Nat) (sources : Sources) (d : Diagnostic) : Diagnostic :=
  { d with
    labels := d.labels.map fun label =>
      match sources.get? label.source with
      | some found => label.expandTabs tab found.content
      | none => label }

/-- A region is moved to where the texts before its ends are expanded to, and keeps the rest. -/
structure Highlight.ExpandsTo (tab : Nat) (sources : Sources) (g h : Highlight) : Prop where
  source_eq : h.source = g.source
  offsets : ∃ found, sources.find g.source = .ok found ∧
    h.region.start = (Text.expandTabs tab (textUpTo found.content g.region.start)).utf8ByteSize ∧
    h.region.stop = (Text.expandTabs tab (textUpTo found.content g.region.stop)).utf8ByteSize
  message_eq : h.region.message = g.region.message
  emphasis_eq : h.emphasis = g.emphasis

@[simp] theorem Source.content_expandTabs (tab : Nat) (source : Source) :
    (source.expandTabs tab).content = Text.expandTabs tab source.content := rfl

theorem Sources.find_expandTabs {sources : Sources} {source : Int} {found : Source}
    (h : sources.find source = .ok found) (tab : Nat) :
    (sources.expandTabs tab).find source = .ok (found.expandTabs tab) := by
  have hget : (sources.expandTabs tab).get? source = some (found.expandTabs tab) := by
    have hbefore := get?_of_find h
    rw [get?] at hbefore ⊢
    split
    · rename_i hnegative
      rw [if_pos hnegative] at hbefore
      cases hbefore
    · rename_i hnegative
      rw [if_neg hnegative] at hbefore
      rw [expandTabs, Array.getElem?_map, hbefore]
      rfl
  rw [find, hget]

theorem Label.highlights_expandTabs (tab : Nat) (text : String) (label : Label) :
    (label.expandTabs tab text).highlights =
      label.highlights.map (Highlight.expandTabs tab text) := by
  rw [highlights, highlights, List.map_cons, expandTabs, List.map_map, List.map_map]
  rfl

/-! ### Regions that fit -/

namespace Highlight

@[simp] theorem source_expandTabs (tab : Nat) (text : String) (h : Highlight) :
    (h.expandTabs tab text).source = h.source := rfl

@[simp] theorem start_expandTabs (tab : Nat) (text : String) (h : Highlight) :
    (h.expandTabs tab text).region.start = expandedOffset tab text h.region.start := rfl

end Highlight

namespace Highlight.Fits

variable {text : String} {h : Highlight} (fits : h.Fits text) (tab : Nat)

include fits

theorem stop_expandTabs :
    (h.expandTabs tab text).region.stop = expandedOffset tab text h.region.stop :=
  Nat.max_eq_right (expandedOffset_mono tab fits.1 fits.2 h.region.start_le_stop)

theorem expandTabs : (h.expandTabs tab text).Fits (Text.expandTabs tab text) := by
  refine ⟨isBoundary_expandTabs tab fits.1, ?_⟩
  rw [fits.stop_expandTabs]
  exact isBoundary_expandTabs tab fits.2

end Highlight.Fits

/-! ### Excerpts -/

namespace Excerpt

/-- The excerpt of the expanded text, with tabs of another width. -/
def withoutTabs (e : Excerpt) (other : Nat) : Excerpt :=
  { e with
    presentation := { e.presentation with tabWidth := other }
    content := Text.expandTabs e.presentation.tabWidth e.content
    highlights := e.highlights.map (Highlight.expandTabs e.presentation.tabWidth e.content) }

variable {e : Excerpt}

theorem columns_withoutTabs (other : Nat) (text : String) :
    (e.withoutTabs other).columns (Text.expandTabs e.presentation.tabWidth text) =
      e.columns text :=
  textWidth_expandTabs e.presentation.tabWidth other text

theorem corresponds_withoutTabs {h : Highlight} (fits : h.Fits e.content) (other : Nat) :
    e.Corresponds (e.withoutTabs other) h
      (h.expandTabs e.presentation.tabWidth e.content) := by
  have hstop := fits.stop_expandTabs e.presentation.tabWidth
  refine ⟨?_, ?_, ?_, ?_, ?_, rfl, rfl⟩
  · exact (lineAt_expandTabs e.presentation.tabWidth fits.1).symm
  · rw [lastLine, lastLine, hstop]
    exact (lineAt_expandTabs e.presentation.tabWidth fits.2).symm
  · rw [← columns_withoutTabs other, ← lineHeadAt_expandTabs e.presentation.tabWidth fits.1]
    rfl
  · rw [hstop, ← columns_withoutTabs other, ← lineHeadAt_expandTabs e.presentation.tabWidth fits.2]
    rfl
  · intro _
    have hlabelled : (e.withoutTabs other).labelled
        (h.expandTabs e.presentation.tabWidth e.content) =
          Text.expandTabs e.presentation.tabWidth (e.labelled h) := by
      rw [labelled, labelled, hstop, Highlight.start_expandTabs, withoutTabs,
        between_expandTabs e.presentation.tabWidth fits.1 fits.2 h.region.start_le_stop]
      cases between e.content h.region.start h.region.stop with
      | none => exact (expandTabs_empty _).symm
      | some middle => rfl
    rw [hlabelled, columns_withoutTabs]

theorem sourceLine_withoutTabs (other line : Nat) :
    (e.withoutTabs other).sourceLine line =
      Text.expandTabs e.presentation.tabWidth (e.sourceLine line) := by
  rw [sourceLine, sourceLine, withoutTabs, linesOf_expandTabs, List.getD_eq_getElem?_getD,
    List.getD_eq_getElem?_getD, List.getElem?_map]
  cases (linesOf e.content)[line - 1]? with
  | none => exact (expandTabs_empty _).symm
  | some text => rfl

/-- **Excerpts.**  Nothing drawn shows when the tabs were expanded. -/
theorem agrees_withoutTabs (fits : e.Fits) (other : Nat) : e.Agrees (e.withoutTabs other) where
  glyphs_eq := rfl
  gutter_eq := rfl
  name_eq := rfl
  highlights := by
    rw [withoutTabs, List.forall₂_map_right_iff, List.forall₂_same]
    intro h hmem
    exact corresponds_withoutTabs (fits h hmem) other
  printed_eq := by
    intro line _
    rw [sourceLine_withoutTabs]
    exact (expandTabs_expandTabs e.presentation.tabWidth other _).symm

end Excerpt

/-! ### Frames -/

namespace Diagnostic

variable {d : Diagnostic} {sources : Sources} {found : Int → Source}

namespace Resolves

variable (h : d.Resolves sources found) (tab : Nat)

include h

theorem labels_expandTabs :
    (d.expandTabs tab sources).labels =
      d.labels.map fun label => label.expandTabs tab (found label.source).content := by
  refine List.map_congr_left ?_
  intro label hlabel
  have hsource : label.source ∈ d.sourceIds :=
    List.mem_eraseDups.mpr (List.mem_map_of_mem hlabel)
  rw [get?_of_find (h.find_eq _ hsource)]

theorem highlights_expandTabs :
    (d.expandTabs tab sources).highlights =
      d.highlights.map fun g => g.expandTabs tab (found g.source).content := by
  rw [highlights, h.labels_expandTabs, List.flatMap_map, highlights, List.map_flatMap]
  refine List.flatMap_congr ?_
  intro label _
  rw [Label.highlights_expandTabs]
  refine List.map_congr_left ?_
  intro g hg
  rw [Label.source_of_mem_highlights hg]

theorem sourceIds_expandTabs : (d.expandTabs tab sources).sourceIds = d.sourceIds := by
  rw [sourceIds, h.labels_expandTabs, List.map_map]
  rfl

theorem restrict_expandTabs (source : Int) :
    ((d.expandTabs tab sources).restrict source).highlights =
      (d.restrict source).highlights.map
        (Highlight.expandTabs tab (found source).content) := by
  rw [highlights_restrict, h.highlights_expandTabs, List.filter_map, highlights_restrict]
  refine List.map_congr_left ?_
  intro g hg
  have hsource := (List.mem_filter.mp hg).2
  rw [Function.comp_apply, Highlight.source_expandTabs, decide_eq_true_eq] at hsource
  rw [hsource]

theorem expandTabs :
    (d.expandTabs tab sources).Resolves (sources.expandTabs tab)
      fun source => (found source).expandTabs tab where
  find_eq source hsource := by
    rw [h.sourceIds_expandTabs] at hsource
    exact Sources.find_expandTabs (h.find_eq source hsource) tab
  fits g hg := by
    rw [h.highlights_expandTabs] at hg
    obtain ⟨original, hmem, rfl⟩ := List.mem_map.mp hg
    exact (h.fits original hmem).expandTabs tab

/-- Regions stay on their lines, so line numbers need the room they needed. -/
theorem numberWidth_expandTabs :
    (d.expandTabs tab sources).numberWidth (sources.expandTabs tab) = d.numberWidth sources := by
  have hlabels : (d.expandTabs tab sources).labels = [] ↔ d.labels = [] := List.map_eq_nil_iff
  have hlines : (d.expandTabs tab sources).highlights.flatMap
        (Highlight.endLines (sources.expandTabs tab)) =
      d.highlights.flatMap (Highlight.endLines sources) := by
    rw [h.highlights_expandTabs, List.flatMap_map]
    refine List.flatMap_congr ?_
    intro g hg
    have hfits := h.fits g hg
    have hfind := h.find_eq g.source (mem_sourceIds.mpr ⟨g, hg, rfl⟩)
    rw [Highlight.endLines, Highlight.endLines, Highlight.source_expandTabs, get?_of_find hfind,
      get?_of_find (Sources.find_expandTabs hfind tab)]
    simp only [Highlight.start_expandTabs, hfits.stop_expandTabs, Source.content_expandTabs,
      lineAt_expandTabs tab hfits.1, lineAt_expandTabs tab hfits.2]
  rw [numberWidth, numberWidth, largestLine, largestLine, hlines]
  simp only [hlabels]

theorem frameRows_expandTabs (p : Presentation) (other : Nat) :
    (d.expandTabs p.tabWidth sources).frameRows (sources.expandTabs p.tabWidth)
        (fun source => (found source).expandTabs p.tabWidth) { p with tabWidth := other } =
      d.frameRows sources found p := by
  have hblocks : ∀ source ∈ d.sourceIds,
      ((d.expandTabs p.tabWidth sources).excerptIn
        (fun source => (found source).expandTabs p.tabWidth) { p with tabWidth := other }
        (d.numberWidth sources) source).rows =
          (d.excerptIn found p (d.numberWidth sources) source).rows := by
    intro source hsource
    have hexcerpt : (d.expandTabs p.tabWidth sources).excerptIn
        (fun source => (found source).expandTabs p.tabWidth) { p with tabWidth := other }
        (d.numberWidth sources) source =
          (d.excerptIn found p (d.numberWidth sources) source).withoutTabs other := by
      rw [excerptIn, h.restrict_expandTabs]
      rfl
    rw [hexcerpt]
    exact (Excerpt.agrees_withoutTabs (h.shows_layoutIn hsource p _ 0).fits other).rows_eq.symm
  rw [frameRows, h.sourceIds_expandTabs, h.numberWidth_expandTabs, List.flatMap_congr hblocks]
  rfl

theorem expandsTo :
    List.Forall₂ (Highlight.ExpandsTo tab sources) d.highlights
      (d.expandTabs tab sources).highlights := by
  rw [h.highlights_expandTabs, List.forall₂_map_right_iff, List.forall₂_same]
  intro g hg
  have hfind := h.find_eq g.source (mem_sourceIds.mpr ⟨g, hg, rfl⟩)
  refine ⟨rfl, ⟨found g.source, hfind, ?_, ?_⟩, rfl, rfl⟩
  · rw [Highlight.start_expandTabs, expandedOffset]
  · rw [(h.fits g hg).stop_expandTabs tab, expandedOffset]

end Resolves

/-- **Tabs.**  A diagnostic that can be rendered has the same rows for the texts with their tabs
expanded, its regions moved along, and any tab width; in particular text takes the columns of its
expansion. -/
theorem render_expandTabs {p : Presentation} {rows : List Row}
    (h : d.render sources p = .ok rows) :
    (∀ other, (d.expandTabs p.tabWidth sources).render (sources.expandTabs p.tabWidth)
      { p with tabWidth := other } = .ok rows) ∧
    List.Forall₂ (Highlight.ExpandsTo p.tabWidth sources) d.highlights
      (d.expandTabs p.tabWidth sources).highlights ∧
    ∀ (widths : CharWidths) (tab : Nat) (other : Int) (text : String),
      signedWidth widths other (Text.expandTabs tab text) = textWidth widths tab text := by
  obtain ⟨found, hresolves, rfl⟩ := exists_resolves_of_render h
  refine ⟨?_, hresolves.expandsTo p.tabWidth, signedWidth_expandTabs⟩
  intro other
  rw [(hresolves.expandTabs p.tabWidth).render_eq, hresolves.frameRows_expandTabs]

end Diagnostic

/-! ### Tabs of no width -/

def tabbedText : String := "\tlet\tx\n\t\nend"

def tabbedSources : Sources := ⟨#[⟨"let.fun", LineIndex.ofContent tabbedText⟩]⟩

def flatSources : Sources := ⟨#[⟨"let.fun", LineIndex.ofContent "letx\n\nend"⟩]⟩

/-- Labels on a tab, on text behind two tabs, and from one tab to another two lines below. -/
def tabbedDiagnostic : Diagnostic where
  severity := .warning
  message := "mixed indentation"
  labels :=
    [{ source := 0, emphasis := .secondary,
       region := { start := 0, stop := 1, message := "tab", start_le_stop := Nat.le_succ 0 } },
     { source := 0, region := { start := 4, stop := 8, message := "up to here" },
       supporting := [{ start := 5, stop := 6 }] }]

def flatDiagnostic : Diagnostic where
  severity := .warning
  message := "mixed indentation"
  labels :=
    [{ source := 0, region := { start := 0, stop := 0, message := "tab" }, emphasis := .secondary },
     { source := 0, region := { start := 3, stop := 5, message := "up to here" },
       supporting := [{ start := 3, stop := 4, start_le_stop := Nat.le_succ 3 }] }]

theorem tabbed_resolves :
    tabbedDiagnostic.Resolves tabbedSources
      fun _ => ⟨"let.fun", LineIndex.ofContent tabbedText⟩ where
  find_eq := by
    have hids : tabbedDiagnostic.sourceIds = [0] := by decide +kernel
    rw [hids]
    intro source hsource
    rw [List.mem_singleton.mp hsource]
    rfl
  fits := by
    show ∀ h ∈ tabbedDiagnostic.highlights,
      IsBoundary tabbedText h.region.start ∧ IsBoundary tabbedText h.region.stop
    decide +kernel

/-- Without any width the first label is left empty and the line of the last tab blank. -/
theorem Diagnostic.render_expandTabs_flat :
    ∃ rows, tabbedDiagnostic.render tabbedSources { tabWidth := 0 } = .ok rows ∧
      ∀ other, flatDiagnostic.render flatSources { tabWidth := other } = .ok rows := by
  have hdiagnostic : tabbedDiagnostic.expandTabs 0 tabbedSources = flatDiagnostic := by
    decide +kernel
  have htext : Text.expandTabs 0 tabbedText = "letx\n\nend" := by decide +kernel
  have hsources : tabbedSources.expandTabs 0 = flatSources := by
    have hsource : Source.expandTabs 0 ⟨"let.fun", LineIndex.ofContent tabbedText⟩ =
        ⟨"let.fun", LineIndex.ofContent "letx\n\nend"⟩ := by
      rw [Source.expandTabs, Source.content, LineIndex.content_ofContent, htext]
    rw [Sources.expandTabs, tabbedSources, List.map_toArray, List.map_singleton, hsource]
    rfl
  have hrender := tabbed_resolves.render_eq { tabWidth := 0 }
  have hexpanded := (Diagnostic.render_expandTabs hrender).1
  rw [hdiagnostic, hsources] at hexpanded
  exact ⟨_, hrender, hexpanded⟩

end SourceDiagnostics
