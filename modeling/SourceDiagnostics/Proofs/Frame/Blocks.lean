import SourceDiagnostics.Proofs.Frame.Outcome
import SourceDiagnostics.Proofs.Snippet.Planning
import SourceDiagnostics.Proofs.Text.Columns

/-!
# The blocks of a frame

The direct description of a frame: a header row, then for each source the excerpt of the regions
that lie in it, then the rows of the notes.  Sources come in the order of the first label into
each, and what is excerpted from one of them is told by the labels into it alone,
`Diagnostic.restrict`.

All blocks are drawn with one gutter.  Its width is the number of digits of the largest line on
which any region starts or ends, `Diagnostic.numberWidth`, though rendering takes it from the
widths of the single layouts.
-/

namespace SourceDiagnostics

open Text

/-! ### Largest numbers -/

theorem foldr_max_le_iff {ns : List Nat} {bound : Nat} :
    ns.foldr max 0 ≤ bound ↔ ∀ n ∈ ns, n ≤ bound := by
  induction ns with
  | nil => simp
  | cons n rest ih => rw [List.foldr_cons, Nat.max_le, ih, List.forall_mem_cons]

theorem le_foldr_max {ns : List Nat} {n : Nat} (h : n ∈ ns) : n ≤ ns.foldr max 0 :=
  foldr_max_le_iff.mp (Nat.le_refl _) n h

/-- The largest number has the most digits. -/
theorem foldr_max_length_repr {ns : List Nat} (hne : ns ≠ []) :
    (ns.map fun n => (Nat.repr n).length).foldr max 0 = (Nat.repr (ns.foldr max 0)).length := by
  have hmono : Monotone fun n => (Nat.repr n).length := fun _ _ h => length_repr_mono h
  induction ns with
  | nil => exact absurd rfl hne
  | cons n rest ih =>
      rw [List.map_cons, List.foldr_cons, List.foldr_cons]
      by_cases hrest : rest = []
      · rw [hrest]
        simp
      · rw [ih hrest]
        exact (hmono.map_max (a := n)).symm

theorem nodup_eraseDups (ids : List Int) : ids.eraseDups.Nodup := by
  -- what is left behind the first entry is shorter, so the induction is on the length
  induction hlength : ids.length using Nat.strong_induction_on generalizing ids with
  | _ n ih =>
      cases ids with
      | nil => exact List.nodup_nil
      | cons id rest =>
          rw [List.eraseDups_cons]
          refine List.nodup_cons.mpr ⟨?_, ?_⟩
          · rw [List.mem_eraseDups]
            simp
          · refine ih _ ?_ _ rfl
            rw [← hlength]
            exact Nat.lt_succ_of_le (List.length_filter_le _ _)

/-! ### Labels by source -/

/-- Regions lie where their labels do, so regions are picked by source as labels are. -/
theorem flatMap_highlights_filter (p : Int → Bool) (labels : List Label) :
    (labels.filter fun label => p label.source).flatMap Label.highlights =
      (labels.flatMap Label.highlights).filter fun h => p h.source := by
  induction labels with
  | nil => rfl
  | cons label rest ih =>
      rw [List.flatMap_cons, List.filter_append, ← ih]
      by_cases hp : p label.source = true
      · have hall : label.highlights.filter (fun h => p h.source) = label.highlights := by
          rw [List.filter_eq_self]
          intro h hmem
          rw [Label.source_of_mem_highlights hmem, hp]
        rw [hall, List.filter_cons, if_pos hp, List.flatMap_cons]
      · have hnone : label.highlights.filter (fun h => p h.source) = [] := by
          rw [List.filter_eq_nil_iff]
          intro h hmem
          rw [Label.source_of_mem_highlights hmem]
          exact hp
        rw [hnone, List.filter_cons, if_neg hp, List.nil_append]

theorem map_source_highlights (label : Label) :
    label.highlights.map Highlight.source =
      label.source :: List.replicate label.supporting.length label.source := by
  rw [Label.highlights, List.map_cons, List.map_map]
  exact congrArg _ (List.map_const' ..)

/-- Supporting regions bring no new source. -/
theorem eraseDups_source_highlights (labels : List Label) :
    ((labels.flatMap Label.highlights).map Highlight.source).eraseDups =
      (labels.map Label.source).eraseDups := by
  induction hlength : labels.length using Nat.strong_induction_on generalizing labels with
  | _ n ih =>
      cases labels with
      | nil => rfl
      | cons label rest =>
          have hrest := ih (rest.filter fun other => !other.source == label.source).length
            (by rw [← hlength]; exact Nat.lt_succ_of_le (List.length_filter_le _ _)) _ rfl
          have hsupporting : (List.replicate label.supporting.length label.source).filter
              (fun source => !source == label.source) = [] := by
            rw [List.filter_eq_nil_iff]
            intro source hsource
            simp [(List.mem_replicate.mp hsource).2]
          rw [flatMap_highlights_filter fun source => !source == label.source] at hrest
          rw [List.flatMap_cons, List.map_append, map_source_highlights, List.cons_append,
            List.eraseDups_cons, List.filter_append, hsupporting, List.nil_append, List.map_cons,
            List.eraseDups_cons, List.filter_map, List.filter_map]
          exact congrArg _ hrest

namespace Diagnostic

/-- The sources that a diagnostic points into, in the order of the first label into each. -/
def sourceIds (d : Diagnostic) : List Int := (d.labels.map Label.source).eraseDups

/-- A diagnostic with only the labels into one source. -/
def restrict (d : Diagnostic) (source : Int) : Diagnostic :=
  { d with labels := d.labels.filter fun label => label.source = source }

variable {d : Diagnostic} {sources : Sources} {source : Int}

theorem highlights_restrict (d : Diagnostic) (source : Int) :
    (d.restrict source).highlights = d.highlights.filter fun h => h.source = source :=
  flatMap_highlights_filter (fun other => other = source) d.labels

theorem mem_highlights_restrict {h : Highlight} :
    h ∈ (d.restrict source).highlights ↔ h ∈ d.highlights ∧ h.source = source := by
  rw [highlights_restrict, List.mem_filter, decide_eq_true_eq]

theorem mem_sourceIds : source ∈ d.sourceIds ↔ ∃ h ∈ d.highlights, h.source = source := by
  rw [sourceIds, ← eraseDups_source_highlights, List.mem_eraseDups, List.mem_map]
  rfl

theorem sourceIds_eq_nil_iff : d.sourceIds = [] ↔ d.labels = [] := by
  rw [sourceIds]
  cases d.labels with
  | nil => simp
  | cons label rest => simp [List.eraseDups_cons]

theorem bySource_highlights (d : Diagnostic) :
    bySource d.highlights =
      d.sourceIds.map fun source => (source, (d.restrict source).highlights) := by
  rw [bySource, highlights, eraseDups_source_highlights, sourceIds]
  refine List.map_congr_left ?_
  intro source _
  rw [highlights_restrict, highlights]

/-- **Regions.**  Source by source they are all there, none twice. -/
theorem flatMap_restrict_perm (d : Diagnostic) :
    (d.sourceIds.flatMap fun source => (d.restrict source).highlights).Perm d.highlights := by
  have hgroups : (d.sourceIds.flatMap fun source => (d.restrict source).highlights) =
      d.sourceIds.flatMap fun source => d.highlights.filter fun h => h.source = source := by
    refine List.flatMap_congr ?_
    intro source _
    exact d.highlights_restrict source
  rw [hgroups]
  refine flatMap_filter_perm Highlight.source (nodup_eraseDups _) ?_
  intro h hmem
  exact mem_sourceIds.mpr ⟨h, hmem, rfl⟩

theorem restrict_restrict (d : Diagnostic) (source : Int) :
    (d.restrict source).restrict source = d.restrict source := by
  simp [restrict, List.filter_filter]

theorem sourceIds_restrict (h : source ∈ d.sourceIds) :
    (d.restrict source).sourceIds = [source] := by
  have hall : ∀ other ∈ (d.restrict source).sourceIds, other = source := by
    intro other hother
    obtain ⟨g, hg, rfl⟩ := mem_sourceIds.mp hother
    exact (mem_highlights_restrict.mp hg).2
  obtain ⟨g, hg, hsource⟩ := mem_sourceIds.mp h
  have hmem : source ∈ (d.restrict source).sourceIds :=
    mem_sourceIds.mpr ⟨g, mem_highlights_restrict.mpr ⟨hg, hsource⟩, hsource⟩
  have hnodup : (d.restrict source).sourceIds.Nodup := nodup_eraseDups _
  cases hids : (d.restrict source).sourceIds with
  | nil =>
      rw [hids] at hmem
      cases hmem
  | cons first rest =>
      rw [hids] at hall hnodup
      have hfirst := hall first (List.mem_cons_self ..)
      have hrest : rest = [] := by
        apply List.eq_nil_iff_forall_not_mem.mpr
        intro other hother
        have heq := (hall other (List.mem_cons_of_mem _ hother)).trans hfirst.symm
        rw [heq] at hother
        exact (List.nodup_cons.mp hnodup).1 hother
      rw [hfirst, hrest]

end Diagnostic

/-! ### The width of line numbers -/

/-- The lines on which a region starts and ends. -/
def Highlight.endLines (sources : Sources) (h : Highlight) : List Nat :=
  match sources.get? h.source with
  | some found => [lineAt found.content h.region.start, lineAt found.content h.region.stop]
  | none => []

namespace Diagnostic

/-- The largest line on which a region of any source starts or ends. -/
def largestLine (d : Diagnostic) (sources : Sources) : Nat :=
  (d.highlights.flatMap (Highlight.endLines sources)).foldr max 0

/-- Columns for line numbers in the frame of a diagnostic. -/
def numberWidth (d : Diagnostic) (sources : Sources) : Nat :=
  if d.labels = [] then 0 else (Nat.repr (d.largestLine sources)).length

variable {d : Diagnostic} {sources : Sources} {source : Int}

theorem largestLine_le_iff {bound : Nat} :
    d.largestLine sources ≤ bound ↔
      ∀ h ∈ d.highlights, ∀ line ∈ h.endLines sources, line ≤ bound := by
  rw [largestLine, foldr_max_le_iff]
  simp only [List.mem_flatMap]
  constructor
  · intro hall h hmem line hline
    exact hall line ⟨h, hmem, hline⟩
  · rintro hall line ⟨h, hmem, hline⟩
    exact hall h hmem line hline

theorem largestLine_eq_foldr (d : Diagnostic) (sources : Sources) :
    d.largestLine sources =
      (d.sourceIds.map fun source => (d.restrict source).largestLine sources).foldr max 0 := by
  refine eq_of_forall_ge_iff fun bound => ?_
  rw [foldr_max_le_iff, List.forall_mem_map, largestLine_le_iff]
  constructor
  · intro hall source _
    rw [largestLine_le_iff]
    intro h hmem
    exact hall h (mem_highlights_restrict.mp hmem).1
  · intro hall h hmem
    have hsource := hall h.source (mem_sourceIds.mpr ⟨h, hmem, rfl⟩)
    rw [largestLine_le_iff] at hsource
    exact hsource h (mem_highlights_restrict.mpr ⟨hmem, rfl⟩)

theorem numberWidth_of_sourceIds (h : d.sourceIds ≠ []) :
    d.numberWidth sources = (Nat.repr (d.largestLine sources)).length :=
  if_neg fun hnil => h (sourceIds_eq_nil_iff.mpr hnil)

theorem numberWidth_restrict (h : source ∈ d.sourceIds) :
    (d.restrict source).numberWidth sources =
      (Nat.repr ((d.restrict source).largestLine sources)).length := by
  apply numberWidth_of_sourceIds
  rw [sourceIds_restrict h]
  exact List.cons_ne_nil _ _

/-- **Width.**  The widest of the single sources decides. -/
theorem numberWidth_eq_foldr (d : Diagnostic) (sources : Sources) :
    d.numberWidth sources =
      (d.sourceIds.map fun source => (d.restrict source).numberWidth sources).foldr max 0 := by
  by_cases hnil : d.sourceIds = []
  · rw [numberWidth, if_pos (sourceIds_eq_nil_iff.mp hnil), hnil]
    rfl
  · have hwidths : (d.sourceIds.map fun source => (d.restrict source).numberWidth sources) =
        (d.sourceIds.map fun source => (d.restrict source).largestLine sources).map
          fun n => (Nat.repr n).length := by
      rw [List.map_map]
      refine List.map_congr_left ?_
      intro source hsource
      exact numberWidth_restrict hsource
    rw [numberWidth_of_sourceIds hnil, hwidths, foldr_max_length_repr, ← largestLine_eq_foldr]
    rw [ne_eq, List.map_eq_nil_iff]
    exact hnil

theorem numberWidth_restrict_le (h : source ∈ d.sourceIds) :
    (d.restrict source).numberWidth sources ≤ d.numberWidth sources := by
  rw [numberWidth_eq_foldr d]
  exact le_foldr_max (List.mem_map_of_mem h)

/-! ### From labels to layouts -/

/-- Every source that a diagnostic points into is found, and all its regions lie in their texts. -/
structure Resolves (d : Diagnostic) (sources : Sources) (found : Int → Source) : Prop where
  find_eq : ∀ source ∈ d.sourceIds, sources.find source = .ok (found source)
  fits : ∀ h ∈ d.highlights, h.Fits (found h.source).content

/-- The layout of the regions of one source, with a gutter of its own. -/
def layoutIn (d : Diagnostic) (found : Int → Source) (source : Int) : Layout :=
  Layout.ofPlaced source (found source).name
    ((d.restrict source).highlights.map (Placed.ofIndex (found source).index))

/-- What a frame shows of one source. -/
def excerptIn (d : Diagnostic) (found : Int → Source) (p : Presentation) (gutter : Nat)
    (source : Int) : Excerpt :=
  Excerpt.ofSource p gutter (found source) (d.restrict source).highlights

variable {found : Int → Source}

theorem Resolves.ofHighlights_eq (h : d.Resolves sources found) (hsource : source ∈ d.sourceIds) :
    Layout.ofHighlights sources source (d.restrict source).highlights =
      .ok (d.layoutIn found source) := by
  refine Layout.ofHighlights_eq_ok_iff.mpr ⟨found source, h.find_eq source hsource, ?_, rfl⟩
  intro region hregion
  obtain ⟨hmem, heq⟩ := mem_highlights_restrict.mp hregion
  refine ⟨heq, ?_⟩
  rw [← heq]
  exact h.fits region hmem

theorem Resolves.restrict (h : d.Resolves sources found) (source : Int) :
    (d.restrict source).Resolves sources found where
  find_eq other hother := by
    obtain ⟨g, hg, rfl⟩ := mem_sourceIds.mp hother
    exact h.find_eq g.source (mem_sourceIds.mpr ⟨g, (mem_highlights_restrict.mp hg).1, rfl⟩)
  fits g hg := h.fits g (mem_highlights_restrict.mp hg).1

/-- The largest line of one source is the last line of its layout: no region ends before the line
it starts on. -/
theorem Resolves.lastLine_eq (h : d.Resolves sources found) (hsource : source ∈ d.sourceIds) :
    lastLine ((d.restrict source).highlights.map (Placed.ofIndex (found source).index)) =
      (d.restrict source).largestLine sources := by
  have hget : sources.get? source = some (found source) := get?_of_find (h.find_eq source hsource)
  refine eq_of_forall_ge_iff fun bound => ?_
  rw [lastLine, foldr_max_le_iff, List.forall_mem_map, List.forall_mem_map, largestLine_le_iff]
  refine forall_congr' fun region => forall_congr' fun hmem => ?_
  have hfits := (h.restrict source).fits region hmem
  have heq := (mem_highlights_restrict.mp hmem).2
  rw [heq] at hfits
  have hstop : (Placed.ofIndex (found source).index region).stop.line =
      lineAt (found source).content region.region.stop := LineIndex.line_locate hfits.2
  have hle := lineAt_mono hfits.1 hfits.2 region.region.start_le_stop
  rw [hstop, Highlight.endLines, heq, hget]
  constructor
  · intro hbound line hline
    rcases List.mem_cons.mp hline with rfl | hlast
    · exact Nat.le_trans hle hbound
    · rw [List.mem_singleton.mp hlast]
      exact hbound
  · intro hall
    exact hall _ (by simp)

theorem Resolves.one_le_largestLine (h : d.Resolves sources found) (hne : d.sourceIds ≠ []) :
    1 ≤ d.largestLine sources := by
  obtain ⟨source, hsource⟩ := List.exists_mem_of_ne_nil _ hne
  obtain ⟨region, hmem, rfl⟩ := mem_sourceIds.mp hsource
  have hget := get?_of_find (h.find_eq region.source hsource)
  have hline : lineAt (found region.source).content region.region.start ∈
      region.endLines sources := by
    rw [Highlight.endLines, hget]
    exact List.mem_cons_self ..
  have hle := largestLine_le_iff.mp (Nat.le_refl (d.largestLine sources)) region hmem _ hline
  exact Nat.le_trans (Nat.le_add_left ..) hle

theorem Resolves.gutterWidth_layoutIn (h : d.Resolves sources found)
    (hsource : source ∈ d.sourceIds) :
    (d.layoutIn found source).gutterWidth = (d.restrict source).numberWidth sources := by
  have hne : (d.restrict source).sourceIds ≠ [] := by
    rw [sourceIds_restrict hsource]
    exact List.cons_ne_nil _ _
  have hone := (h.restrict source).one_le_largestLine hne
  have hlast := h.lastLine_eq hsource
  rw [← hlast] at hone
  rw [numberWidth_restrict hsource, ← hlast]
  show (Nat.repr (max ((lastLine _ : Nat) : Int) 1).toNat).length = _
  congr 2
  omega

/-- Line numbers fit the gutter of their source alone. -/
theorem Resolves.length_repr_le (h : d.Resolves sources found) (hsource : source ∈ d.sourceIds)
    {p : Presentation} {gutter line : Nat}
    (hline : line ∈ (d.excerptIn found p gutter source).lines) :
    (Nat.repr line).length ≤ (d.restrict source).numberWidth sources := by
  rw [numberWidth_restrict hsource]
  apply length_repr_mono
  obtain ⟨region, hmem, hends⟩ := Excerpt.mem_lines.mp hline
  have heq : region.source = source := (mem_highlights_restrict.mp hmem).2
  refine largestLine_le_iff.mp (Nat.le_refl _) region hmem line ?_
  rw [Highlight.endLines, heq, get?_of_find (h.find_eq source hsource)]
  exact List.mem_pair.mpr hends

/-- **Layouts.**  There is one for each source, and they share the width of the frame. -/
theorem Resolves.layouts_eq (h : d.Resolves sources found) :
    d.layouts sources = .ok (d.sourceIds.map fun source =>
      { d.layoutIn found source with gutterWidth := d.numberWidth sources }) := by
  have hplanned : ((bySource d.highlights).mapM fun group =>
      Layout.ofHighlights sources group.1 group.2) = .ok (d.sourceIds.map (d.layoutIn found)) := by
    rw [Result.mapM_eq_ok_iff, bySource_highlights, List.map_map, List.map_map]
    refine List.map_congr_left ?_
    intro source hsource
    exact h.ofHighlights_eq hsource
  have hshared : d.sourceIds ≠ [] →
      sharedGutter (d.sourceIds.map (d.layoutIn found)) = d.numberWidth sources := by
    intro hne
    rw [numberWidth_eq_foldr]
    have hwidths : (d.sourceIds.map (d.layoutIn found)).map Layout.gutterWidth =
        d.sourceIds.map fun source => (d.restrict source).numberWidth sources := by
      rw [List.map_map]
      refine List.map_congr_left ?_
      intro source hsource
      exact h.gutterWidth_layoutIn hsource
    rw [← hwidths]
    cases hids : d.sourceIds with
    | nil => exact absurd hids hne
    | cons first rest => rfl
  rw [layouts, hplanned]
  refine congrArg Except.ok ?_
  rw [List.map_map]
  refine List.map_congr_left ?_
  intro source hsource
  show ({ d.layoutIn found source with gutterWidth := _ } : Layout) = _
  rw [hshared (List.ne_nil_of_mem hsource)]

theorem exists_resolves {layouts : List Layout} (h : d.layouts sources = .ok layouts) :
    ∃ found, d.Resolves sources found := by
  obtain ⟨planned, hplanned, _⟩ := Result.bind_eq_ok_iff.mp h
  rw [Result.mapM_eq_ok_iff, bySource_highlights, List.map_map] at hplanned
  have hlayout : ∀ source ∈ d.sourceIds, ∃ layout,
      Layout.ofHighlights sources source (d.restrict source).highlights = .ok layout := by
    intro source hsource
    have hmem : Layout.ofHighlights sources source (d.restrict source).highlights ∈
        planned.map Except.ok := by
      rw [← hplanned]
      exact List.mem_map_of_mem hsource
    obtain ⟨layout, _, heq⟩ := List.mem_map.mp hmem
    exact ⟨layout, heq.symm⟩
  have hfound : ∀ source ∈ d.sourceIds, ∃ other, sources.find source = .ok other ∧
      ∀ region ∈ (d.restrict source).highlights, region.Fits other.content := by
    intro source hsource
    obtain ⟨layout, hok⟩ := hlayout source hsource
    obtain ⟨other, hother, hall, _⟩ := Layout.ofHighlights_eq_ok_iff.mp hok
    exact ⟨other, hother, fun region hregion => (hall region hregion).2⟩
  -- ids the diagnostic does not use may stand for any source
  refine ⟨fun source => (sources.get? source).getD ⟨"", LineIndex.ofContent ""⟩, ?_, ?_⟩
  · intro source hsource
    obtain ⟨other, hother, _⟩ := hfound source hsource
    rw [get?_of_find hother]
    exact hother
  · intro region hmem
    obtain ⟨other, hother, hall⟩ := hfound region.source (mem_sourceIds.mpr ⟨region, hmem, rfl⟩)
    rw [get?_of_find hother]
    exact hall region (mem_highlights_restrict.mpr ⟨hmem, rfl⟩)

/-! ### From layouts to rows -/

theorem Resolves.shows_layoutIn (h : d.Resolves sources found) (hsource : source ∈ d.sourceIds)
    (p : Presentation) (gutter width : Nat) :
    ({ d.layoutIn found source with gutterWidth := width } : Layout).Shows sources
      (d.excerptIn found p gutter source) := by
  obtain ⟨other, hother, hshows⟩ := Layout.exists_shows (h.ofHighlights_eq hsource) p gutter
  have hsame : other = found source :=
    Except.ok.inj (hother.symm.trans (h.find_eq source hsource))
  subst hsame
  exact hshows.withGutter width

theorem Resolves.render_layoutIn (h : d.Resolves sources found) (hsource : source ∈ d.sourceIds)
    (p : Presentation) (gutter width : Nat) :
    ({ d.layoutIn found source with gutterWidth := width } : Layout).render sources p gutter =
      .ok (d.excerptIn found p gutter source).rows :=
  (h.shows_layoutIn hsource p gutter width).render_eq_rows

theorem frameGutter_layouts (d : Diagnostic) (sources : Sources) (found : Int → Source) :
    frameGutter (d.sourceIds.map fun source =>
      { d.layoutIn found source with gutterWidth := d.numberWidth sources }) =
        d.numberWidth sources := by
  cases hids : d.sourceIds with
  | nil => rw [numberWidth, if_pos (sourceIds_eq_nil_iff.mp hids)]; rfl
  | cons first rest => rfl

/-- The rows of a frame, block by block. -/
def frameRows (d : Diagnostic) (sources : Sources) (found : Int → Source) (p : Presentation) :
    List Row :=
  d.headerRow ::
    (d.sourceIds.flatMap fun source =>
      (d.excerptIn found p (d.numberWidth sources) source).rows) ++
    notesRows p (d.numberWidth sources) d.notes

theorem mem_frameRows {p : Presentation} {row : Row} :
    row ∈ d.frameRows sources found p ↔ row = d.headerRow ∨
      (∃ source ∈ d.sourceIds,
        row ∈ (d.excerptIn found p (d.numberWidth sources) source).rows) ∨
      ∃ note ∈ d.notes, row ∈ noteRows p (d.numberWidth sources) note := by
  rw [frameRows, List.cons_append, List.mem_cons, List.mem_append, List.mem_flatMap, notesRows,
    List.mem_flatMap]

/-- **Frames.**  A diagnostic whose sources are found has the header, the excerpt of each source
and the notes for its frame. -/
theorem Resolves.render_eq (h : d.Resolves sources found) (p : Presentation) :
    d.render sources p = .ok (d.frameRows sources found p) := by
  have hsnippets : ((d.sourceIds.map fun source =>
      { d.layoutIn found source with gutterWidth := d.numberWidth sources }).mapM
        fun layout : Layout => layout.render sources p (d.numberWidth sources)) =
      .ok (d.sourceIds.map fun source =>
        (d.excerptIn found p (d.numberWidth sources) source).rows) := by
    rw [Result.mapM_eq_ok_iff, List.map_map, List.map_map]
    refine List.map_congr_left ?_
    intro source hsource
    exact h.render_layoutIn hsource p _ _
  rw [render, h.layouts_eq]
  show (List.mapM (fun layout : Layout => layout.render sources p (frameGutter _)) _ >>= _) = _
  rw [frameGutter_layouts, hsnippets, frameRows, List.flatMap_def]
  rfl

theorem exists_resolves_of_render {p : Presentation} {rows : List Row}
    (h : d.render sources p = .ok rows) :
    ∃ found, d.Resolves sources found ∧ rows = d.frameRows sources found p := by
  obtain ⟨layouts, hlayouts, _⟩ := Result.bind_eq_ok_iff.mp h
  obtain ⟨found, hresolves⟩ := exists_resolves hlayouts
  exact ⟨found, hresolves, Except.ok.inj (h.symm.trans (hresolves.render_eq p))⟩

end Diagnostic

end SourceDiagnostics
