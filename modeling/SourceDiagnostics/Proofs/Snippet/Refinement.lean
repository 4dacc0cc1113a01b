import SourceDiagnostics.Proofs.Snippet.Rendering
import Mathlib.Algebra.BigOperators.Group.Finset.Basic

/-!
# Snippets are excerpts

Planning a layout and drawing it refine the direct description of a snippet: the rows are those of
the excerpt, `Layout.render_planned`.  Their number is counted line by line.  Every region that
crosses lines has its opening row on one line and its closing row on another, and summing over the
lines finds each of them once.
-/

namespace SourceDiagnostics

open Text

namespace Excerpt

variable (e : Excerpt)

/-! ### Counting rows -/

/-- Entries sorted by line are as many as there were, if every line is looked at. -/
theorem sum_length_filter {α : Type} (lineOf : α → Nat) {lines : Finset Nat} {entries : List α}
    (h : ∀ entry ∈ entries, lineOf entry ∈ lines) :
    ∑ line ∈ lines, (entries.filter fun entry => lineOf entry = line).length =
      entries.length := by
  have hmem : ∀ line ∈ (entries.map lineOf : Multiset Nat), line ∈ lines := by
    intro line hline
    obtain ⟨entry, hentry, rfl⟩ := List.mem_map.mp (Multiset.mem_coe.mp hline)
    exact h entry hentry
  have hcount := Multiset.sum_count_eq_card hmem
  rw [Multiset.coe_card, List.length_map] at hcount
  rw [← hcount]
  refine Finset.sum_congr rfl ?_
  intro line _
  rw [Multiset.coe_count, List.count_eq_countP, List.countP_map, List.countP_eq_length_filter]
  rfl

theorem length_rowsAt (line : Nat) :
    (e.rowsAt line).length =
      1 + (if e.within line ≠ [] then 1 else 0) +
        (e.laned.filter fun entry => e.firstLine entry.1 = line).length +
        (e.laned.filter fun entry => e.lastLine entry.1 = line).length := by
  have hunderlined : (e.within line).getLast?.toList.length =
      if e.within line ≠ [] then 1 else 0 := by
    by_cases hnil : e.within line = []
    · rw [hnil, if_neg (not_not_intro rfl)]
      rfl
    · rw [if_pos hnil, List.getLast?_eq_some_getLast hnil]
      rfl
  simp only [rowsAt, List.length_append, List.length_cons, List.length_map, hunderlined]
  omega

theorem length_rows :
    e.rows.length =
      1 + e.lines.card + (e.lines.filter fun line => e.within line ≠ []).card +
        2 * e.crossing.length := by
  have hlaned : e.laned.length = e.crossing.length := List.length_zipIdx
  have hopening : ∑ line ∈ e.lines,
      (e.laned.filter fun entry => e.firstLine entry.1 = line).length = e.crossing.length := by
    rw [← hlaned]
    apply sum_length_filter fun entry : Highlight × Nat => e.firstLine entry.1
    intro entry hentry
    have hmem := (mem_crossing.mp (mem_crossing_of_mem_laned hentry)).1
    exact mem_lines.mpr ⟨entry.1, hmem, Or.inl rfl⟩
  have hclosing : ∑ line ∈ e.lines,
      (e.laned.filter fun entry => e.lastLine entry.1 = line).length = e.crossing.length := by
    rw [← hlaned]
    apply sum_length_filter fun entry : Highlight × Nat => e.lastLine entry.1
    intro entry hentry
    have hmem := (mem_crossing.mp (mem_crossing_of_mem_laned hentry)).1
    exact mem_lines.mpr ⟨entry.1, hmem, Or.inr rfl⟩
  have hsum : (e.lines.sort.map fun line => (e.rowsAt line).length).sum =
      ∑ line ∈ e.lines, (e.rowsAt line).length := by
    rw [← List.sum_toFinset _ (Finset.sort_nodup ..), Finset.sort_toFinset]
  rw [rows, List.length_cons, List.length_flatMap, hsum]
  simp only [length_rowsAt, Finset.sum_add_distrib, hopening, hclosing, ← Finset.card_eq_sum_ones,
    ← Finset.sum_filter]
  omega

variable {e}

/-- The order of the regions decides what the rows say, but not how many there are. -/
theorem length_rows_of_perm {e' : Excerpt} (hcontent : e'.content = e.content)
    (hperm : e'.highlights.Perm e.highlights) : e'.rows.length = e.rows.length := by
  have hfirst : e'.firstLine = e.firstLine := by
    funext h
    rw [firstLine, firstLine, hcontent]
  have hlast : e'.lastLine = e.lastLine := by
    funext h
    rw [lastLine, lastLine, hcontent]
  have hlines : e'.lines = e.lines := by
    apply Finset.ext
    intro line
    rw [mem_lines, mem_lines, hfirst, hlast]
    exact exists_congr fun h => and_congr_left fun _ => hperm.mem_iff
  have hwithin : ∀ line, e'.within line ≠ [] ↔ e.within line ≠ [] := by
    intro line
    have hperm' : (e'.within line).Perm (e.within line) := by
      rw [within, within, hfirst, hlast]
      exact hperm.filter _
    rw [← List.length_pos_iff, ← List.length_pos_iff, hperm'.length_eq]
  have hcrossing : e'.crossing.length = e.crossing.length := by
    rw [crossing, crossing, hfirst, hlast]
    exact (hperm.filter _).length_eq
  rw [length_rows, length_rows, hlines, hcrossing, Finset.filter_congr fun line _ => hwithin line]

theorem getElem?_linesOf (fits : e.Fits) {line : Nat} (hline : line ∈ e.lines) :
    (linesOf e.content)[line - 1]? = some (e.sourceLine line) := by
  obtain ⟨h, hmem, rfl | rfl⟩ := mem_lines.mp hline
  · exact (lineText_sourceLine (fits h hmem).1).2
  · exact (lineText_sourceLine (fits h hmem).2).2

end Excerpt

/-! ### Planning and drawing -/

/-- **Refinement.**  Whatever is planned renders as its excerpt: a header, and then line by line
the source text, the brackets it opens, the last region within it and the brackets it closes.  The
lines and the labelled texts of the excerpt are there, so nothing in it is made up.  The number of
rows is a matter of counting, and any other order of the regions gives as many. -/
theorem Layout.render_planned {sources : Sources} {source : Int} {highlights : List Highlight}
    {layout : Layout} (h : Layout.ofHighlights sources source highlights = .ok layout)
    (p : Presentation) (gutter : Nat) :
    ∃ found, sources.find source = .ok found ∧
      let e := Excerpt.ofSource p gutter found highlights
      layout.render sources p gutter = .ok e.rows ∧
      (∀ line ∈ e.lines, (linesOf found.content)[line - 1]? = some (e.sourceLine line)) ∧
      (∀ highlight ∈ highlights,
        between found.content highlight.region.start highlight.region.stop =
          some (e.labelled highlight)) ∧
      e.rows.length =
        1 + e.lines.card + (e.lines.filter fun line => e.within line ≠ []).card +
          2 * e.crossing.length ∧
      ∀ other : List Highlight, other.Perm highlights →
        ∃ layout' rows, Layout.ofHighlights sources source other = .ok layout' ∧
          layout'.render sources p gutter = .ok rows ∧ rows.length = e.rows.length := by
  obtain ⟨found, hfound, hshows⟩ := Layout.exists_shows h p gutter
  refine ⟨found, hfound, hshows.render_eq_rows, ?_, ?_, Excerpt.length_rows _, ?_⟩
  · intro line hline
    exact Excerpt.getElem?_linesOf hshows.fits hline
  · intro highlight hmem
    exact Excerpt.between_eq_labelled hshows.fits hmem
  · intro other hperm
    obtain ⟨found', hfound', hall, _⟩ := Layout.ofHighlights_eq_ok_iff.mp h
    have hall' : ∀ highlight ∈ other,
        highlight.source = source ∧ highlight.Fits found'.content := by
      intro highlight hmem
      exact hall highlight (hperm.mem_iff.mp hmem)
    have hplan := Layout.ofHighlights_eq_ok_iff.mpr ⟨found', hfound', hall', rfl⟩
    obtain ⟨found'', hfound'', hshows'⟩ := Layout.exists_shows hplan p gutter
    have hsame : found'' = found := Except.ok.inj (hfound''.symm.trans hfound)
    subst hsame
    exact ⟨_, _, hplan, hshows'.render_eq_rows, Excerpt.length_rows_of_perm rfl hperm⟩

/-- One region within a line and one that crosses into the next take six rows. -/
theorem Layout.render_planned_demo :
    ∃ layout rows, Layout.ofHighlights demoSources 0 demoHighlights = .ok layout ∧
      layout.render demoSources {} 1 = .ok rows ∧ rows.length = 6 := by
  obtain ⟨found, hfound, hrender, _, _, hcount, _⟩ := Layout.render_planned ofHighlights_demo {} 1
  cases hfound
  refine ⟨_, _, ofHighlights_demo, hrender, ?_⟩
  rw [hcount]
  decide +kernel

end SourceDiagnostics
