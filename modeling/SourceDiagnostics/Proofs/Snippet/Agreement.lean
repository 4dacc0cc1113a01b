import SourceDiagnostics.Proofs.Snippet.Excerpt
import Mathlib.Data.List.Forall2

/-!
# Excerpts that agree

Two excerpts may be of different texts and measure tabs differently, and still have the same rows.
What a row takes from a region is little: the lines on which it starts and ends, the columns of
the heads of these lines, and the columns of the labelled text if it lies within one line.
Excerpts whose regions have all of this in common, one by one, and whose lines print alike,
cannot be told apart: `Excerpt.Agrees.rows_eq`.
-/

namespace SourceDiagnostics

open Text

/-! ### Related lists -/

section Related

variable {α β γ : Type} {R : α → β → Prop} {as : List α} {bs : List β}

theorem map_eq_of_forall₂ (h : List.Forall₂ R as bs) {f : α → γ} {g : β → γ}
    (heq : ∀ a ∈ as, ∀ b, R a b → f a = g b) : as.map f = bs.map g := by
  induction h with
  | nil => rfl
  | cons hab _ ih =>
      rw [List.forall_mem_cons] at heq
      rw [List.map_cons, List.map_cons, heq.1 _ hab, ih heq.2]

theorem forall₂_filter (h : List.Forall₂ R as bs) {p : α → Bool} {q : β → Bool}
    (heq : ∀ a b, R a b → p a = q b) : List.Forall₂ R (as.filter p) (bs.filter q) := by
  refine List.rel_filter ?_ h
  intro a b hab
  show p a = true ↔ q b = true
  rw [heq a b hab]

theorem forall₂_zipIdx (h : List.Forall₂ R as bs) (n : Nat) :
    List.Forall₂ (fun a b => R a.1 b.1 ∧ a.2 = b.2) (as.zipIdx n) (bs.zipIdx n) := by
  induction h generalizing n with
  | nil => exact List.Forall₂.nil
  | cons hab _ ih => exact List.Forall₂.cons ⟨hab, rfl⟩ (ih (n + 1))

theorem exists_of_mem_of_forall₂ (h : List.Forall₂ R as bs) {a : α} (hmem : a ∈ as) :
    ∃ b ∈ bs, R a b := by
  induction h with
  | nil => cases hmem
  | cons hab _ ih =>
      rcases List.mem_cons.mp hmem with rfl | hrest
      · exact ⟨_, List.mem_cons_self .., hab⟩
      · obtain ⟨b, hb, hrel⟩ := ih hrest
        exact ⟨b, List.mem_cons_of_mem _ hb, hrel⟩

end Related

/-! ### Agreement -/

namespace Excerpt

/-- A region of one excerpt and a region of another that are drawn alike. -/
structure Corresponds (e f : Excerpt) (g h : Highlight) : Prop where
  firstLine_eq : e.firstLine g = f.firstLine h
  lastLine_eq : e.lastLine g = f.lastLine h
  startColumns_eq : e.columns (lineHeadAt e.content g.region.start) =
    f.columns (lineHeadAt f.content h.region.start)
  stopColumns_eq : e.columns (lineHeadAt e.content g.region.stop) =
    f.columns (lineHeadAt f.content h.region.stop)
  /-- The labelled texts may differ if they take in other lines. -/
  labelledColumns_eq : e.firstLine g = e.lastLine g →
    e.columns (e.labelled g) = f.columns (f.labelled h)
  message_eq : g.region.message = h.region.message
  emphasis_eq : g.emphasis = h.emphasis

/-- Two excerpts that have everything in common that is drawn. -/
structure Agrees (e f : Excerpt) : Prop where
  glyphs_eq : e.presentation.glyphs = f.presentation.glyphs
  gutter_eq : e.gutter = f.gutter
  name_eq : e.name = f.name
  highlights : List.Forall₂ (Corresponds e f) e.highlights f.highlights
  printed_eq : ∀ line ∈ e.lines, expandTabs e.presentation.tabWidth (e.sourceLine line) =
    expandTabs f.presentation.tabWidth (f.sourceLine line)

namespace Agrees

variable {e f : Excerpt} (agrees : e.Agrees f)

include agrees

theorem margin_eq : e.margin = f.margin := by
  rw [margin, margin, agrees.gutter_eq, agrees.glyphs_eq]

theorem numbered_eq (line : Nat) : e.numbered line = f.numbered line := by
  rw [numbered, numbered, agrees.gutter_eq, agrees.glyphs_eq]

theorem headerRow_eq : e.headerRow = f.headerRow := by
  rw [headerRow, headerRow, agrees.gutter_eq, agrees.glyphs_eq, agrees.name_eq]

/-! #### Lines and lanes -/

theorem lines_eq : e.lines = f.lines := by
  have hfirst : e.highlights.map e.firstLine = f.highlights.map f.firstLine :=
    map_eq_of_forall₂ agrees.highlights fun _ _ _ halike => halike.firstLine_eq
  have hlast : e.highlights.map e.lastLine = f.highlights.map f.lastLine :=
    map_eq_of_forall₂ agrees.highlights fun _ _ _ halike => halike.lastLine_eq
  rw [lines, lines, hfirst, hlast]

theorem crossing : List.Forall₂ (Corresponds e f) e.crossing f.crossing := by
  refine forall₂_filter agrees.highlights ?_
  intro g h halike
  rw [halike.firstLine_eq, halike.lastLine_eq]

theorem laned :
    List.Forall₂ (fun a b => Corresponds e f a.1 b.1 ∧ a.2 = b.2) e.laned f.laned :=
  forall₂_zipIdx agrees.crossing 0

theorem within (line : Nat) :
    List.Forall₂ (Corresponds e f) (e.within line) (f.within line) := by
  refine forall₂_filter agrees.highlights ?_
  intro g h halike
  rw [halike.firstLine_eq, halike.lastLine_eq]

section Bars

variable {isOpen isOpen' : Highlight → Bool}
  (hopen : ∀ g h, Corresponds e f g h → isOpen g = isOpen' h)

include hopen

theorem bars_eq {gs hs : List Highlight} (halike : List.Forall₂ (Corresponds e f) gs hs) :
    e.bars isOpen gs = f.bars isOpen' hs := by
  induction halike with
  | nil => rfl
  | cons hgh _ ih =>
      rw [bars, bars, List.flatMap_cons, List.flatMap_cons, ← bars, ← bars, ih, hopen _ _ hgh,
        agrees.glyphs_eq]

theorem lanes_eq : e.lanes isOpen = f.lanes isOpen' := by
  rw [lanes, lanes, agrees.bars_eq hopen agrees.crossing]

theorem lanesUpTo_eq (lane : Nat) : e.lanesUpTo isOpen lane = f.lanesUpTo isOpen' lane := by
  rw [lanesUpTo, lanesUpTo, agrees.bars_eq hopen (List.forall₂_take lane agrees.crossing)]

end Bars

theorem bracket_eq {offset offset' : Nat} (lane : Nat) (corner tip : Char)
    (hcolumns : e.columns (lineHeadAt e.content offset) =
      f.columns (lineHeadAt f.content offset')) :
    e.bracket lane offset corner tip = f.bracket lane offset' corner tip := by
  rw [bracket, bracket, hcolumns, agrees.crossing.length_eq, agrees.glyphs_eq]

/-! #### Rows -/

theorem sourceRow_eq {line : Nat} (hline : line ∈ e.lines) :
    e.sourceRow line = f.sourceRow line := by
  have hlanes : (e.lanes fun g => e.firstLine g < line ∧ line ≤ e.lastLine g) =
      f.lanes fun g => f.firstLine g < line ∧ line ≤ f.lastLine g := by
    apply agrees.lanes_eq
    intro g h halike
    rw [halike.firstLine_eq, halike.lastLine_eq]
  rw [sourceRow, sourceRow, agrees.numbered_eq, agrees.printed_eq line hline, hlanes]

section Regions

variable {g h : Highlight} (halike : Corresponds e f g h)

include halike

theorem underlineRow_eq (hwithin : e.firstLine g = e.lastLine g) :
    e.underlineRow g = f.underlineRow h := by
  rw [underlineRow, underlineRow, halike.labelledColumns_eq hwithin, halike.startColumns_eq,
    halike.message_eq, halike.emphasis_eq, halike.firstLine_eq, agrees.margin_eq,
    agrees.glyphs_eq, agrees.lanes_eq]
  intro g' h' halike'
  rw [halike'.firstLine_eq, halike'.lastLine_eq]

theorem openingRow_eq (lane : Nat) : e.openingRow g lane = f.openingRow h lane := by
  rw [openingRow, openingRow, agrees.bracket_eq lane _ _ halike.startColumns_eq,
    halike.emphasis_eq, halike.firstLine_eq, agrees.margin_eq, agrees.glyphs_eq,
    agrees.lanesUpTo_eq]
  intro g' h' halike'
  rw [halike'.firstLine_eq, halike'.lastLine_eq]

theorem closingRow_eq (lane : Nat) : e.closingRow g lane = f.closingRow h lane := by
  rw [closingRow, closingRow, agrees.bracket_eq lane _ _ halike.stopColumns_eq,
    halike.emphasis_eq, halike.message_eq, halike.lastLine_eq, agrees.margin_eq,
    agrees.glyphs_eq, agrees.lanesUpTo_eq]
  intro g' h' halike'
  rw [halike'.firstLine_eq, halike'.lastLine_eq]

end Regions

theorem rowsAt_eq {line : Nat} (hline : line ∈ e.lines) : e.rowsAt line = f.rowsAt line := by
  have hopening : (e.laned.filter fun entry => e.firstLine entry.1 = line).map
        (fun entry => e.openingRow entry.1 entry.2) =
      (f.laned.filter fun entry => f.firstLine entry.1 = line).map
        fun entry => f.openingRow entry.1 entry.2 := by
    refine map_eq_of_forall₂ (forall₂_filter agrees.laned ?_) ?_
    · rintro a b ⟨halike, _⟩
      rw [halike.firstLine_eq]
    · rintro a _ b ⟨halike, hlane⟩
      rw [agrees.openingRow_eq halike, hlane]
  have hclosing : (e.laned.filter fun entry => e.lastLine entry.1 = line).map
        (fun entry => e.closingRow entry.1 entry.2) =
      (f.laned.filter fun entry => f.lastLine entry.1 = line).map
        fun entry => f.closingRow entry.1 entry.2 := by
    refine map_eq_of_forall₂ (forall₂_filter agrees.laned ?_) ?_
    · rintro a b ⟨halike, _⟩
      rw [halike.lastLine_eq]
    · rintro a _ b ⟨halike, hlane⟩
      rw [agrees.closingRow_eq halike, hlane]
  have hunderline : (e.within line).map e.underlineRow = (f.within line).map f.underlineRow := by
    -- only regions within the line are compared here, and those have labelled texts alike
    refine map_eq_of_forall₂ (agrees.within line) ?_
    intro g hg h halike
    obtain ⟨_, hfirst, hlast⟩ := mem_within.mp hg
    exact agrees.underlineRow_eq halike (hfirst.trans hlast.symm)
  rw [rowsAt, rowsAt, agrees.sourceRow_eq hline, hopening, hclosing, ← Option.toList_map,
    ← Option.toList_map, ← List.getLast?_map, ← List.getLast?_map, hunderline]

/-- **Agreement.**  Nothing in the rows tells the excerpts apart. -/
theorem rows_eq : e.rows = f.rows := by
  have hrows : e.lines.sort.flatMap e.rowsAt = e.lines.sort.flatMap f.rowsAt := by
    refine List.flatMap_congr ?_
    intro line hline
    exact agrees.rowsAt_eq ((Finset.mem_sort _).mp hline)
  rw [rows, rows, hrows, agrees.headerRow_eq, agrees.lines_eq]

end Agrees

end Excerpt

end SourceDiagnostics
