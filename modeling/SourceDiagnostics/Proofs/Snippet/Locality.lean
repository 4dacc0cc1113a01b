import SourceDiagnostics.Proofs.Snippet.Agreement
import SourceDiagnostics.Proofs.Snippet.Rendering

/-!
# Snippets are local

A snippet depends on the lines it shows and on nothing else.  Two texts may differ on all other
lines, so that the same place has another offset in each of them; if the regions of one have the
places of the regions of the other, and the lines with those places read the same, the rows are the
same: `Layout.render_local`.

What a row says of a region is the line and the head of the line at either end, and the labelled
text if that lies within one line.  These are the same for regions that are alike, so the excerpts
agree, `Excerpt.Matches.agrees`.
-/

namespace SourceDiagnostics

open Text

/-! ### Places -/

/-- Offsets into two texts have the same location, on lines that read the same. -/
def SamePlace (x y : LineIndex) (a b : Nat) : Prop :=
  ∃ l, x.toLocation a = .ok l ∧ y.toLocation b = .ok l ∧ x.lineText l.line = y.lineText l.line

namespace SamePlace

variable {x y : LineIndex} {a b : Nat}

theorem isBoundary (h : SamePlace x y a b) :
    IsBoundary x.content a ∧ IsBoundary y.content b := by
  obtain ⟨l, ha, hb, _⟩ := h
  exact ⟨(LineIndex.toLocation_natCast_eq_ok_iff.mp ha).1,
    (LineIndex.toLocation_natCast_eq_ok_iff.mp hb).1⟩

theorem locate_eq (h : SamePlace x y a b) : x.locate a = y.locate b := by
  obtain ⟨l, ha, hb, _⟩ := h
  obtain ⟨_, rfl⟩ := LineIndex.toLocation_natCast_eq_ok_iff.mp ha
  exact (LineIndex.toLocation_natCast_eq_ok_iff.mp hb).2

theorem lineAt_eq (h : SamePlace x y a b) : lineAt x.content a = lineAt y.content b := by
  rw [← LineIndex.line_locate h.isBoundary.1, ← LineIndex.line_locate h.isBoundary.2, h.locate_eq]

theorem lineText_eq (h : SamePlace x y a b) :
    x.lineText (lineAt x.content a) = y.lineText (lineAt y.content b) := by
  have hboundary := h.isBoundary
  obtain ⟨l, ha, hb, htext⟩ := h
  have hfirst := (LineIndex.toLocation_natCast_eq_ok_iff.mp ha).2
  have hsecond := (LineIndex.toLocation_natCast_eq_ok_iff.mp hb).2
  rw [← LineIndex.line_locate hboundary.1, ← LineIndex.line_locate hboundary.2, ← hfirst,
    ← hsecond]
  exact htext

/-- The heads of the lines are as long, and the lines they begin are equal. -/
theorem lineHeadAt_eq (h : SamePlace x y a b) :
    lineHeadAt x.content a = lineHeadAt y.content b := by
  obtain ⟨ha, hb⟩ := h.isBoundary
  obtain ⟨middle, back, _, hfirst⟩ := LineIndex.slice_of_lineAt_eq ha ha (Nat.le_refl a) rfl
  obtain ⟨middle', back', _, hsecond⟩ := LineIndex.slice_of_lineAt_eq hb hb (Nat.le_refl b) rfl
  have htext : lineHeadAt x.content a ++ middle ++ back =
      lineHeadAt y.content b ++ middle' ++ back' :=
    Except.ok.inj (hfirst.symm.trans (h.lineText_eq.trans hsecond))
  have hcolumn : (lineHeadAt x.content a).utf8ByteSize = (lineHeadAt y.content b).utf8ByteSize := by
    apply Nat.succ.inj
    show _ + 1 = _ + 1
    rw [← LineIndex.column_locate ha, ← LineIndex.column_locate hb, h.locate_eq]
  -- both are the first bytes of one line, and as many
  rw [String.append_assoc, String.append_assoc] at htext
  rw [← textUpTo_of_append htext, ← hcolumn]
  exact (textUpTo_append _ _).symm

theorem getElem?_linesOf_eq (h : SamePlace x y a b) :
    (linesOf x.content)[lineAt x.content a - 1]? =
      (linesOf y.content)[lineAt x.content a - 1]? := by
  obtain ⟨ha, hb⟩ := h.isBoundary
  obtain ⟨line, htext, hline⟩ := LineIndex.lineText_lineAt ha
  obtain ⟨line', htext', hline'⟩ := LineIndex.lineText_lineAt hb
  have hsame : line = line' :=
    Except.ok.inj (htext.symm.trans (h.lineText_eq.trans htext'))
  rw [hline, h.lineAt_eq, hline', hsame]

end SamePlace

/-- Places are the same by what the texts say, whatever the offsets are. -/
theorem samePlace_iff {x y : LineIndex} {a b : Nat} :
    SamePlace x y a b ↔
      IsBoundary x.content a ∧ IsBoundary y.content b ∧
      lineAt x.content a = lineAt y.content b ∧
      lineHeadAt x.content a = lineHeadAt y.content b ∧
      (linesOf x.content)[lineAt x.content a - 1]? =
        (linesOf y.content)[lineAt x.content a - 1]? := by
  constructor
  · intro h
    exact ⟨h.isBoundary.1, h.isBoundary.2, h.lineAt_eq, h.lineHeadAt_eq, h.getElem?_linesOf_eq⟩
  · rintro ⟨ha, hb, hline, hhead, htext⟩
    have hlocate : x.locate a = y.locate b := by
      apply Location.ext
      · rw [LineIndex.line_locate ha, LineIndex.line_locate hb, hline]
      · rw [LineIndex.column_locate ha, LineIndex.column_locate hb, hhead]
    obtain ⟨text, hok, hget⟩ := LineIndex.lineText_lineAt ha
    obtain ⟨text', hok', hget'⟩ := LineIndex.lineText_lineAt hb
    have hsame : text = text' := by
      rw [hget, hline, hget'] at htext
      exact Option.some.inj htext
    refine ⟨x.locate a, LineIndex.toLocation_natCast ha, ?_, ?_⟩
    · rw [hlocate]
      exact LineIndex.toLocation_natCast hb
    · rw [LineIndex.line_locate ha, hok, hsame, hline, hok']

instance (x y : LineIndex) (a b : Nat) : Decidable (SamePlace x y a b) :=
  decidable_of_iff _ samePlace_iff.symm

/-! ### Regions -/

/-- Regions of two texts that are drawn the same. -/
structure Highlight.Alike (text text' : String) (g h : Highlight) : Prop where
  startLine_eq : lineAt text g.region.start = lineAt text' h.region.start
  stopLine_eq : lineAt text g.region.stop = lineAt text' h.region.stop
  startHead_eq : lineHeadAt text g.region.start = lineHeadAt text' h.region.start
  stopHead_eq : lineHeadAt text g.region.stop = lineHeadAt text' h.region.stop
  /-- The labelled texts may differ if they take in other lines. -/
  between_eq : lineAt text g.region.start = lineAt text g.region.stop →
    between text g.region.start g.region.stop = between text' h.region.start h.region.stop
  message_eq : g.region.message = h.region.message
  emphasis_eq : g.emphasis = h.emphasis

/-- Regions of two texts with the same places, message and emphasis. -/
structure Highlight.SameView (x y : LineIndex) (g h : Highlight) : Prop where
  start : SamePlace x y g.region.start h.region.start
  stop : SamePlace x y g.region.stop h.region.stop
  message_eq : g.region.message = h.region.message
  emphasis_eq : g.emphasis = h.emphasis

theorem Highlight.SameView.alike {x y : LineIndex} {g h : Highlight} (hview : SameView x y g h) :
    Alike x.content y.content g h where
  startLine_eq := hview.start.lineAt_eq
  stopLine_eq := hview.stop.lineAt_eq
  startHead_eq := hview.start.lineHeadAt_eq
  stopHead_eq := hview.stop.lineHeadAt_eq
  between_eq := by
    intro hline
    have hline' : lineAt y.content h.region.start = lineAt y.content h.region.stop := by
      rw [← hview.start.lineAt_eq, hline, hview.stop.lineAt_eq]
    -- the labelled text is what the later head has beyond the earlier one
    obtain ⟨middle, hbetween, hhead⟩ := lineHeadAt_eq_append hview.start.isBoundary.1
      hview.stop.isBoundary.1 g.region.start_le_stop hline
    obtain ⟨middle', hbetween', hhead'⟩ := lineHeadAt_eq_append hview.start.isBoundary.2
      hview.stop.isBoundary.2 h.region.start_le_stop hline'
    rw [hview.start.lineHeadAt_eq, hview.stop.lineHeadAt_eq, hhead',
      String.append_right_inj] at hhead
    rw [hbetween, hbetween', hhead]
  message_eq := hview.message_eq
  emphasis_eq := hview.emphasis_eq

/-! ### Excerpts -/

namespace Excerpt

/-- The excerpt of another text. -/
def withText (e : Excerpt) (content : String) (highlights : List Highlight) : Excerpt :=
  { e with content, highlights }

/-- Another text and regions of it that cannot be told from those of the excerpt. -/
structure Matches (e : Excerpt) (content : String) (highlights : List Highlight) : Prop where
  alike : List.Forall₂ (Highlight.Alike e.content content) e.highlights highlights
  linesOf_eq : ∀ line ∈ e.lines, (linesOf e.content)[line - 1]? = (linesOf content)[line - 1]?

variable {e : Excerpt} {content : String} {highlights : List Highlight}

/-- Texts that match are drawn alike: the heads of the lines are equal, not only as wide. -/
theorem Matches.agrees (m : e.Matches content highlights) :
    e.Agrees (e.withText content highlights) where
  glyphs_eq := rfl
  gutter_eq := rfl
  name_eq := rfl
  highlights := by
    refine m.alike.imp ?_
    intro g h halike
    refine ⟨halike.startLine_eq, halike.stopLine_eq, congrArg e.columns halike.startHead_eq,
      congrArg e.columns halike.stopHead_eq, ?_, halike.message_eq, halike.emphasis_eq⟩
    intro hwithin
    exact congrArg (fun text : Option String => e.columns (text.getD ""))
      (halike.between_eq hwithin)
  printed_eq := by
    intro line hline
    have htext : e.sourceLine line = (e.withText content highlights).sourceLine line := by
      rw [sourceLine, sourceLine, List.getD_eq_getElem?_getD, List.getD_eq_getElem?_getD,
        m.linesOf_eq line hline]
      rfl
    rw [htext]
    rfl

/-- Nothing in the rows tells the texts apart. -/
theorem Matches.rows_eq (m : e.Matches content highlights) :
    e.rows = (e.withText content highlights).rows := m.agrees.rows_eq

end Excerpt

/-! ### Two texts -/

theorem Highlight.SameView.fits {x y : LineIndex} {g h : Highlight} (hview : SameView x y g h) :
    g.Fits x.content ∧ h.Fits y.content :=
  ⟨⟨hview.start.isBoundary.1, hview.stop.isBoundary.1⟩,
    ⟨hview.start.isBoundary.2, hview.stop.isBoundary.2⟩⟩

theorem Excerpt.matches_of_sameView {found found' : Source}
    {highlights highlights' : List Highlight}
    (hview : List.Forall₂ (Highlight.SameView found.index found'.index) highlights highlights')
    (p : Presentation) (gutter : Nat) :
    (Excerpt.ofSource p gutter found highlights).Matches found'.content highlights' where
  alike := hview.imp fun _ _ hsame => hsame.alike
  linesOf_eq := by
    intro line hline
    obtain ⟨g, hg, hends⟩ := Excerpt.mem_lines.mp hline
    obtain ⟨h, _, hsame⟩ := exists_of_mem_of_forall₂ hview hg
    rcases hends with rfl | rfl
    · exact hsame.start.getElem?_linesOf_eq
    · exact hsame.stop.getElem?_linesOf_eq

theorem gutterWidth_eq_of_sameView {x y : LineIndex} {highlights highlights' : List Highlight}
    (hview : List.Forall₂ (Highlight.SameView x y) highlights highlights') :
    lineNumberWidth (lastLine (highlights.map (Placed.ofIndex x))) =
      lineNumberWidth (lastLine (highlights'.map (Placed.ofIndex y))) := by
  have hstops : (highlights.map (Placed.ofIndex x)).map (fun p => p.stop.line) =
      (highlights'.map (Placed.ofIndex y)).map fun p => p.stop.line := by
    rw [List.map_map, List.map_map]
    refine map_eq_of_forall₂ hview ?_
    intro g _ h hsame
    exact congrArg Location.line hsame.stop.locate_eq
  rw [lastLine, hstops, ← lastLine]

/-- **Locality.**  Take two sources of one name and regions that have the same places in both, one
by one.  Their snippets have the same rows, with any gutter and with their own: no other line is
read. -/
theorem Layout.render_local {sources sources' : Sources} {source source' : Int}
    {found found' : Source} {highlights highlights' : List Highlight}
    (hfound : sources.find source = .ok found) (hfound' : sources'.find source' = .ok found')
    (hname : found.name = found'.name) (hsource : ∀ h ∈ highlights, h.source = source)
    (hsource' : ∀ h ∈ highlights', h.source = source')
    (hview : List.Forall₂ (Highlight.SameView found.index found'.index) highlights highlights') :
    ∃ layout layout', Layout.ofHighlights sources source highlights = .ok layout ∧
      Layout.ofHighlights sources' source' highlights' = .ok layout' ∧
      layout.gutterWidth = layout'.gutterWidth ∧
      ∀ p gutter, ∃ rows, layout.render sources p gutter = .ok rows ∧
        layout'.render sources' p gutter = .ok rows := by
  have hall : ∀ h ∈ highlights, h.source = source ∧ h.Fits found.content := by
    intro g hg
    obtain ⟨h, _, hsame⟩ := exists_of_mem_of_forall₂ hview hg
    exact ⟨hsource g hg, hsame.fits.1⟩
  have hall' : ∀ h ∈ highlights', h.source = source' ∧ h.Fits found'.content := by
    intro h hh
    obtain ⟨g, _, hsame⟩ := exists_of_mem_of_forall₂ hview.flip hh
    exact ⟨hsource' h hh, hsame.fits.2⟩
  have hplan := Layout.ofHighlights_eq_ok_iff.mpr ⟨found, hfound, hall, rfl⟩
  have hplan' := Layout.ofHighlights_eq_ok_iff.mpr ⟨found', hfound', hall', rfl⟩
  refine ⟨_, _, hplan, hplan', gutterWidth_eq_of_sameView hview, ?_⟩
  intro p gutter
  obtain ⟨other, hother, hshows⟩ := Layout.exists_shows hplan p gutter
  obtain ⟨other', hother', hshows'⟩ := Layout.exists_shows hplan' p gutter
  obtain rfl : other = found := Except.ok.inj (hother.symm.trans hfound)
  obtain rfl : other' = found' := Except.ok.inj (hother'.symm.trans hfound')
  have hexcerpt : Excerpt.ofSource p gutter other' highlights' =
      (Excerpt.ofSource p gutter other highlights).withText other'.content highlights' := by
    rw [Excerpt.withText, Excerpt.ofSource, Excerpt.ofSource, hname]
  have hrows := (Excerpt.matches_of_sameView hview p gutter).rows_eq
  rw [← hexcerpt] at hrows
  exact ⟨_, hshows.render_eq_rows, hrows ▸ hshows'.render_eq_rows⟩

/-! ### One snippet of two texts -/

def shortSource : Source := ⟨"same.txt", LineIndex.ofContent "one\nlet x\nmid\nend\n"⟩

/-- Its second and fourth lines are those of the short text, at other offsets. -/
def longSource : Source := ⟨"same.txt", LineIndex.ofContent "first line\nlet x\nin between\nend"⟩

def twoTexts : Sources := ⟨#[shortSource, longSource]⟩

def shortHighlights : List Highlight :=
  [{ source := 0, region := { start := 4, stop := 17, message := "all" }, emphasis := .primary },
   { source := 0, region := { start := 8, stop := 9, message := "name" }, emphasis := .secondary }]

def longHighlights : List Highlight :=
  [{ source := 1, region := { start := 11, stop := 31, message := "all" }, emphasis := .primary },
   { source := 1, region := { start := 15, stop := 16, message := "name" },
     emphasis := .secondary }]

theorem sameView_twoTexts :
    List.Forall₂ (Highlight.SameView shortSource.index longSource.index)
      shortHighlights longHighlights := by
  refine .cons ⟨?_, ?_, rfl, rfl⟩ (.cons ⟨?_, ?_, rfl, rfl⟩ .nil) <;> decide +kernel

theorem Layout.render_local_twoTexts :
    ∃ layout layout', Layout.ofHighlights twoTexts 0 shortHighlights = .ok layout ∧
      Layout.ofHighlights twoTexts 1 longHighlights = .ok layout' ∧
      ∃ rows, layout.render twoTexts {} 1 = .ok rows ∧ layout'.render twoTexts {} 1 = .ok rows := by
  have hshort : twoTexts.find 0 = .ok shortSource := rfl
  have hlong : twoTexts.find 1 = .ok longSource := rfl
  have hshort' : ∀ h ∈ shortHighlights, h.source = 0 := by decide
  have hlong' : ∀ h ∈ longHighlights, h.source = 1 := by decide
  obtain ⟨layout, layout', hplan, hplan', _, hrender⟩ :=
    Layout.render_local hshort hlong rfl hshort' hlong' sameView_twoTexts
  exact ⟨layout, layout', hplan, hplan', hrender {} 1⟩

end SourceDiagnostics
