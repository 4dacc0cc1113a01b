import SourceDiagnostics.Proofs.Frame.Blocks
import SourceDiagnostics.Proofs.Snippet.Refinement
import SourceDiagnostics.Proofs.Text.Tabs

/-!
# Where the characters of a frame come from

A character of a rendered row is either drawn, which means printable ASCII or a glyph, or it stands
in one of the texts that a diagnostic shows: its message, the message of a region, a line of a
note, the name of a source, or the text of a source line that is shown.  `Diagnostic.Origin` lists
these places, and `Diagnostic.Resolves.uses_origin` says that there are no others.

What a text must be free of for a frame to be free of it can then be read off: no drawn character
is a control character.
-/

namespace SourceDiagnostics

/-! ### Texts by their characters -/

namespace Text

/-- Every character of the text has the property. -/
def ConsistsOf (P : Char → Prop) (text : String) : Prop := ∀ c ∈ text.toList, P c

variable {P : Char → Prop} {s t : String} {c : Char}

theorem consistsOf_empty : ConsistsOf P "" := by
  intro c hc
  cases hc

theorem consistsOf_append : ConsistsOf P (s ++ t) ↔ ConsistsOf P s ∧ ConsistsOf P t := by
  rw [ConsistsOf, String.toList_append, List.forall_mem_append]
  rfl

theorem consistsOf_singleton : ConsistsOf P (String.singleton c) ↔ P c := by
  rw [ConsistsOf, String.toList_singleton, List.forall_mem_singleton]

theorem consistsOf_blank (h : P ' ') : ConsistsOf P " " := by
  intro c hc
  rwa [List.mem_singleton.mp hc]

theorem consistsOf_run (h : P c) (n : Nat) : ConsistsOf P (run c n) := by
  intro d hd
  rw [toList_run, List.mem_replicate] at hd
  rwa [hd.2]

theorem consistsOf_spaces (h : P ' ') (n : Nat) : ConsistsOf P (spaces n) := consistsOf_run h n

theorem consistsOf_repr (h : ∀ c, c.isDigit = true → P c) (n : Nat) :
    ConsistsOf P (Nat.repr n) := by
  intro c hc
  rw [Nat.toList_repr] at hc
  exact h c (Nat.isDigit_of_mem_toDigits (by decide) (by decide) hc)

theorem consistsOf_alignRight (hblank : P ' ') (h : ConsistsOf P t) (width : Nat) :
    ConsistsOf P (alignRight width t) :=
  consistsOf_append.mpr ⟨consistsOf_spaces hblank _, h⟩

theorem consistsOf_expandTabs (hblank : P ' ') (h : ConsistsOf P t) (tab : Nat) :
    ConsistsOf P (expandTabs tab t) := by
  intro c hc
  rw [toList_expandTabs] at hc
  obtain ⟨d, hd, hexpanded⟩ := List.mem_flatMap.mp hc
  rcases mem_expandChar hexpanded with ⟨_, rfl⟩ | rfl
  · exact h _ hd
  · exact hblank

/-- The printable characters of ASCII, the blank among them. -/
def IsPrintable (c : Char) : Prop := 32 ≤ c.toNat ∧ c.toNat < 127

instance (c : Char) : Decidable (IsPrintable c) := inferInstanceAs (Decidable (_ ∧ _))

theorem isPrintable_of_isDigit (h : c.isDigit = true) : IsPrintable c := by
  have hbounds := toNat_of_isDigit h
  exact ⟨by omega, by omega⟩

instance (text : String) [DecidablePred P] : Decidable (ConsistsOf P text) :=
  List.decidableBAll _ _

end Text

open Text

/-! ### Drawn characters -/

/-- Every character that a set of glyphs draws with. -/
def Glyphs.characters (glyphs : Glyphs) : List Char :=
  glyphs.file.toList ++
    [glyphs.border, glyphs.lane, glyphs.openCorner, glyphs.closeCorner, glyphs.horizontal,
     glyphs.openTip, glyphs.closeTip, glyphs.note, glyphs.primary, glyphs.secondary,
     glyphs.tertiary, glyphs.quaternary]

theorem Glyphs.underline_mem_characters (glyphs : Glyphs) (emphasis : Emphasis) :
    glyphs.underline emphasis ∈ glyphs.characters := by
  cases emphasis <;> simp [underline, characters]

/-- What a frame is drawn with besides the texts it shows. -/
def Presentation.Draws (p : Presentation) (c : Char) : Prop :=
  IsPrintable c ∨ c ∈ p.glyphs.characters

theorem Glyphs.isPrintable_of_mem_ascii {c : Char} (h : c ∈ ascii.characters) : IsPrintable c := by
  have hall : ascii.characters.all (fun glyph => IsPrintable glyph) = true := by decide +kernel
  exact of_decide_eq_true (List.all_eq_true.mp hall c h)

theorem Glyphs.le_toNat_of_mem_boxDrawing {c : Char} (h : c ∈ boxDrawing.characters) :
    32 ≤ c.toNat := by
  have hall : boxDrawing.characters.all (fun glyph => 32 ≤ glyph.toNat) = true := by
    decide +kernel
  exact of_decide_eq_true (List.all_eq_true.mp hall c h)

/-- No control character is drawn. -/
theorem Presentation.Draws.le_toNat {p : Presentation} {c : Char} (h : p.Draws c) :
    32 ≤ c.toNat := by
  rcases h with hprintable | hglyph
  · exact hprintable.1
  · rcases p.glyphs_eq with heq | heq
    · rw [heq] at hglyph
      exact (Glyphs.isPrintable_of_mem_ascii hglyph).1
    · rw [heq] at hglyph
      exact Glyphs.le_toNat_of_mem_boxDrawing hglyph

/-! ### Rows -/

/-- Every character of the row has the property. -/
def Row.Uses (P : Char → Prop) (row : Row) : Prop := ∀ span ∈ row.spans, ConsistsOf P span.text

theorem Row.uses_ofPieces {P : Char → Prop} {pieces : List (String × Style)}
    (h : ∀ piece ∈ pieces, ConsistsOf P piece.1) : (Row.ofPieces pieces).Uses P := by
  intro span hspan
  obtain ⟨piece, hpiece, rfl⟩ := List.mem_map.mp hspan
  exact h piece (List.mem_filter.mp hpiece).1

theorem Row.Uses.imp {P Q : Char → Prop} {row : Row} (h : row.Uses P) (himp : ∀ c, P c → Q c) :
    row.Uses Q :=
  fun span hspan c hc => himp c (h span hspan c hc)

theorem Row.Uses.notMem {c : Char} {row : Row} (h : row.Uses (· ≠ c)) {span : Span}
    (hspan : span ∈ row.spans) : c ∉ span.text.toList :=
  fun hmem => h span hspan c hmem rfl

/-! ### Rows of excerpts -/

namespace Excerpt

/-- Whatever an excerpt shows consists of characters with the property. -/
structure Yields (e : Excerpt) (P : Char → Prop) : Prop where
  drawn : ∀ c, e.presentation.Draws c → P c
  name : ConsistsOf P e.name
  message : ∀ h ∈ e.highlights, ConsistsOf P h.region.message
  sourceLine : ∀ line ∈ e.lines, ConsistsOf P (e.sourceLine line)

namespace Yields

variable {e : Excerpt} {P : Char → Prop} (yields : e.Yields P)

include yields

theorem printable {c : Char} (h : IsPrintable c) : P c := yields.drawn c (Or.inl h)

theorem blank : P ' ' := yields.printable (by decide)

theorem glyph {c : Char} (h : c ∈ e.presentation.glyphs.characters) : P c :=
  yields.drawn c (Or.inr h)

/-! #### Pieces -/

theorem margin : ConsistsOf P e.margin := by
  rw [Excerpt.margin, consistsOf_append, consistsOf_append, consistsOf_singleton]
  refine ⟨⟨consistsOf_spaces yields.blank _, consistsOf_blank yields.blank⟩, ?_⟩
  exact yields.glyph (by simp [Glyphs.characters])

theorem numbered (line : Nat) : ConsistsOf P (e.numbered line) := by
  rw [Excerpt.numbered, consistsOf_append, consistsOf_append, consistsOf_singleton]
  refine ⟨⟨consistsOf_alignRight yields.blank (consistsOf_repr ?_ line) _,
    consistsOf_blank yields.blank⟩, ?_⟩
  · intro c hc
    exact yields.printable (isPrintable_of_isDigit hc)
  · exact yields.glyph (by simp [Glyphs.characters])

theorem bars {isOpen : Highlight → Bool} {regions : List Highlight} (blanks : Nat) :
    ConsistsOf P (String.ofList (e.bars isOpen regions ++ List.replicate blanks ' ')) := by
  intro c hc
  rw [String.toList_ofList, List.mem_append, List.mem_replicate] at hc
  rcases hc with hbar | ⟨_, rfl⟩
  · obtain ⟨region, _, hcell⟩ := List.mem_flatMap.mp hbar
    rcases List.mem_pair.mp hcell with rfl | rfl
    · exact yields.blank
    · by_cases hopen : isOpen region = true
      · rw [if_pos hopen]
        exact yields.glyph (by simp [Glyphs.characters])
      · rw [if_neg hopen]
        exact yields.blank
  · exact yields.blank

theorem lanes (isOpen : Highlight → Bool) : ConsistsOf P (e.lanes isOpen) := yields.bars 2

theorem lanesUpTo (isOpen : Highlight → Bool) (lane : Nat) :
    ConsistsOf P (e.lanesUpTo isOpen lane) := yields.bars 1

theorem bracket {lane offset : Nat} {corner tip : Char}
    (hcorner : corner ∈ e.presentation.glyphs.characters)
    (htip : tip ∈ e.presentation.glyphs.characters) :
    ConsistsOf P (e.bracket lane offset corner tip) := by
  rw [Excerpt.bracket, consistsOf_append, consistsOf_append, consistsOf_singleton,
    consistsOf_singleton]
  refine ⟨⟨yields.glyph hcorner, consistsOf_run ?_ _⟩, yields.glyph htip⟩
  exact yields.glyph (by simp [Glyphs.characters])

theorem trailing {message : String} (h : ConsistsOf P message) :
    ConsistsOf P (Canvas.trailing message) := by
  rw [Canvas.trailing]
  by_cases hempty : message = ""
  · rw [if_pos hempty]
    exact consistsOf_empty
  · rw [if_neg hempty]
    exact consistsOf_append.mpr ⟨consistsOf_blank yields.blank, h⟩

/-! #### Rows -/

theorem headerRow : e.headerRow.Uses P := by
  refine Row.uses_ofPieces ?_
  simp only [List.forall_mem_cons, consistsOf_append]
  refine ⟨⟨⟨⟨consistsOf_spaces yields.blank _, ?_⟩, ?_⟩, ?_⟩, yields.name, by simp⟩
  · exact consistsOf_blank yields.blank
  · intro c hc
    exact yields.glyph (List.mem_append_left _ hc)
  · exact consistsOf_blank yields.blank

theorem sourceRow {line : Nat} (h : line ∈ e.lines) : (e.sourceRow line).Uses P := by
  refine Row.uses_ofPieces ?_
  simp only [List.forall_mem_cons]
  exact ⟨yields.numbered line, yields.lanes _,
    consistsOf_expandTabs yields.blank (yields.sourceLine line h) _, by simp⟩

theorem underlineRow {h : Highlight} (hmem : h ∈ e.highlights) : (e.underlineRow h).Uses P := by
  refine Row.uses_ofPieces ?_
  simp only [List.forall_mem_cons]
  refine ⟨yields.margin, yields.lanes _, consistsOf_spaces yields.blank _,
    consistsOf_run ?_ _, yields.trailing (yields.message h hmem), by simp⟩
  exact yields.glyph (Glyphs.underline_mem_characters _ _)

theorem openingRow (h : Highlight) (lane : Nat) : (e.openingRow h lane).Uses P := by
  refine Row.uses_ofPieces ?_
  simp only [List.forall_mem_cons]
  exact ⟨yields.margin, yields.lanesUpTo _ _,
    yields.bracket (by simp [Glyphs.characters]) (by simp [Glyphs.characters]), by simp⟩

theorem closingRow {h : Highlight} (hmem : h ∈ e.highlights) (lane : Nat) :
    (e.closingRow h lane).Uses P := by
  refine Row.uses_ofPieces ?_
  simp only [List.forall_mem_cons]
  exact ⟨yields.margin, yields.lanesUpTo _ _,
    yields.bracket (by simp [Glyphs.characters]) (by simp [Glyphs.characters]),
    yields.trailing (yields.message h hmem), by simp⟩

theorem rowsAt {line : Nat} (hline : line ∈ e.lines) : ∀ row ∈ e.rowsAt line, row.Uses P := by
  intro row hrow
  rcases mem_rowsAt.mp hrow with rfl | ⟨entry, _, _, rfl⟩ | ⟨h, hlast, rfl⟩ |
    ⟨entry, hlaned, _, rfl⟩
  · exact yields.sourceRow hline
  · exact yields.openingRow entry.1 entry.2
  · exact yields.underlineRow (mem_within.mp (List.mem_of_getLast? hlast)).1
  · exact yields.closingRow (mem_crossing.mp (mem_crossing_of_mem_laned hlaned)).1 entry.2

/-- **Excerpts.**  No row has a character that the excerpt does not yield. -/
theorem rows : ∀ row ∈ e.rows, row.Uses P := by
  intro row hrow
  rcases mem_rows.mp hrow with rfl | ⟨line, hline, hat⟩
  · exact yields.headerRow
  · exact yields.rowsAt hline row hat

end Yields

end Excerpt

/-! ### Rows of frames -/

namespace Diagnostic

variable {d : Diagnostic} {sources : Sources} {p : Presentation} {found : Int → Source}

/-- The places that a character of the frame of a diagnostic can come from. -/
inductive Origin (d : Diagnostic) (sources : Sources) (p : Presentation) (c : Char) : Prop
  | drawn (h : p.Draws c)
  | message (h : c ∈ d.message.toList)
  | label {region : Highlight} (hregion : region ∈ d.highlights)
      (h : c ∈ region.region.message.toList)
  | note {note line : String} (hnote : note ∈ d.notes) (hline : line ∈ paragraphLines note)
      (h : c ∈ line.toList)
  | name {label : Label} {source : Source} (hlabel : label ∈ d.labels)
      (hsource : sources.find label.source = .ok source) (h : c ∈ source.name.toList)
  | line {region : Highlight} {source : Source} {number : Nat} {text : String}
      (hregion : region ∈ d.highlights) (hsource : sources.find region.source = .ok source)
      (hnumber : number ∈ region.endLines sources)
      (htext : (linesOf source.content)[number - 1]? = some text) (h : c ∈ text.toList)

theorem origin_printable {c : Char} (h : IsPrintable c) : d.Origin sources p c :=
  .drawn (Or.inl h)

theorem origin_blank : d.Origin sources p ' ' := origin_printable (by decide)

theorem consistsOf_codeText (d : Diagnostic) : ConsistsOf IsPrintable d.codeText := by
  rw [codeText]
  cases d.code with
  | none => exact consistsOf_empty
  | some code =>
      show ConsistsOf IsPrintable (codeToken code)
      rw [codeToken, zeroPadded_natCast, consistsOf_append, consistsOf_append, consistsOf_append]
      exact ⟨⟨by decide, consistsOf_run (by decide) _,
        consistsOf_repr (fun _ => isPrintable_of_isDigit) _⟩, by decide⟩

theorem origin_headerRow : d.headerRow.Uses (d.Origin sources p) := by
  refine Row.uses_ofPieces ?_
  simp only [List.forall_mem_cons, consistsOf_append]
  refine ⟨?_, ?_, ⟨?_, ?_⟩, by simp⟩
  · have htoken : ConsistsOf IsPrintable d.severity.token := by
      cases d.severity <;> decide
    exact fun c hc => origin_printable (htoken c hc)
  · exact fun c hc => origin_printable (d.consistsOf_codeText c hc)
  · have hcolon : ConsistsOf IsPrintable ": " := by decide
    exact fun c hc => origin_printable (hcolon c hc)
  · exact fun c hc => .message hc

theorem origin_noteRows {note : String} (hnote : note ∈ d.notes) (gutter : Nat) :
    ∀ row ∈ noteRows p gutter note, row.Uses (d.Origin sources p) := by
  intro row hrow
  obtain ⟨line, hline, hkind⟩ := exists_line_of_mem_noteRows hrow
  have htext : ConsistsOf (d.Origin sources p) line := fun c hc => .note hnote hline hc
  rcases hkind with rfl | rfl
  · refine Row.uses_ofPieces ?_
    simp only [List.forall_mem_cons, consistsOf_append, consistsOf_singleton]
    refine ⟨⟨⟨?_, ?_⟩, ?_⟩, ⟨?_, htext⟩, by simp⟩
    · exact consistsOf_spaces origin_blank _
    · exact consistsOf_blank origin_blank
    · exact .drawn (Or.inr (by simp [Glyphs.characters]))
    · exact consistsOf_blank origin_blank
  · refine Row.uses_ofPieces ?_
    simp only [List.forall_mem_cons, consistsOf_append]
    exact ⟨⟨consistsOf_spaces origin_blank _, htext⟩, by simp⟩

theorem Resolves.yields_excerptIn (h : d.Resolves sources found) {source : Int}
    (hsource : source ∈ d.sourceIds) (gutter : Nat) :
    (d.excerptIn found p gutter source).Yields (d.Origin sources p) where
  drawn _ hdrawn := .drawn hdrawn
  name := by
    intro c hc
    obtain ⟨label, hlabel, rfl⟩ := List.mem_map.mp (List.mem_eraseDups.mp hsource)
    exact .name hlabel (h.find_eq _ hsource) hc
  message region hregion _ hc := .label (mem_highlights_restrict.mp hregion).1 hc
  sourceLine line hline := by
    intro c hc
    obtain ⟨region, hregion, hends⟩ := Excerpt.mem_lines.mp hline
    obtain ⟨hmem, rfl⟩ := mem_highlights_restrict.mp hregion
    have hfits : (d.excerptIn found p gutter region.source).Fits :=
      (h.shows_layoutIn hsource p gutter 0).fits
    refine .line hmem (h.find_eq _ hsource) ?_ (Excerpt.getElem?_linesOf hfits hline) hc
    rw [Highlight.endLines, get?_of_find (h.find_eq _ hsource)]
    exact List.mem_pair.mpr hends

/-- **Origin.**  Every character of a frame is drawn or stands in a text that the diagnostic
shows. -/
theorem Resolves.uses_origin (h : d.Resolves sources found) :
    ∀ row ∈ d.frameRows sources found p, row.Uses (d.Origin sources p) := by
  intro row hrow
  rcases mem_frameRows.mp hrow with rfl | ⟨source, hsource, hsnippet⟩ | ⟨note, hnote, hrow⟩
  · exact origin_headerRow
  · exact (h.yields_excerptIn hsource _).rows row hsnippet
  · exact origin_noteRows hnote _ row hrow

/-! ### Characters that are nowhere shown -/

/-- Neither a message nor the name of a source that the diagnostic points into has the
character. -/
structure Avoids (d : Diagnostic) (sources : Sources) (c : Char) : Prop where
  message : c ∉ d.message.toList
  labels : ∀ region ∈ d.highlights, c ∉ region.region.message.toList
  names : ∀ label ∈ d.labels, ∀ source, sources.find label.source = .ok source →
    c ∉ source.name.toList

/-- Nor does a note or the content of such a source. -/
structure AvoidsThroughout (d : Diagnostic) (sources : Sources) (c : Char) : Prop
    extends d.Avoids sources c where
  notes : ∀ note ∈ d.notes, c ∉ note.toList
  contents : ∀ label ∈ d.labels, ∀ source, sources.find label.source = .ok source →
    c ∉ source.content.toList

theorem exists_label_of_mem_highlights {region : Highlight} (h : region ∈ d.highlights) :
    ∃ label ∈ d.labels, label.source = region.source := by
  obtain ⟨label, hlabel, hregion⟩ := List.mem_flatMap.mp h
  exact ⟨label, hlabel, (Label.source_of_mem_highlights hregion).symm⟩

/-- Notes and source texts are cut at their line breaks, so there a line break need not be
avoided. -/
theorem Avoids.not_origin_lineBreak (h : d.Avoids sources lineBreak) :
    ¬ d.Origin sources p lineBreak := by
  rintro (hdrawn | hmessage | ⟨hregion, hlabel⟩ | ⟨_, hline, hnote⟩ | ⟨hlabel, hsource, hname⟩ |
    ⟨_, _, _, htext, hline⟩)
  · exact absurd hdrawn.le_toNat (by decide)
  · exact h.message hmessage
  · exact h.labels _ hregion hlabel
  · exact absurd (mem_paragraphLines hline hnote).2 (by decide)
  · exact h.names _ hlabel _ hsource hname
  · exact lineBreak_notMem_of_mem_linesOf (List.mem_of_getElem? htext) hline

theorem AvoidsThroughout.not_origin {c : Char} (h : d.AvoidsThroughout sources c)
    (hcontrol : c.toNat < 32) : ¬ d.Origin sources p c := by
  rintro (hdrawn | hmessage | ⟨hregion, hlabel⟩ | ⟨hnote, hline, hmem⟩ | ⟨hlabel, hsource, hname⟩ |
    ⟨hregion, hsource, _, htext, hline⟩)
  · exact absurd hdrawn.le_toNat (Nat.not_le.mpr hcontrol)
  · exact h.message hmessage
  · exact h.labels _ hregion hlabel
  · exact h.notes _ hnote (mem_paragraphLines hline hmem).1
  · exact h.names _ hlabel _ hsource hname
  · obtain ⟨label, hlabel, heq⟩ := exists_label_of_mem_highlights hregion
    have hmem : c ∈ (linesOf _).flatMap String.toList :=
      List.mem_flatMap.mpr ⟨_, List.mem_of_getElem? htext, hline⟩
    rw [flatMap_linesOf] at hmem
    exact h.contents label hlabel _ (heq ▸ hsource) (List.mem_filter.mp hmem).1

/-- A frame has no character that has no place to come from. -/
theorem Resolves.uses_ne (h : d.Resolves sources found) {c : Char}
    (hnone : ¬ d.Origin sources p c) : ∀ row ∈ d.frameRows sources found p, row.Uses (· ≠ c) := by
  intro row hrow
  refine (h.uses_origin row hrow).imp ?_
  rintro other horigin rfl
  exact hnone horigin

end Diagnostic

end SourceDiagnostics
