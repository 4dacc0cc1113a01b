import SourceDiagnostics.Proofs.Frame.Characters
import SourceDiagnostics.Proofs.Frame.Composition
import Mathlib.Data.List.Forall2

/-!
# Both sets of glyphs draw the same frame

A frame drawn in ASCII is the one drawn with box-drawing characters, with each glyph replaced by
the one that stands at its place in the other set (`asciiGlyph`).  Nothing that a frame shows is
touched by this: header, notes, source text, names, underlines and messages are the same, even if
they hold characters that look like glyphs.  What is drawn around them is made of blanks, digits
and glyphs, and only there the glyphs are replaced (`Row.Redrawn` has the kinds of rows).

Every glyph is one character, but for the one in front of a source's name, so only the rows with
such a name change in length.  And since all that is drawn is ASCII, any other character of an
ASCII frame is one that the diagnostic shows (`Diagnostic.render_ascii`).
-/

namespace SourceDiagnostics

open Text

/-! ### Glyphs and their counterparts -/

/-- The glyphs of one character, place by place. -/
def Glyphs.strokes (glyphs : Glyphs) : List Char :=
  [glyphs.border, glyphs.lane, glyphs.openCorner, glyphs.closeCorner, glyphs.horizontal,
   glyphs.openTip, glyphs.closeTip, glyphs.note, glyphs.primary, glyphs.secondary,
   glyphs.tertiary, glyphs.quaternary]

/-- A box-drawing glyph and the ASCII glyph at the same place. -/
def Counterpart (glyph glyph' : Char) : Prop :=
  (glyph, glyph') ∈ Glyphs.boxDrawing.strokes.zip Glyphs.ascii.strokes

instance (glyph glyph' : Char) : Decidable (Counterpart glyph glyph') :=
  inferInstanceAs (Decidable (_ ∈ _))

/-- The counterpart of a glyph; any other character is kept. -/
def asciiGlyph (c : Char) : Char :=
  ((Glyphs.boxDrawing.strokes.zip Glyphs.ascii.strokes).lookup c).getD c

/-- The text with each glyph replaced. -/
def redrawn (text : String) : String := String.ofList (text.toList.map asciiGlyph)

/-- What is drawn around the texts of a frame. -/
def IsDrawing (text : String) : Prop :=
  ConsistsOf (fun c => c = ' ' ∨ c.isDigit = true ∨ c ∈ Glyphs.boxDrawing.strokes) text

/-- A glyph that stands at two places has the same counterpart at both. -/
theorem Counterpart.asciiGlyph_eq {glyph glyph' : Char} (h : Counterpart glyph glyph') :
    asciiGlyph glyph = glyph' := by
  have hall : ∀ pair ∈ Glyphs.boxDrawing.strokes.zip Glyphs.ascii.strokes,
      asciiGlyph pair.1 = pair.2 := by decide
  exact hall (glyph, glyph') h

theorem Counterpart.mem_strokes {glyph glyph' : Char} (h : Counterpart glyph glyph') :
    glyph ∈ Glyphs.boxDrawing.strokes := (List.of_mem_zip h).1

theorem asciiGlyph_of_not_mem {c : Char} (h : c ∉ Glyphs.boxDrawing.strokes) :
    asciiGlyph c = c := by
  have hnone : (Glyphs.boxDrawing.strokes.zip Glyphs.ascii.strokes).lookup c = none := by
    rw [List.lookup_eq_none_iff]
    rintro ⟨glyph, counterpart⟩ hmem
    have hglyph : glyph ∈ Glyphs.boxDrawing.strokes := (List.of_mem_zip hmem).1
    rw [bne_iff_ne]
    rintro rfl
    exact h hglyph
  rw [asciiGlyph, hnone, Option.getD_none]

theorem asciiGlyph_of_isDigit {c : Char} (h : c.isDigit = true) : asciiGlyph c = c := by
  apply asciiGlyph_of_not_mem
  intro hmem
  have hnone : Glyphs.boxDrawing.strokes.filter Char.isDigit = [] := by decide
  exact List.filter_eq_nil_iff.mp hnone c hmem h

/-- A drawn text with the same text in ASCII. -/
structure Redraws (text text' : String) : Prop where
  drawing : IsDrawing text
  redrawn_eq : redrawn text = text'

namespace Redraws

variable {s t s' t' : String}

theorem length_eq (h : Redraws t t') : t.length = t'.length := by
  rw [← h.redrawn_eq, redrawn, String.length_ofList, List.length_map, String.length_toList]

theorem append (hs : Redraws s s') (ht : Redraws t t') : Redraws (s ++ t) (s' ++ t') where
  drawing := consistsOf_append.mpr ⟨hs.drawing, ht.drawing⟩
  redrawn_eq := by
    rw [← hs.redrawn_eq, ← ht.redrawn_eq]
    simp [redrawn]

theorem run {glyph glyph' : Char} (h : Counterpart glyph glyph') (n : Nat) :
    Redraws (run glyph n) (run glyph' n) where
  drawing := consistsOf_run (Or.inr (Or.inr h.mem_strokes)) n
  redrawn_eq := by
    rw [← h.asciiGlyph_eq]
    simp [redrawn, Text.run]

theorem singleton {glyph glyph' : Char} (h : Counterpart glyph glyph') :
    Redraws (String.singleton glyph) (String.singleton glyph') where
  drawing := consistsOf_singleton.mpr (Or.inr (Or.inr h.mem_strokes))
  redrawn_eq := by
    rw [← h.asciiGlyph_eq]
    simp [redrawn]

/-- Text without a glyph is drawn alike. -/
theorem of_blanks_and_digits (h : ConsistsOf (fun c => c = ' ' ∨ c.isDigit = true) t) :
    Redraws t t where
  drawing c hc := (h c hc).imp id Or.inl
  redrawn_eq := by
    have hsame : t.toList.map asciiGlyph = t.toList.map id := by
      refine List.map_congr_left ?_
      intro c hc
      rcases h c hc with rfl | hdigit
      · exact asciiGlyph_of_not_mem (by decide)
      · exact asciiGlyph_of_isDigit hdigit
    rw [redrawn, hsame, List.map_id, String.ofList_toList]

theorem blank : Redraws " " " " := of_blanks_and_digits (consistsOf_blank (Or.inl rfl))

theorem spaces (n : Nat) : Redraws (spaces n) (spaces n) :=
  of_blanks_and_digits (consistsOf_spaces (Or.inl rfl) n)

theorem alignRight_repr (width n : Nat) :
    Redraws (alignRight width (Nat.repr n)) (alignRight width (Nat.repr n)) := by
  have hdigits : ConsistsOf (fun c => c = ' ' ∨ c.isDigit = true) (Nat.repr n) :=
    consistsOf_repr (fun _ hdigit => Or.inr hdigit) n
  exact of_blanks_and_digits (consistsOf_alignRight (Or.inl rfl) hdigits width)

end Redraws

/-! ### Rows -/

/-- Two pieces of which the second is the first one in ASCII. -/
inductive PieceRedrawn : String × Style → String × Style → Prop
  | drawn {text text' : String} (h : Redraws text text') (style : Style) :
      PieceRedrawn (text, style) (text', style)
  | shown (text : String) (style : Style) : PieceRedrawn (text, style) (text, style)

theorem PieceRedrawn.length_eq {piece piece' : String × Style} (h : PieceRedrawn piece piece') :
    piece.1.length = piece'.1.length := by
  cases h with
  | drawn h style => exact h.length_eq
  | shown text style => rfl

theorem PieceRedrawn.style_eq {piece piece' : String × Style} (h : PieceRedrawn piece piece') :
    piece.2 = piece'.2 := by
  cases h <;> rfl

theorem PieceRedrawn.eq_empty_iff {piece piece' : String × Style}
    (h : PieceRedrawn piece piece') : piece.1 = "" ↔ piece'.1 = "" := by
  rw [← String.length_eq_zero_iff, h.length_eq, String.length_eq_zero_iff]

namespace Row

/-- The row above a snippet, with a given glyph. -/
def nameRow (glyph : String) (gutter : Nat) (name : String) : Row :=
  ofPieces [(spaces gutter ++ " " ++ glyph ++ " ", .gutter), (name, .gutter)]

/-- Two rows of which the second is the first one in ASCII. -/
inductive Redrawn : Row → Row → Prop
  | header (d : Diagnostic) : Redrawn d.headerRow d.headerRow
  | name (gutter : Nat) (name : String) :
      Redrawn (nameRow Glyphs.boxDrawing.file gutter name)
        (nameRow Glyphs.ascii.file gutter name)
  | source {number number' lanes lanes' : String} (hnumber : Redraws number number')
      (hlanes : Redraws lanes lanes') (text : String) :
      Redrawn (ofPieces [(number, .gutter), (lanes, .gutter), (text, .source)])
        (ofPieces [(number', .gutter), (lanes', .gutter), (text, .source)])
  | underline {margin margin' lanes lanes' : String} (hmargin : Redraws margin margin')
      (hlanes : Redraws lanes lanes') (column : Nat) (marks message : String)
      (emphasis : Emphasis) :
      Redrawn
        (ofPieces [(margin, .gutter), (lanes, .gutter), (spaces column, .source),
          (marks, Style.ofEmphasis emphasis), (message, Style.ofEmphasis emphasis)])
        (ofPieces [(margin', .gutter), (lanes', .gutter), (spaces column, .source),
          (marks, Style.ofEmphasis emphasis), (message, Style.ofEmphasis emphasis)])
  | bracket {margin margin' lanes lanes' bracket bracket' : String}
      (hmargin : Redraws margin margin') (hlanes : Redraws lanes lanes')
      (hbracket : Redraws bracket bracket') (message : String) (emphasis : Emphasis) :
      Redrawn
        (ofPieces [(margin, .gutter), (lanes, .gutter), (bracket, Style.ofEmphasis emphasis),
          (message, Style.ofEmphasis emphasis)])
        (ofPieces [(margin', .gutter), (lanes', .gutter), (bracket', Style.ofEmphasis emphasis),
          (message, Style.ofEmphasis emphasis)])
  | note {front front' : String} (hfront : Redraws front front') (text : String) :
      Redrawn (ofPieces [(front, .gutter), (text, .source)])
        (ofPieces [(front', .gutter), (text, .source)])
  | continuation (text : String) :
      Redrawn (ofPieces [(text, .source)]) (ofPieces [(text, .source)])

/-- What two rows have in common if the second is the first one in ASCII. -/
structure SameDrawing (row row' : Row) : Prop where
  redrawn : Redrawn row row'
  styles_eq : row.spans.map Span.style = row'.spans.map Span.style
  /-- Only the row with the name of a source may change in length. -/
  length_eq : (∀ gutter name, row ≠ nameRow Glyphs.boxDrawing.file gutter name) →
    row.plain.length = row'.plain.length

variable {pieces pieces' : List (String × Style)}

theorem spans_ofPieces_cons (piece : String × Style) (rest : List (String × Style)) :
    (ofPieces (piece :: rest)).spans =
      (if piece.1 = "" then [] else [⟨piece.1, piece.2⟩]) ++ (ofPieces rest).spans := by
  by_cases h : piece.1 = "" <;> simp [ofPieces, h]

/-- No piece is dropped from one row only. -/
theorem styles_eq_of_forall₂
    (h : List.Forall₂ (fun a b => (a.1 = "" ↔ b.1 = "") ∧ a.2 = b.2) pieces pieces') :
    (ofPieces pieces).spans.map Span.style = (ofPieces pieces').spans.map Span.style := by
  induction h with
  | nil => rfl
  | @cons piece piece' _ _ hpiece _ ih =>
      rw [spans_ofPieces_cons, spans_ofPieces_cons, List.map_append, List.map_append, ih]
      by_cases hempty : piece.1 = ""
      · rw [if_pos hempty, if_pos (hpiece.1.mp hempty)]
      · rw [if_neg hempty, if_neg (mt hpiece.1.mpr hempty)]
        simp [hpiece.2]

theorem length_eq_of_forall₂
    (h : List.Forall₂ (fun a b => a.1.length = b.1.length) pieces pieces') :
    (ofPieces pieces).plain.length = (ofPieces pieces').plain.length := by
  rw [plain_ofPieces, plain_ofPieces]
  induction h with
  | nil => rfl
  | cons hpiece _ ih =>
      simp only [List.map_cons, String.join_cons, String.length_append, hpiece, ih]

theorem Redrawn.sameDrawing_of_pieces (h : Redrawn (ofPieces pieces) (ofPieces pieces'))
    (hpieces : List.Forall₂ PieceRedrawn pieces pieces') :
    SameDrawing (ofPieces pieces) (ofPieces pieces') where
  redrawn := h
  styles_eq := styles_eq_of_forall₂
    (hpieces.imp fun _ _ hpiece => ⟨hpiece.eq_empty_iff, hpiece.style_eq⟩)
  length_eq _ := length_eq_of_forall₂ (hpieces.imp fun _ _ hpiece => hpiece.length_eq)

theorem sameDrawing_nameRow (gutter : Nat) (name : String) :
    SameDrawing (nameRow Glyphs.boxDrawing.file gutter name)
      (nameRow Glyphs.ascii.file gutter name) where
  redrawn := .name gutter name
  styles_eq := by
    have hdrawn : ∀ glyph, spaces gutter ++ " " ++ glyph ++ " " ≠ "" := fun glyph =>
      append_ne_empty_of_right (by decide) _
    exact styles_eq_of_forall₂
      (.cons ⟨by simp [hdrawn], rfl⟩ (.cons ⟨Iff.rfl, rfl⟩ .nil))
  length_eq hname := absurd rfl (hname gutter name)

/-- **Rows.**  The same spans have the same styles, and nothing moves. -/
theorem Redrawn.sameDrawing {row row' : Row} (h : Redrawn row row') : SameDrawing row row' := by
  cases h with
  | header d =>
      exact sameDrawing_of_pieces (.header d) (List.forall₂_same.mpr fun _ _ => .shown _ _)
  | name gutter name => exact sameDrawing_nameRow gutter name
  | source hnumber hlanes text =>
      exact sameDrawing_of_pieces (.source hnumber hlanes text)
        (.cons (.drawn hnumber _) (.cons (.drawn hlanes _) (.cons (.shown _ _) .nil)))
  | underline hmargin hlanes column marks message emphasis =>
      exact sameDrawing_of_pieces (.underline hmargin hlanes column marks message emphasis)
        (.cons (.drawn hmargin _) (.cons (.drawn hlanes _)
          (List.forall₂_same.mpr fun _ _ => .shown _ _)))
  | bracket hmargin hlanes hbracket message emphasis =>
      exact sameDrawing_of_pieces (.bracket hmargin hlanes hbracket message emphasis)
        (.cons (.drawn hmargin _) (.cons (.drawn hlanes _) (.cons (.drawn hbracket _)
          (.cons (.shown _ _) .nil))))
  | note hfront text =>
      exact sameDrawing_of_pieces (.note hfront text)
        (.cons (.drawn hfront _) (.cons (.shown _ _) .nil))
  | continuation text =>
      exact sameDrawing_of_pieces (.continuation text) (.cons (.shown _ _) .nil)

end Row

/-! ### Lists of rows -/

section Lists

variable {α β γ : Type*} {R : β → γ → Prop}

/-- What is related element by element is related as a list. -/
theorem forall₂_map_of_forall {f : α → β} {g : α → γ} (h : ∀ a, R (f a) (g a)) (l : List α) :
    List.Forall₂ R (l.map f) (l.map g) := by
  rw [List.forall₂_map_left_iff, List.forall₂_map_right_iff, List.forall₂_same]
  exact fun a _ => h a

theorem forall₂_flatMap_of_forall {f : α → List β} {g : α → List γ}
    (h : ∀ a, List.Forall₂ R (f a) (g a)) (l : List α) :
    List.Forall₂ R (l.flatMap f) (l.flatMap g) := by
  rw [List.flatMap_def, List.flatMap_def]
  exact List.rel_flatten (forall₂_map_of_forall h l)

end Lists

/-! ### Rows of excerpts -/

namespace Excerpt

/-- The excerpt with one of the two sets of glyphs. -/
def withAscii (e : Excerpt) (ascii : Bool) : Excerpt :=
  { e with presentation := { e.presentation with ascii } }

variable (e : Excerpt)

theorem redraws_border : Redraws (String.singleton Glyphs.boxDrawing.border)
    (String.singleton Glyphs.ascii.border) := .singleton (by decide)

theorem redraws_margin : Redraws (e.withAscii false).margin (e.withAscii true).margin :=
  ((Redraws.spaces _).append .blank).append redraws_border

theorem redraws_numbered (line : Nat) :
    Redraws ((e.withAscii false).numbered line) ((e.withAscii true).numbered line) :=
  ((Redraws.alignRight_repr _ _).append .blank).append redraws_border

theorem redraws_bars (isOpen : Highlight → Bool) (regions : List Highlight) (blanks : Nat) :
    Redraws
      (String.ofList ((e.withAscii false).bars isOpen regions ++ List.replicate blanks ' '))
      (String.ofList ((e.withAscii true).bars isOpen regions ++ List.replicate blanks ' ')) := by
  have hlane : Redraws (String.singleton Glyphs.boxDrawing.lane)
      (String.singleton Glyphs.ascii.lane) := .singleton (by decide)
  induction regions with
  | nil => exact Redraws.spaces blanks
  | cons region rest ih =>
      have hsplit : ∀ ascii, String.ofList ((e.withAscii ascii).bars isOpen (region :: rest) ++
            List.replicate blanks ' ') =
          " " ++ String.singleton
            (if isOpen region then (e.withAscii ascii).presentation.glyphs.lane else ' ') ++
          String.ofList ((e.withAscii ascii).bars isOpen rest ++ List.replicate blanks ' ') := by
        intro ascii
        apply String.toList_inj.mp
        simp [bars]
      rw [hsplit, hsplit]
      refine (Redraws.blank.append ?_).append ih
      by_cases hopen : isOpen region = true
      · rw [if_pos hopen, if_pos hopen]
        exact hlane
      · rw [if_neg hopen, if_neg hopen]
        exact .blank

theorem redraws_bracket {corner tip corner' tip' : Char} (hcorner : Counterpart corner corner')
    (htip : Counterpart tip tip') (lane offset : Nat) :
    Redraws ((e.withAscii false).bracket lane offset corner tip)
      ((e.withAscii true).bracket lane offset corner' tip') := by
  have hhorizontal : Counterpart Glyphs.boxDrawing.horizontal Glyphs.ascii.horizontal := by decide
  exact ((Redraws.singleton hcorner).append (.run hhorizontal _)).append (.singleton htip)

/-! #### Rows -/

theorem headerRow_redrawn :
    Row.Redrawn (e.withAscii false).headerRow (e.withAscii true).headerRow :=
  .name e.gutter e.name

theorem sourceRow_redrawn (line : Nat) :
    Row.Redrawn ((e.withAscii false).sourceRow line) ((e.withAscii true).sourceRow line) :=
  .source (e.redraws_numbered line) (e.redraws_bars _ _ 2) _

theorem underlineRow_redrawn (h : Highlight) :
    Row.Redrawn ((e.withAscii false).underlineRow h) ((e.withAscii true).underlineRow h) := by
  have hmarks : ∀ ascii, (e.withAscii ascii).presentation.glyphs.underline h.emphasis =
      Glyphs.boxDrawing.underline h.emphasis := by
    intro ascii
    cases ascii with
    | false => rfl
    | true => exact Glyphs.underline_ascii h.emphasis
  rw [underlineRow, underlineRow, hmarks, hmarks]
  exact .underline e.redraws_margin (e.redraws_bars _ _ 2) _ _ _ h.emphasis

theorem openingRow_redrawn (h : Highlight) (lane : Nat) :
    Row.Redrawn ((e.withAscii false).openingRow h lane) ((e.withAscii true).openingRow h lane) := by
  have hcorner : Counterpart Glyphs.boxDrawing.openCorner Glyphs.ascii.openCorner := by decide
  have htip : Counterpart Glyphs.boxDrawing.openTip Glyphs.ascii.openTip := by decide
  have hrow : ∀ ascii, (e.withAscii ascii).openingRow h lane = _ := fun ascii =>
    (Row.ofPieces_append_empty _ (Style.ofEmphasis h.emphasis)).symm
  rw [hrow, hrow]
  exact .bracket e.redraws_margin (e.redraws_bars _ _ 1) (e.redraws_bracket hcorner htip _ _) ""
    h.emphasis

theorem closingRow_redrawn (h : Highlight) (lane : Nat) :
    Row.Redrawn ((e.withAscii false).closingRow h lane) ((e.withAscii true).closingRow h lane) := by
  have hcorner : Counterpart Glyphs.boxDrawing.closeCorner Glyphs.ascii.closeCorner := by decide
  have htip : Counterpart Glyphs.boxDrawing.closeTip Glyphs.ascii.closeTip := by decide
  exact .bracket e.redraws_margin (e.redraws_bars _ _ 1) (e.redraws_bracket hcorner htip _ _) _
    h.emphasis

theorem rowsAt_redrawn (line : Nat) :
    List.Forall₂ Row.Redrawn ((e.withAscii false).rowsAt line) ((e.withAscii true).rowsAt line) := by
  -- which regions have a row on the line does not depend on the glyphs
  have hopening := forall₂_map_of_forall fun entry : Highlight × Nat =>
    e.openingRow_redrawn entry.1 entry.2
  have hunderline := forall₂_map_of_forall e.underlineRow_redrawn
  have hclosing := forall₂_map_of_forall fun entry : Highlight × Nat =>
    e.closingRow_redrawn entry.1 entry.2
  exact .cons (e.sourceRow_redrawn line)
    (List.rel_append (List.rel_append (hopening _) (hunderline _)) (hclosing _))

/-- **Excerpts.**  They have the same rows in either set. -/
theorem rows_redrawn :
    List.Forall₂ Row.Redrawn (e.withAscii false).rows (e.withAscii true).rows :=
  .cons e.headerRow_redrawn (forall₂_flatMap_of_forall e.rowsAt_redrawn _)

end Excerpt

/-! ### Notes -/

theorem noteRow_redrawn (p : Presentation) (gutter : Nat) (line : String) :
    Row.Redrawn (noteRow { p with ascii := false } gutter line)
      (noteRow { p with ascii := true } gutter line) := by
  have hglyph : Counterpart Glyphs.boxDrawing.note Glyphs.ascii.note := by decide
  exact .note (((Redraws.spaces gutter).append .blank).append (.singleton hglyph)) _

theorem noteRows_redrawn (p : Presentation) (gutter : Nat) (note : String) :
    List.Forall₂ Row.Redrawn (noteRows { p with ascii := false } gutter note)
      (noteRows { p with ascii := true } gutter note) := by
  unfold noteRows
  cases paragraphLines note with
  | nil => exact .nil
  | cons first rest =>
      exact .cons (noteRow_redrawn p gutter first)
        (forall₂_map_of_forall (fun line => Row.Redrawn.continuation _) rest)

theorem notesRows_redrawn (p : Presentation) (gutter : Nat) (notes : List String) :
    List.Forall₂ Row.Redrawn (notesRows { p with ascii := false } gutter notes)
      (notesRows { p with ascii := true } gutter notes) :=
  forall₂_flatMap_of_forall (noteRows_redrawn p gutter) notes

/-! ### Frames -/

namespace Diagnostic

variable {d : Diagnostic} {sources : Sources} {p : Presentation} {found : Int → Source}

theorem frameRows_redrawn (d : Diagnostic) (sources : Sources) (found : Int → Source)
    (p : Presentation) :
    List.Forall₂ Row.Redrawn (d.frameRows sources found { p with ascii := false })
      (d.frameRows sources found { p with ascii := true }) := by
  have hblocks := forall₂_flatMap_of_forall fun source =>
    (d.excerptIn found p (d.numberWidth sources) source).rows_redrawn
  exact .cons (.header d) (List.rel_append (hblocks _) (notesRows_redrawn p _ _))

/-- All that is drawn in ASCII is printable. -/
theorem not_draws_of_le {c : Char} (h : 128 ≤ c.toNat) :
    ¬ ({ p with ascii := true } : Presentation).Draws c := by
  rintro (hprintable | hglyph)
  · exact absurd hprintable.2 (by omega)
  · exact absurd (Glyphs.isPrintable_of_mem_ascii hglyph).2 (by omega)

/-- **Sets of glyphs.**  Either set draws the frame of a diagnostic, or with both it is refused for
the same reason.  The frames have the same rows, span by span in the same styles, up to the glyphs
that are drawn; and any character of the ASCII frame that is not ASCII comes from a text that the
diagnostic shows. -/
theorem render_ascii (d : Diagnostic) (sources : Sources) (p : Presentation) :
    match d.render sources { p with ascii := false }, d.render sources { p with ascii := true } with
    | .ok rows, .ok rows' =>
        List.Forall₂ Row.SameDrawing rows rows' ∧
        ∀ row ∈ rows', ∀ span ∈ row.spans, ∀ c ∈ span.text.toList, 128 ≤ c.toNat →
          d.Origin sources { p with ascii := true } c ∧
            ¬ ({ p with ascii := true } : Presentation).Draws c
    | .error fault, .error fault' => fault = fault'
    | _, _ => False := by
  have houtcome := d.render_outcome sources { p with ascii := false }
  have houtcome' := d.render_outcome sources { p with ascii := true }
  cases hfirst : firstFault sources d.checks with
  | some fault =>
      rw [hfirst] at houtcome houtcome'
      rw [houtcome, houtcome']
  | none =>
      rw [hfirst] at houtcome
      obtain ⟨rows, hrows⟩ := houtcome
      obtain ⟨found, hresolves, rfl⟩ := exists_resolves_of_render hrows
      rw [hrows, hresolves.render_eq { p with ascii := true }]
      refine ⟨(d.frameRows_redrawn sources found p).imp fun _ _ h => h.sameDrawing, ?_⟩
      intro row hrow span hspan c hc hcode
      exact ⟨hresolves.uses_origin row hrow span hspan c hc, not_draws_of_le hcode⟩

end Diagnostic

end SourceDiagnostics
