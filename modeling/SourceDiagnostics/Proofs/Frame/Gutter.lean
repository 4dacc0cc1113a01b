import SourceDiagnostics.Proofs.Frame.Composition
import SourceDiagnostics.Proofs.Snippet.Lanes

/-!
# The gutter of a frame

All rows of a frame below its header line up at one gutter: a field for the line number, a blank
and the mark of the row.  The field is as wide as the largest line number of the frame, so every
number fits, and a row without a number has blanks in its place.  Notes keep to the same gutter,
and their text starts in one column.
-/

namespace SourceDiagnostics

open Text

/-! ### Rows at a gutter -/

/-- The text of a row starts with a field of the given width, a blank and a mark. -/
def Row.HasGutter (row : Row) (width : Nat) (field mark : String) : Prop :=
  field.length = width ∧ ∃ rest, row.plain = field ++ " " ++ mark ++ rest

/-- What stands in the gutter of the row of an item: a line number or blanks. -/
def Item.gutterField (width : Nat) : Item → String
  | .text line => alignRight width (toString line)
  | .bracket _ => spaces width
  | .underline _ => spaces width

/-- The rows of a layout line up: the header has the mark of a file, all others a border. -/
structure SnippetAligned (p : Presentation) (width : Nat) (layout : Layout) (rows : List Row) :
    Prop where
  length_eq : rows.length = layout.items.length + 1
  header : ∀ row, rows[0]? = some row → row.HasGutter width (spaces width) p.glyphs.file
  border : ∀ number row item, rows[number]? = some row → layout.itemOn number = some item →
    row.HasGutter width (item.gutterField width) (String.singleton p.glyphs.border)

/-- The rows of a note: the mark of a note stands below the borders, and all text behind it. -/
def NoteAligned (p : Presentation) (width : Nat) (note : String) (rows : List Row) : Prop :=
  ∃ first rest, paragraphLines note = first :: rest ∧
    rows.map Row.plain =
      (spaces width ++ " " ++ String.singleton p.glyphs.note ++ " " ++ first) ::
        rest.map fun line => spaces (width + 3) ++ line

/-! ### Rows of snippets -/

theorem length_gutterField {width : Nat} {item : Item}
    (h : ∀ line, item = .text line → (toString line).length ≤ width) :
    (item.gutterField width).length = width := by
  cases item with
  | text line =>
      rw [Item.gutterField, length_alignRight]
      exact Nat.max_eq_left (h line rfl)
  | bracket m => exact length_spaces width
  | underline u => exact length_spaces width

theorem ShowsLanes.exists_plain {p : Presentation} {gutter laneCount : Nat} {isOpen : Nat → Prop}
    {row : Row} {item : Item} (h : ShowsLanes p gutter laneCount isOpen row item) :
    ∃ rest, row.plain =
      item.gutterField gutter ++ " " ++ String.singleton p.glyphs.border ++ rest := by
  cases item with
  | text line =>
      obtain ⟨cells, rest, _, hplain⟩ := h
      exact ⟨String.ofList cells ++ rest, by rw [hplain, String.append_assoc]; rfl⟩
  | bracket m =>
      obtain ⟨cells, rest, _, hplain⟩ := h
      refine ⟨String.ofList cells ++ (String.singleton (p.glyphs.corner m.bracketEnd) ++ rest), ?_⟩
      rw [hplain, String.append_assoc, String.append_assoc]
      rfl
  | underline u =>
      obtain ⟨cells, rest, _, hplain⟩ := h
      exact ⟨String.ofList cells ++ rest, by rw [hplain, String.append_assoc]; rfl⟩

theorem Excerpt.headerRow_hasGutter (e : Excerpt) :
    e.headerRow.HasGutter e.gutter (spaces e.gutter) e.presentation.glyphs.file := by
  refine ⟨length_spaces _, " " ++ e.name, ?_⟩
  rw [headerRow, Row.plain_ofPieces]
  simp [String.append_assoc]

theorem Layout.Shows.snippetAligned {layout : Layout} {sources : Sources} {e : Excerpt}
    (hshows : layout.Shows sources e)
    (hfits : ∀ line ∈ e.lines, (Nat.repr line).length ≤ e.gutter) :
    SnippetAligned e.presentation e.gutter layout e.rows where
  length_eq := hshows.length_rows
  header row hrow := by
    have hsame : e.headerRow = row := Option.some.inj hrow
    rw [← hsame]
    exact e.headerRow_hasGutter
  border number row item hrow hitem := by
    refine ⟨length_gutterField ?_, (hshows.showsLanes hrow hitem).exists_plain⟩
    -- only source rows have a number, and theirs is one of the lines of the excerpt
    rintro line rfl
    obtain ⟨place, rfl, hentry⟩ := hshows.exists_entry hitem hrow
    obtain ⟨drawn, hdrawn, hat⟩ := Excerpt.mem_drawing.mp (List.mem_of_getElem? hentry)
    have hline : line = drawn := Excerpt.line_of_mem_drawingAt hshows.fits hat
    rw [hline]
    exact hfits drawn hdrawn

/-! ### Rows of notes -/

theorem noteRows_aligned (p : Presentation) (width : Nat) (note : String) :
    NoteAligned p width note (noteRows p width note) := by
  cases hlines : paragraphLines note with
  | nil => exact absurd hlines (paragraphLines_ne_nil note)
  | cons first rest =>
      refine ⟨first, rest, hlines, ?_⟩
      rw [noteRows, hlines, List.map_cons, plain_noteRow, List.map_map]
      refine congrArg _ (List.map_congr_left ?_)
      intro line _
      exact plain_continuationRow width line

/-! ### Rows of frames -/

namespace Diagnostic

/-- **Gutter.**  In a rendered frame the rows of all snippets and notes line up at one gutter, as
wide as the number of the largest line on which any region starts or ends. -/
theorem render_aligned {d : Diagnostic} {sources : Sources} {p : Presentation} {rows : List Row}
    (h : d.render sources p = .ok rows) :
    ∃ layouts snippets notes,
      d.layouts sources = .ok layouts ∧
      rows = d.headerRow :: snippets.flatten ++ notes.flatten ∧
      List.Forall₂ (fun layout snippet =>
        layout.render sources p (d.numberWidth sources) = .ok snippet ∧
        SnippetAligned p (d.numberWidth sources) layout snippet) layouts snippets ∧
      List.Forall₂ (NoteAligned p (d.numberWidth sources)) d.notes notes := by
  obtain ⟨found, hresolves, hrows⟩ := exists_resolves_of_render h
  refine ⟨_,
    d.sourceIds.map fun source => (d.excerptIn found p (d.numberWidth sources) source).rows,
    d.notes.map (noteRows p (d.numberWidth sources)), hresolves.layouts_eq, ?_, ?_, ?_⟩
  · rw [hrows, frameRows, notesRows, List.flatMap_def, List.flatMap_def]
  · rw [List.forall₂_map_left_iff, List.forall₂_map_right_iff, List.forall₂_same]
    intro source hsource
    refine ⟨hresolves.render_layoutIn hsource p _ _, ?_⟩
    refine (hresolves.shows_layoutIn hsource p _ _).snippetAligned ?_
    intro line hline
    exact Nat.le_trans (hresolves.length_repr_le hsource hline) (numberWidth_restrict_le hsource)
  · rw [List.forall₂_map_right_iff, List.forall₂_same]
    intro note _
    exact noteRows_aligned p _ note

end Diagnostic

/-- Line numbers of two digits leave two columns for the rows of a source with one line. -/
theorem Diagnostic.render_aligned_mixed :
    ∃ rows layouts snippets notes,
      mixedDiagnostic.render mixedSources {} = .ok rows ∧
      mixedDiagnostic.layouts mixedSources = .ok layouts ∧
      rows = mixedDiagnostic.headerRow :: snippets.flatten ++ notes.flatten ∧
      List.Forall₂ (SnippetAligned {} 2) layouts snippets ∧
      List.Forall₂ (NoteAligned {} 2) ["see both"] notes := by
  have hrender := mixed_resolves.render_eq {}
  have hwidth : mixedDiagnostic.numberWidth mixedSources = 2 := by decide +kernel
  obtain ⟨layouts, snippets, notes, hlayouts, hrows, hsnippets, hnotes⟩ :=
    Diagnostic.render_aligned hrender
  rw [hwidth] at hsnippets hnotes
  exact ⟨_, layouts, snippets, notes, hrender, hlayouts, hrows,
    hsnippets.imp fun _ _ haligned => haligned.2, hnotes⟩

end SourceDiagnostics
