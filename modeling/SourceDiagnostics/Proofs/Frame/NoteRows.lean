import SourceDiagnostics.Frame.Notes
import SourceDiagnostics.Proofs.Text.Terminators
import Mathlib.Algebra.Ring.Nat
import Mathlib.Data.List.SplitBy

/-!
# Notes can be read back from their rows

The rows of all notes stand below each other with nothing between them.  Still none of them is
lost: a row has the note glyph behind its gutter exactly if it is the first one of a note, whatever
the note says, because the other rows have a blank there.  Cut before these rows, and with the
columns in front of the text dropped, the rows give the lines of each note, `notesRows_readBack`.
-/

namespace SourceDiagnostics

open Text

/-! ### Reading -/

/-- Whether a row has the glyph where the first row of a note has it. -/
def opensNote (glyph : Char) (gutter : Nat) (row : String) : Bool :=
  row.toList[gutter + 1]? == some glyph

/-- What a row of a note shows. -/
def noteText (gutter : Nat) (row : String) : String := String.ofList (row.toList.drop (gutter + 3))

/-- The lines of each note, from the rows of all of them. -/
def readNotes (glyph : Char) (gutter : Nat) (rows : List String) : List (List String) :=
  (rows.splitBy fun _ row => !opensNote glyph gutter row).map fun block =>
    block.map (noteText gutter)

/-- The rows of a note with the given lines. -/
def paragraphRows (p : Presentation) (gutter : Nat) : List String → List Row
  | [] => []
  | first :: rest => noteRow p gutter first :: rest.map (continuationRow gutter)

variable {p : Presentation} {gutter : Nat}

/-- Nothing but its lines is taken from a note. -/
theorem notesRows_eq_flatMap (p : Presentation) (gutter : Nat) (notes : List String) :
    notesRows p gutter notes = (notes.map paragraphLines).flatMap (paragraphRows p gutter) := by
  rw [List.flatMap_map]
  rfl

/-! ### Single rows -/

theorem toList_plain_noteRow (p : Presentation) (gutter : Nat) (line : String) :
    (noteRow p gutter line).plain.toList =
      List.replicate (gutter + 1) ' ' ++ p.glyphs.note :: ' ' :: line.toList := by
  rw [plain_noteRow, List.replicate_succ']
  simp

theorem toList_plain_continuationRow (gutter : Nat) (line : String) :
    (continuationRow gutter line).plain.toList =
      List.replicate (gutter + 3) ' ' ++ line.toList := by
  simp [plain_continuationRow]

theorem opensNote_noteRow (line : String) :
    opensNote p.glyphs.note gutter (noteRow p gutter line).plain = true := by
  simp [opensNote, toList_plain_noteRow]

theorem Presentation.note_ne_blank (p : Presentation) : p.glyphs.note ≠ ' ' := by
  rcases p.glyphs_eq with h | h <;> rw [h] <;> decide

/-- Even a line that starts with the glyph is behind the column where it would count. -/
theorem opensNote_continuationRow (line : String) :
    opensNote p.glyphs.note gutter (continuationRow gutter line).plain = false := by
  have hblank : (continuationRow gutter line).plain.toList[gutter + 1]? = some ' ' := by
    rw [toList_plain_continuationRow, List.getElem?_append_left (by simp)]
    simp
  rw [opensNote, hblank, beq_eq_false_iff_ne, ne_eq, Option.some.injEq]
  exact p.note_ne_blank.symm

theorem noteText_noteRow (line : String) :
    noteText gutter (noteRow p gutter line).plain = line := by
  have hrow : (noteRow p gutter line).plain.toList =
      (List.replicate (gutter + 1) ' ' ++ [p.glyphs.note, ' ']) ++ line.toList := by
    simp [toList_plain_noteRow]
  rw [noteText, hrow, List.drop_left' (by simp), String.ofList_toList]

theorem noteText_continuationRow (line : String) :
    noteText gutter (continuationRow gutter line).plain = line := by
  rw [noteText, toList_plain_continuationRow, List.drop_left' (by simp), String.ofList_toList]

/-! ### Blocks of rows -/

/-- The written rows of a note. -/
def paragraphTexts (p : Presentation) (gutter : Nat) (lines : List String) : List String :=
  (paragraphRows p gutter lines).map Row.plain

theorem map_noteText_paragraphTexts (lines : List String) :
    (paragraphTexts p gutter lines).map (noteText gutter) = lines := by
  cases lines with
  | nil => rfl
  | cons first rest =>
      simp [paragraphTexts, paragraphRows, noteText_noteRow, noteText_continuationRow,
        Function.comp_def]

/-- Only the first row of a note opens one. -/
theorem isChain_paragraphTexts (lines : List String) :
    (paragraphTexts p gutter lines).IsChain fun _ row =>
      (!opensNote p.glyphs.note gutter row) = true := by
  cases lines with
  | nil => exact List.isChain_nil
  | cons first rest =>
      apply List.Pairwise.isChain
      rw [paragraphTexts, paragraphRows, List.map_cons, List.pairwise_cons, List.map_map]
      have hrest : ∀ row ∈ rest.map (Row.plain ∘ continuationRow gutter),
          (!opensNote p.glyphs.note gutter row) = true := by
        intro row hrow
        obtain ⟨line, _, rfl⟩ := List.mem_map.mp hrow
        simp [opensNote_continuationRow]
      exact ⟨hrest, List.pairwise_of_forall_mem_list fun _ _ row hrow => hrest row hrow⟩

theorem head_paragraphTexts {lines : List String} (h : paragraphTexts p gutter lines ≠ []) :
    opensNote p.glyphs.note gutter ((paragraphTexts p gutter lines).head h) = true := by
  cases lines with
  | nil => exact absurd rfl h
  | cons first rest => exact opensNote_noteRow first

theorem paragraphTexts_ne_nil {lines : List String} (h : lines ≠ []) :
    paragraphTexts p gutter lines ≠ [] := by
  cases lines with
  | nil => exact absurd rfl h
  | cons first rest => exact List.cons_ne_nil _ _

/-- **Cutting.**  The rows fall apart into those of the single notes. -/
theorem splitBy_flatMap_paragraphTexts {notes : List (List String)}
    (h : ∀ lines ∈ notes, lines ≠ []) :
    (notes.flatMap (paragraphTexts p gutter)).splitBy
        (fun _ row => !opensNote p.glyphs.note gutter row) =
      notes.map (paragraphTexts p gutter) := by
  have hblock : ∀ block ∈ notes.map (paragraphTexts p gutter), ∃ lines ∈ notes,
      block = paragraphTexts p gutter lines := by
    intro block hmem
    obtain ⟨lines, hlines, rfl⟩ := List.mem_map.mp hmem
    exact ⟨lines, hlines, rfl⟩
  rw [List.flatMap_def]
  apply List.splitBy_flatten
  · intro hmem
    obtain ⟨lines, hlines, hnil⟩ := hblock [] hmem
    exact paragraphTexts_ne_nil (h lines hlines) hnil.symm
  · intro block hmem
    obtain ⟨lines, _, rfl⟩ := hblock block hmem
    exact isChain_paragraphTexts lines
  · apply List.Pairwise.isChain
    apply List.pairwise_of_forall_mem_list
    intro block hmem next hnext
    obtain ⟨lines, hlines, rfl⟩ := hblock block hmem
    obtain ⟨others, hothers, rfl⟩ := hblock next hnext
    refine ⟨paragraphTexts_ne_nil (h lines hlines), paragraphTexts_ne_nil (h others hothers), ?_⟩
    simp [head_paragraphTexts]

theorem readNotes_flatMap {notes : List (List String)} (h : ∀ lines ∈ notes, lines ≠ []) :
    readNotes p.glyphs.note gutter ((notes.flatMap (paragraphRows p gutter)).map Row.plain) =
      notes := by
  have htexts : (notes.flatMap (paragraphRows p gutter)).map Row.plain =
      notes.flatMap (paragraphTexts p gutter) := List.map_flatMap ..
  rw [readNotes, htexts, splitBy_flatMap_paragraphTexts h, List.map_map]
  simp [Function.comp_def, map_noteText_paragraphTexts]

/-! ### All notes -/

theorem readNotes_notesRows (p : Presentation) (gutter : Nat) (notes : List String) :
    readNotes p.glyphs.note gutter ((notesRows p gutter notes).map Row.plain) =
      notes.map paragraphLines := by
  rw [notesRows_eq_flatMap, readNotes_flatMap]
  intro lines hlines
  obtain ⟨note, _, rfl⟩ := List.mem_map.mp hlines
  exact paragraphLines_ne_nil note

/-- **Notes.**  The written rows of notes give back the lines of each of them.  So notes have the
same rows, written or not, exactly if one by one they have the same lines, and there is a row for
each line. -/
theorem notesRows_readBack (p : Presentation) (gutter : Nat) (notes : List String) :
    readNotes p.glyphs.note gutter ((notesRows p gutter notes).map Row.plain) =
      notes.map paragraphLines ∧
    (∀ note lines, paragraphLines note = lines ↔ IsParagraph note lines) ∧
    (∀ others : List String,
      (notesRows p gutter notes = notesRows p gutter others ↔
        notes.map paragraphLines = others.map paragraphLines) ∧
      ((notesRows p gutter notes).map Row.plain = (notesRows p gutter others).map Row.plain ↔
        notes.map paragraphLines = others.map paragraphLines)) ∧
    (notesRows p gutter notes).length =
      (notes.map fun note => max 1 (terminatedLines note.toList).length).sum := by
  refine ⟨readNotes_notesRows p gutter notes, fun _ _ => paragraphLines_eq_iff, ?_, ?_⟩
  · intro others
    have hrows : notes.map paragraphLines = others.map paragraphLines →
        notesRows p gutter notes = notesRows p gutter others := by
      intro hlines
      rw [notesRows_eq_flatMap, notesRows_eq_flatMap, hlines]
    have hread : (notesRows p gutter notes).map Row.plain =
          (notesRows p gutter others).map Row.plain →
        notes.map paragraphLines = others.map paragraphLines := by
      intro htexts
      rw [← readNotes_notesRows p gutter, htexts, readNotes_notesRows]
    exact ⟨⟨fun hsame => hread (by rw [hsame]), hrows⟩,
      ⟨hread, fun hlines => by rw [hrows hlines]⟩⟩
  · rw [notesRows, List.length_flatMap]
    simp only [length_noteRows, length_paragraphLines]

/-- An empty note, one whose second line looks like the first row of a note, and one that ends
with a terminator. -/
example :
    readNotes '=' 2 ((notesRows {} 2 ["", "a\n  = b", "c\r\n"]).map Row.plain) =
      [[""], ["a", "  = b"], ["c"]] := by
  decide +kernel

end SourceDiagnostics
