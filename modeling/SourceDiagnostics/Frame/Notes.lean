import SourceDiagnostics.Display.Presentation
import SourceDiagnostics.Display.Row
import SourceDiagnostics.Text.Padding
import SourceDiagnostics.Text.Terminators

/-!
# Notes

Notes follow the snippets of a frame.  The first line of a note has the note glyph below the
border of the snippets; its other lines are indented to where the text of the first one starts.
-/

namespace SourceDiagnostics

open Text

def noteRow (p : Presentation) (gutter : Nat) (line : String) : Row :=
  Row.ofPieces
    [(spaces gutter ++ " " ++ String.singleton p.glyphs.note, .gutter), (" " ++ line, .source)]

def continuationRow (gutter : Nat) (line : String) : Row :=
  Row.ofPieces [(spaces (gutter + 3) ++ line, .source)]

def noteRows (p : Presentation) (gutter : Nat) (note : String) : List Row :=
  match paragraphLines note with
  | [] => []
  | first :: rest => noteRow p gutter first :: rest.map (continuationRow gutter)

def notesRows (p : Presentation) (gutter : Nat) (notes : List String) : List Row :=
  notes.flatMap (noteRows p gutter)

theorem length_noteRows (p : Presentation) (gutter : Nat) (note : String) :
    (noteRows p gutter note).length = (paragraphLines note).length := by
  unfold noteRows
  split
  · rename_i h
    rw [h]
    rfl
  · rename_i first rest h
    rw [h]
    simp

/-- A row of a note shows one of its lines. -/
theorem exists_line_of_mem_noteRows {p : Presentation} {gutter : Nat} {note : String} {row : Row}
    (h : row ∈ noteRows p gutter note) :
    ∃ line ∈ paragraphLines note,
      row = noteRow p gutter line ∨ row = continuationRow gutter line := by
  unfold noteRows at h
  split at h
  · cases h
  · rename_i first rest hlines
    rw [hlines]
    rcases List.mem_cons.mp h with rfl | hrest
    · exact ⟨first, List.mem_cons_self .., Or.inl rfl⟩
    · obtain ⟨line, hline, rfl⟩ := List.mem_map.mp hrest
      exact ⟨line, List.mem_cons_of_mem _ hline, Or.inr rfl⟩

theorem plain_noteRow (p : Presentation) (gutter : Nat) (line : String) :
    (noteRow p gutter line).plain =
      spaces gutter ++ " " ++ String.singleton p.glyphs.note ++ " " ++ line := by
  rw [noteRow, Row.plain_ofPieces]
  simp [String.append_assoc]

theorem plain_continuationRow (gutter : Nat) (line : String) :
    (continuationRow gutter line).plain = spaces (gutter + 3) ++ line := by
  rw [continuationRow, Row.plain_ofPieces]
  simp

end SourceDiagnostics
