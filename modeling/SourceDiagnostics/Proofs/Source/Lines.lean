import SourceDiagnostics.Proofs.Source.Positions

/-!
# The lines of an index

An index numbers its lines from one, finds each in the table of breaks and decodes the bytes it
holds.  What comes out are the lines of the text, `lines_eq_linesOf`: none is missing, none fails to
decode, and each begins behind the bytes of those before it.  A number that no line has is refused,
by text and start alike.
-/

namespace SourceDiagnostics.LineIndex

open Text

variable {x : LineIndex}

theorem checkLine_of_outside {line : Int} (h : line < 1 ∨ (x.lineCount : Int) < line) :
    x.checkLine line = .error (.lineOutside line x.lineCount) := by
  rw [checkLine, if_pos h]

theorem length_linesOf_content (x : LineIndex) : (linesOf x.content).length = x.lineCount := by
  rw [length_linesOf, lineCount_eq]

/-- A line of the index has a cut around it. -/
theorem exists_isLineOf_of_lt {n : Nat} (h : n < x.lineCount) :
    ∃ head line tail, IsLineOf x.content head line tail ∧ head.toList.count lineBreak = n := by
  rw [lineCount_eq] at h
  exact exists_isLineOf_count x.content (Nat.le_of_lt_succ h)

theorem lineText_of_getElem? {n : Nat} {line : String} (h : (linesOf x.content)[n]? = some line) :
    x.lineText ((n + 1 : Nat) : Int) = .ok line := by
  have hlt : n < x.lineCount := by
    rw [← length_linesOf_content]
    exact (List.getElem?_eq_some_iff.mp h).1
  obtain ⟨head, other, tail, cut, rfl⟩ := exists_isLineOf_of_lt hlt
  have hother := cut.getElem?_linesOf
  rw [h] at hother
  cases hother
  exact lineText_of_isLineOf cut

theorem lineStart_of_lt {n : Nat} (h : n < x.lineCount) :
    x.lineStart ((n + 1 : Nat) : Int) = .ok (lineOffset x.content n) := by
  obtain ⟨head, line, tail, cut, rfl⟩ := exists_isLineOf_of_lt h
  rw [lineStart_of_isLineOf cut, cut.lineOffset_eq]

/-- Reading all lines by their numbers gives the lines of the text. -/
theorem map_lineText_range (x : LineIndex) :
    ((List.range x.lineCount).map fun n => x.lineText ((n + 1 : Nat) : Int)) =
      (linesOf x.content).map .ok := by
  apply List.ext_getElem?
  intro n
  rcases Nat.lt_or_ge n x.lineCount with h | h
  · have hlength : n < (linesOf x.content).length := by
      rw [length_linesOf_content]
      exact h
    have hline := List.getElem?_eq_getElem hlength
    rw [List.getElem?_map, List.getElem?_map, List.getElem?_range h, hline, Option.map_some,
      Option.map_some, lineText_of_getElem? hline]
  · rw [List.getElem?_eq_none, List.getElem?_eq_none]
    · rwa [List.length_map, length_linesOf_content]
    · rwa [List.length_map, List.length_range]

/-- **Lines.**  The texts of the lines, read by number, are the text split at its breaks: joined
again they are the text, none holds a break, all other characters are kept in place, and what
follows the last break is the last line even if it is empty.  A line begins behind the lines before
it and their breaks, and no other numbers are lines. -/
theorem lines_eq_linesOf (content : String) :
    ((List.range (ofContent content).lineCount).map fun n =>
      (ofContent content).lineText ((n + 1 : Nat) : Int)) = (linesOf content).map .ok ∧
    (String.singleton lineBreak).intercalate (linesOf content) = content ∧
    (∀ line ∈ linesOf content, lineBreak ∉ line.toList) ∧
    (linesOf content).flatMap String.toList = content.toList.filter (fun c => c ≠ lineBreak) ∧
    (linesOf content).getLast? = some (afterLastBreak content) ∧
    (∀ n < (ofContent content).lineCount,
      (ofContent content).lineStart ((n + 1 : Nat) : Int) = .ok (lineOffset content n)) ∧
    ∀ n : Int, n < 1 ∨ (ofContent content).lineCount < n →
      (ofContent content).lineText n = .error (.lineOutside n (ofContent content).lineCount) ∧
      (ofContent content).lineStart n = .error (.lineOutside n (ofContent content).lineCount) := by
  refine ⟨map_lineText_range (ofContent content), intercalate_linesOf content,
    fun line hline => lineBreak_notMem_of_mem_linesOf hline, flatMap_linesOf content,
    getLast?_linesOf content, ?_, ?_⟩
  · intro n hn
    exact lineStart_of_lt hn
  · intro n hn
    have hcheck := checkLine_of_outside hn
    constructor
    · rw [lineText, hcheck]
      rfl
    · rw [lineStart, hcheck]
      rfl

end SourceDiagnostics.LineIndex
