import SourceDiagnostics.Source.LineIndex

/-!
# The break table of a prefix

What the break table says about a text cut in two: the breaks of the first part come first and lie
below the cut, those of the second part lie at or above it.  So the search finds the number of
breaks in the first part, and the start of a line is the size of the text before it.

The main statement is `toLocation_of_line`, which reads the location of an offset off the text
itself: the line number counts the breaks before the offset, the column the bytes since the last
one.
-/

namespace SourceDiagnostics

open Text Search

/-! ### Breaks of a text in two parts -/

theorem utf8ByteSize_ofList_cons (c : Char) (rest : List Char) :
    (String.ofList (c :: rest)).utf8ByteSize =
      c.utf8Size + (String.ofList rest).utf8ByteSize := by
  rw [String.ofList_cons, String.utf8ByteSize_append, String.utf8ByteSize_singleton]

theorem breakOffsets_append (offset : Nat) (before after : List Char) :
    breakOffsets offset (before ++ after) =
      breakOffsets offset before ++
        breakOffsets (offset + (String.ofList before).utf8ByteSize) after := by
  induction before generalizing offset with
  | nil => simp [breakOffsets]
  | cons c rest ih =>
      have hsize := utf8ByteSize_ofList_cons c rest
      simp only [List.cons_append, breakOffsets, hsize, ← Nat.add_assoc]
      by_cases h : c = lineBreak
      · simp [h, ih]
      · simp [h, ih]

/-- There is one entry for each break. -/
theorem length_breakOffsets (offset : Nat) (cs : List Char) :
    (breakOffsets offset cs).length = cs.count lineBreak := by
  induction cs generalizing offset with
  | nil => rfl
  | cons c rest ih =>
      unfold breakOffsets
      by_cases h : c = lineBreak
      · simp [h, ih]
      · simp [h, ih]

/-- Every break lies within the characters it is a break of. -/
theorem lt_of_mem_breakOffsets {offset b : Nat} {cs : List Char}
    (h : b ∈ breakOffsets offset cs) : b < offset + (String.ofList cs).utf8ByteSize := by
  induction cs generalizing offset with
  | nil => cases h
  | cons c rest ih =>
      have hsize := utf8ByteSize_ofList_cons c rest
      have hpos := c.utf8Size_pos
      have hrest : b ∈ breakOffsets (offset + c.utf8Size) rest →
          b < offset + (String.ofList (c :: rest)).utf8ByteSize := by
        intro hb
        have := ih hb
        omega
      unfold breakOffsets at h
      split at h
      · rcases List.mem_cons.mp h with rfl | hb
        · omega
        · exact hrest hb
      · exact hrest h

/-- A part of one line adds no break. -/
theorem count_lineBreak_append {head part : String} (unbroken : lineBreak ∉ part.toList) :
    (head ++ part).toList.count lineBreak = head.toList.count lineBreak := by
  rw [String.toList_append, List.count_append, List.count_eq_zero.mpr unbroken, Nat.add_zero]

namespace LineIndex

/-! ### The table of an index -/

theorem breaks_toList_of_content {x : LineIndex} {before after : String}
    (h : x.content = before ++ after) :
    x.breaks.toList = breakOffsets 0 before.toList ++
      breakOffsets before.utf8ByteSize after.toList := by
  rw [x.toList_breaks, h, String.toList_append, breakOffsets_append, String.ofList_toList,
    Nat.zero_add]

theorem lineCount_eq (x : LineIndex) : x.lineCount = x.content.toList.count lineBreak + 1 := by
  rw [lineCount, ← Array.length_toList, x.toList_breaks, length_breakOffsets]

/-- The search finds the number of breaks before an offset. -/
theorem lowerBound_of_content {x : LineIndex} {before after : String}
    (h : x.content = before ++ after) :
    lowerBound x.breaks before.utf8ByteSize = before.toList.count lineBreak := by
  rw [lowerBound_eq_countP x.breaks_pairwise, breaks_toList_of_content h, List.countP_append]
  have hfirst : (breakOffsets 0 before.toList).countP
      (fun entry => decide (entry < before.utf8ByteSize)) = before.toList.count lineBreak := by
    rw [List.countP_eq_length.mpr, length_breakOffsets]
    intro b hb
    have := lt_of_mem_breakOffsets hb
    rw [String.ofList_toList, Nat.zero_add] at this
    exact decide_eq_true this
  have hsecond : (breakOffsets before.utf8ByteSize after.toList).countP
      (fun entry => decide (entry < before.utf8ByteSize)) = 0 := by
    rw [List.countP_eq_zero]
    intro b hb
    have := le_of_mem_breakOffsets hb
    simpa using this
  rw [hfirst, hsecond, Nat.add_zero]

/-- The entry of a break is the size of the text before it. -/
theorem getElem?_breaks_of_content {x : LineIndex} {before after : String}
    (h : x.content = before ++ String.singleton lineBreak ++ after) :
    x.breaks[before.toList.count lineBreak]? = some before.utf8ByteSize := by
  have hafter : (String.singleton lineBreak ++ after).toList = lineBreak :: after.toList := by
    simp
  rw [String.append_assoc] at h
  rw [← Array.getElem?_toList, breaks_toList_of_content h, ← length_breakOffsets 0,
    List.getElem?_append_right (Nat.le_refl _), Nat.sub_self, hafter]
  simp [breakOffsets]

/-! ### Where lines begin and end -/

/-- A line begins behind the break before it. -/
theorem startOf_of_content {x : LineIndex} {before after : String}
    (h : x.content = before ++ String.singleton lineBreak ++ after) :
    x.startOf (before.toList.count lineBreak + 1) =
      (before ++ String.singleton lineBreak).utf8ByteSize := by
  have hentry := getElem?_breaks_of_content h
  rw [startOf, Array.getD_eq_getD_getElem?, hentry]
  simp [lineBreak]
  rfl

/-- A line with a break behind it ends there. -/
theorem endOf_of_content {x : LineIndex} {before after : String}
    (h : x.content = before ++ String.singleton lineBreak ++ after) :
    x.endOf (before.toList.count lineBreak) = before.utf8ByteSize := by
  have hentry := getElem?_breaks_of_content h
  rw [endOf, Array.getD_eq_getD_getElem?, hentry]
  rfl

theorem endOf_last (x : LineIndex) : x.endOf (x.content.toList.count lineBreak) = x.byteLength := by
  have hsize : x.breaks.size = x.content.toList.count lineBreak := by
    rw [← Array.length_toList, x.toList_breaks, length_breakOffsets]
  rw [endOf, Array.getD_eq_getD_getElem?, Array.getElem?_eq_none (Nat.le_of_eq hsize)]
  rfl

/-! ### Locations -/

/-- Text up to the start of a line: nothing, or text that ends with a break. -/
def IsLineStart (head : String) : Prop :=
  head = "" ∨ ∃ before, head = before ++ String.singleton lineBreak

theorem startOf_of_isLineStart {x : LineIndex} {head after : String} (start : IsLineStart head)
    (h : x.content = head ++ after) :
    x.startOf (head.toList.count lineBreak) = head.utf8ByteSize := by
  rcases start with rfl | ⟨before, rfl⟩
  · rfl
  · have hcount : (before ++ String.singleton lineBreak).toList.count lineBreak =
        before.toList.count lineBreak + 1 := by
      simp
    rw [hcount]
    exact startOf_of_content h

/-- **Locations.**  After the text up to the start of a line and a part of that line, the line is
the number of breaks passed and the column the size of the part, both counted from one. -/
theorem toLocation_of_line {x : LineIndex} {head part after : String} (start : IsLineStart head)
    (unbroken : lineBreak ∉ part.toList) (h : x.content = head ++ part ++ after) :
    x.toLocation (head ++ part).utf8ByteSize =
      .ok { line := head.toList.count lineBreak + 1, column := part.utf8ByteSize + 1 } := by
  have hboundary : IsBoundary x.content (head ++ part).utf8ByteSize := by
    rw [h]
    exact isBoundary_append (head ++ part) after
  have hchecked : x.checkOffset (head ++ part).utf8ByteSize = .ok (head ++ part).utf8ByteSize :=
    (x.checkOffset_eq_ok_iff _ _).mpr ⟨rfl, hboundary⟩
  have hsearch : lowerBound x.breaks (head ++ part).utf8ByteSize =
      head.toList.count lineBreak := by
    rw [lowerBound_of_content h, count_lineBreak_append unbroken]
  have hstart : x.startOf (head.toList.count lineBreak) = head.utf8ByteSize :=
    startOf_of_isLineStart start (by rw [h, String.append_assoc])
  rw [toLocation, hchecked]
  refine congrArg Except.ok (Location.ext ?_ ?_)
  · show lowerBound x.breaks (head ++ part).utf8ByteSize + 1 = _
    rw [hsearch]
  · show (head ++ part).utf8ByteSize -
      x.startOf (lowerBound x.breaks (head ++ part).utf8ByteSize) + 1 = _
    rw [hsearch, hstart, String.utf8ByteSize_append, Nat.add_sub_cancel_left]

end LineIndex

end SourceDiagnostics
