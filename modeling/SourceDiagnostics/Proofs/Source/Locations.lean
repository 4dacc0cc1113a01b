import SourceDiagnostics.Proofs.Source.Lines

/-!
# Offsets and locations

Two ways to name a place in a text: the bytes before it, or the line it is on and the bytes before
it on that line.  `toLocation_outcome` says what the first becomes as the second, for every offset,
and `toLocation_embeds` that nothing is lost on the way: the order of offsets is the order of their
locations, and `toOffset` leads back.

The way back is wider.  `toOffset` asks only that a column does not pass the end of its line, so it
takes columns that lie inside a character and that no offset leads to; `toLocation_toOffset_iff` says
that these are all it takes too much.
-/

namespace SourceDiagnostics.LineIndex

open Text

variable {x : LineIndex} {head line tail : String}

/-! ### From offsets to locations -/

/-- The location behind a prefix is told by the prefix. -/
theorem exists_toLocation_of_append {before after : String} (h : x.content = before ++ after) :
    ∃ l, x.toLocation before.utf8ByteSize = .ok l ∧
      l.line = before.toList.count lineBreak + 1 ∧
      l.column = (afterLastBreak before).utf8ByteSize + 1 := by
  obtain ⟨head, part, rfl, start, unbroken⟩ := exists_lineStart_append before
  refine ⟨_, toLocation_of_line start unbroken h, ?_, ?_⟩
  · exact congrArg (· + 1) (count_lineBreak_append unbroken).symm
  · rw [afterLastBreak_append start unbroken]

/-- The location of a break is the end of the line it breaks. -/
theorem exists_toLocation_of_break {before after : String}
    (h : x.content = before ++ String.singleton lineBreak ++ after) :
    ∃ l text, x.toLocation before.utf8ByteSize = .ok l ∧ x.lineText l.line = .ok text ∧
      l.column = text.utf8ByteSize + 1 := by
  obtain ⟨head, part, rfl, start, unbroken⟩ := exists_lineStart_append before
  have cut : IsLineOf x.content head part (String.singleton lineBreak ++ after) :=
    ⟨by rw [h, String.append_assoc], start, unbroken, Or.inr ⟨after, rfl⟩⟩
  exact ⟨_, part, toLocation_of_line start unbroken cut.text_eq, lineText_of_isLineOf cut, rfl⟩

theorem toLocation_of_not_isBoundary {byte : Nat} (hle : byte ≤ x.content.utf8ByteSize)
    (h : ¬ IsBoundary x.content byte) :
    x.toLocation byte = .error (.offsetInsideCharacter byte x.content.utf8ByteSize) := by
  rw [toLocation, checkOffset_of_not_isBoundary (Nat.not_lt.mpr hle) h]
  rfl

/-- What is no size of a prefix lies outside the text or inside one of its characters. -/
theorem toLocation_eq_error {offset : Int}
    (h : ¬ ∃ before after, x.content = before ++ after ∧ offset = before.utf8ByteSize) :
    x.toLocation offset = .error
      (if offset < 0 ∨ (x.content.utf8ByteSize : Int) < offset then
        .offsetOutside offset x.content.utf8ByteSize
      else .offsetInsideCharacter offset x.content.utf8ByteSize) := by
  have hoffset : ¬ x.HasOffset offset := fun hoffset => h (hasOffset_iff_exists_append.mp hoffset)
  rw [toLocation, checkOffset_of_not_hasOffset hoffset]
  rfl

/-- **Locations of offsets.**  An offset has a location exactly if it is the size of some prefix.
The line then counts the breaks of that prefix and the column the bytes behind the last of them,
both from one, and a break lies at the end of the line it breaks.  Any other offset is refused with
the size of the text, be it outside the text or inside a character. -/
theorem toLocation_outcome (content : String) (offset : Int) :
    ((∃ l, (ofContent content).toLocation offset = .ok l) ↔
      ∃ before after, content = before ++ after ∧ offset = before.utf8ByteSize) ∧
    (∀ before after, content = before ++ after →
      ∃ l, (ofContent content).toLocation before.utf8ByteSize = .ok l ∧
        l.line = before.toList.count lineBreak + 1 ∧
        l.column = (afterLastBreak before).utf8ByteSize + 1) ∧
    (∀ before after, content = before ++ String.singleton lineBreak ++ after →
      ∃ l text, (ofContent content).toLocation before.utf8ByteSize = .ok l ∧
        (ofContent content).lineText l.line = .ok text ∧ l.column = text.utf8ByteSize + 1) ∧
    ((¬ ∃ before after, content = before ++ after ∧ offset = before.utf8ByteSize) →
      (ofContent content).toLocation offset = .error
        (if offset < 0 ∨ (content.utf8ByteSize : Int) < offset then
          .offsetOutside offset content.utf8ByteSize
        else .offsetInsideCharacter offset content.utf8ByteSize)) := by
  refine ⟨⟨?_, ?_⟩, ?_, ?_, ?_⟩
  · rintro ⟨l, hl⟩
    refine Classical.byContradiction fun h => ?_
    rw [toLocation_eq_error h] at hl
    cases hl
  · rintro ⟨before, after, htext, rfl⟩
    obtain ⟨l, hl, _⟩ := exists_toLocation_of_append (x := ofContent content) htext
    exact ⟨l, hl⟩
  · intro before after htext
    exact exists_toLocation_of_append htext
  · intro before after htext
    exact exists_toLocation_of_break htext
  · intro h
    exact toLocation_eq_error h

/-! ### From locations to offsets -/

theorem toOffset_of_lineCount_lt {l : Location} (h : x.lineCount < l.line) :
    x.toOffset l = .error (.lineOutside l.line x.lineCount) := by
  rw [toOffset, checkLine_of_outside (Or.inr (Int.ofNat_lt.mpr h))]
  rfl

theorem toOffset_of_isLineOf (cut : IsLineOf x.content head line tail) {l : Location}
    (hline : l.line = head.toList.count lineBreak + 1) :
    x.toOffset l =
      if line.utf8ByteSize < l.column - 1 then
        .error (.columnOutside l.line l.column line.utf8ByteSize
          (head.utf8ByteSize + (l.column - 1)) x.content.utf8ByteSize)
      else .ok (head.utf8ByteSize + (l.column - 1)) := by
  have hcheck : x.checkLine l.line = .ok (head.toList.count lineBreak) := by
    rw [hline]
    exact checkLine_of_isLineOf cut
  have hlength : (head ++ line).utf8ByteSize - head.utf8ByteSize = line.utf8ByteSize := by
    rw [String.utf8ByteSize_append, Nat.add_sub_cancel_left]
  have hpast : (head ++ line).utf8ByteSize < head.utf8ByteSize + (l.column - 1) ↔
      line.utf8ByteSize < l.column - 1 := by
    rw [String.utf8ByteSize_append, Nat.add_lt_add_iff_left]
  rw [toOffset, hcheck]
  show (if x.endOf _ < x.startOf _ + (l.column - 1) then _ else _) = _
  simp only [startOf_of_isLineOf cut, endOf_of_isLineOf cut, hlength, hpast, byteLength]

theorem exists_isLineOf_line {l : Location} (h : l.line ≤ x.lineCount) :
    ∃ head text tail, IsLineOf x.content head text tail ∧
      l.line = head.toList.count lineBreak + 1 := by
  have hline := l.one_le_line
  obtain ⟨head, text, tail, cut, hhead⟩ := exists_isLineOf_of_lt (x := x) (n := l.line - 1)
    (by omega)
  exact ⟨head, text, tail, cut, by omega⟩

/-- An existing line answers for the columns up to its end. -/
theorem exists_toOffset_eq {l : Location} (h : l.line ≤ x.lineCount) :
    ∃ text, x.lineText l.line = .ok text ∧ x.toOffset l =
      if text.utf8ByteSize < l.column - 1 then
        .error (.columnOutside l.line l.column text.utf8ByteSize
          (lineOffset x.content (l.line - 1) + (l.column - 1)) x.content.utf8ByteSize)
      else .ok (lineOffset x.content (l.line - 1) + (l.column - 1)) := by
  obtain ⟨head, text, tail, cut, hline⟩ := exists_isLineOf_line h
  refine ⟨text, ?_, ?_⟩
  · rw [hline]
    exact lineText_of_isLineOf cut
  · have hoffset : lineOffset x.content (l.line - 1) = head.utf8ByteSize := by
      rw [hline, Nat.add_sub_cancel, cut.lineOffset_eq]
    rw [hoffset]
    exact toOffset_of_isLineOf cut hline

theorem exists_toLocation_toOffset {byte : Nat} (h : IsBoundary x.content byte) :
    ∃ l, x.toLocation byte = .ok l ∧ x.toOffset l = .ok byte := by
  obtain ⟨head, front, back, tail, cut, rfl⟩ := exists_isLineOf h
  refine ⟨_, toLocation_of_line cut.start cut.unbroken_front cut.text_eq_append, ?_⟩
  rw [toOffset_of_isLineOf cut rfl]
  simp

/-! ### The order of offsets and locations -/

theorem locate_lt_locate {first second : Nat} (hfirst : IsBoundary x.content first)
    (hsecond : IsBoundary x.content second) (hlt : first < second) :
    x.locate first < x.locate second := by
  have hmono := lineAt_mono hfirst hsecond (Nat.le_of_lt hlt)
  rcases Nat.lt_or_eq_of_le hmono with hline | hline
  · left
    rwa [line_locate hfirst, line_locate hsecond]
  · -- on one line the columns are as far apart as the offsets
    obtain ⟨head, front, middle, back, tail, cut, rfl, rfl⟩ :=
      exists_isLineOf_between hfirst hsecond (Nat.le_of_lt hlt) hline
    right
    rw [line_locate hfirst, line_locate hsecond, column_locate hfirst, column_locate hsecond,
      cut.lineHeadAt_eq, cut.append_assoc.lineHeadAt_eq]
    refine ⟨hline, ?_⟩
    simp only [String.utf8ByteSize_append] at hlt ⊢
    omega

theorem locate_lt_locate_iff {first second : Nat} (hfirst : IsBoundary x.content first)
    (hsecond : IsBoundary x.content second) :
    x.locate first < x.locate second ↔ first < second := by
  refine ⟨fun h => ?_, locate_lt_locate hfirst hsecond⟩
  refine Nat.lt_of_not_le fun hle => Location.lt_iff_not_le.mp h ?_
  rcases Nat.lt_or_eq_of_le hle with hlt | rfl
  · exact Location.le_iff_lt_or_eq.mpr (Or.inl (locate_lt_locate hsecond hfirst hlt))
  · exact Location.le_iff_lt_or_eq.mpr (Or.inr rfl)

/-- Two places lie on one line exactly if the text between them holds no break. -/
theorem exists_slice_line_eq_iff {start stop : Nat} (hstart : IsBoundary x.content start)
    (hstop : IsBoundary x.content stop) (hle : start ≤ stop) :
    ∃ text, x.slice start stop = .ok text ∧
      ((x.locate start).line = (x.locate stop).line ↔ lineBreak ∉ text.toList) := by
  rw [line_locate hstart, line_locate hstop]
  obtain ⟨before, middle, after, htext, rfl, rfl⟩ := hstart.exists_append hstop hle
  refine ⟨middle, slice_of_content htext, ?_⟩
  rw [lineAt, lineAt, textUpTo_of_append htext,
    textUpTo_of_append (htext.trans (String.append_assoc ..)), String.toList_append,
    List.count_append, ← List.count_eq_zero]
  omega

/-- **Embedding.**  Offsets go to locations and back unchanged and in the same order, and two of
them go to one line exactly if no break lies between them.  A location is refused if its text has no
such line, or if its column passes the end of the line; any other has the offset behind the earlier
lines with their breaks and the bytes before its column. -/
theorem toLocation_embeds (content : String) :
    (∀ byte, IsBoundary content byte →
      ∃ l, (ofContent content).toLocation byte = .ok l ∧
        (ofContent content).toOffset l = .ok byte) ∧
    (∀ first second, IsBoundary content first → IsBoundary content second →
      ∃ a b, (ofContent content).toLocation first = .ok a ∧
        (ofContent content).toLocation second = .ok b ∧ (a < b ↔ first < second)) ∧
    (∀ start stop, IsBoundary content start → IsBoundary content stop → start ≤ stop →
      ∃ a b text, (ofContent content).toLocation start = .ok a ∧
        (ofContent content).toLocation stop = .ok b ∧
        (ofContent content).slice start stop = .ok text ∧
        a.line ≤ b.line ∧ (a.line = b.line ↔ lineBreak ∉ text.toList)) ∧
    ∀ l : Location,
      ((ofContent content).toOffset l = .error (.lineOutside l.line (ofContent content).lineCount) ↔
        (ofContent content).lineCount < l.line) ∧
      (l.line ≤ (ofContent content).lineCount →
        ∃ text, (ofContent content).lineText l.line = .ok text ∧
          ((ofContent content).toOffset l =
              .error (.columnOutside l.line l.column text.utf8ByteSize
                (lineOffset content (l.line - 1) + (l.column - 1)) content.utf8ByteSize) ↔
            text.utf8ByteSize < l.column - 1) ∧
          ((ofContent content).toOffset l =
              .ok (lineOffset content (l.line - 1) + (l.column - 1)) ↔
            l.column - 1 ≤ text.utf8ByteSize)) := by
  refine ⟨fun byte h => exists_toLocation_toOffset h, ?_, ?_, fun l => ⟨⟨?_, ?_⟩, ?_⟩⟩
  · intro first second hfirst hsecond
    exact ⟨_, _, toLocation_natCast hfirst, toLocation_natCast hsecond,
      locate_lt_locate_iff hfirst hsecond⟩
  · intro start stop hstart hstop hle
    obtain ⟨text, hslice, hline⟩ :=
      exists_slice_line_eq_iff (x := ofContent content) hstart hstop hle
    refine ⟨_, _, text, toLocation_natCast hstart, toLocation_natCast hstop, hslice, ?_, hline⟩
    rw [line_locate hstart, line_locate hstop]
    exact lineAt_mono hstart hstop hle
  · intro h
    refine Nat.lt_of_not_le fun hle => ?_
    obtain ⟨text, _, heq⟩ := exists_toOffset_eq hle
    rw [heq] at h
    split at h
    · cases h
    · cases h
  · exact toOffset_of_lineCount_lt
  · intro hle
    obtain ⟨text, htext, heq⟩ := exists_toOffset_eq hle
    by_cases hpast : text.utf8ByteSize < l.column - 1
    · rw [if_pos hpast] at heq
      refine ⟨text, htext, ⟨fun _ => hpast, fun _ => heq⟩, fun h => ?_, fun h => ?_⟩
      · rw [heq] at h
        cases h
      · exact absurd hpast (Nat.not_lt.mpr h)
    · rw [if_neg hpast] at heq
      refine ⟨text, htext, ⟨fun h => ?_, fun h => absurd h hpast⟩,
        fun _ => Nat.not_lt.mp hpast, fun _ => heq⟩
      rw [heq] at h
      cases h

/-! ### What the way back takes too much -/

/-- Whether the column of a location lies inside a character of its line. -/
def SplitsCharacter (content : String) (l : Location) : Prop :=
  ∃ text, (linesOf content)[l.line - 1]? = some text ∧ l.column - 1 < text.utf8ByteSize ∧
    ¬ IsBoundary text (l.column - 1)

/-- A column inside a character is taken, for an offset that has no location. -/
theorem exists_toOffset_of_splitsCharacter {l : Location} (h : SplitsCharacter x.content l) :
    ∃ byte, x.toOffset l = .ok byte ∧
      x.toLocation byte = .error (.offsetInsideCharacter byte x.content.utf8ByteSize) := by
  obtain ⟨text, htext, hlt, hinside⟩ := h
  have hline := l.one_le_line
  have hlength := (List.getElem?_eq_some_iff.mp htext).1
  rw [length_linesOf_content] at hlength
  obtain ⟨head, line, tail, cut, hnumber⟩ := exists_isLineOf_line (x := x) (l := l) (by omega)
  have hother := cut.getElem?_linesOf
  rw [hnumber, Nat.add_sub_cancel, hother] at htext
  cases htext
  refine ⟨head.utf8ByteSize + (l.column - 1), ?_, ?_⟩
  · rw [toOffset_of_isLineOf cut hnumber, if_neg (Nat.not_lt.mpr (Nat.le_of_lt hlt))]
  · apply toLocation_of_not_isBoundary
    · rw [cut.text_eq, String.utf8ByteSize_append, String.utf8ByteSize_append]
      omega
    · rwa [cut.isBoundary_iff (Nat.le_of_lt hlt)]

/-- A column on a boundary of its line leads to the offset of its location. -/
theorem toLocation_of_isBoundary (cut : IsLineOf x.content head line tail) {l : Location}
    (hline : l.line = head.toList.count lineBreak + 1) (h : IsBoundary line (l.column - 1)) :
    x.toLocation (head.utf8ByteSize + (l.column - 1) : Nat) = .ok l := by
  have hone := l.one_le_column
  obtain ⟨front, back, rfl, hfront⟩ := isBoundary_iff.mp h
  rw [hfront, ← String.utf8ByteSize_append,
    toLocation_of_line cut.start cut.unbroken_front cut.text_eq_append]
  refine congrArg Except.ok (Location.ext hline.symm ?_)
  show front.utf8ByteSize + 1 = l.column
  omega

/-- Any other location that is taken is the location of its offset. -/
theorem toLocation_of_toOffset {l : Location} {byte : Nat} (h : x.toOffset l = .ok byte)
    (hsplit : ¬ SplitsCharacter x.content l) : x.toLocation byte = .ok l := by
  rcases Nat.lt_or_ge x.lineCount l.line with hlast | hlast
  · rw [toOffset_of_lineCount_lt hlast] at h
    cases h
  · obtain ⟨head, text, tail, cut, hline⟩ := exists_isLineOf_line hlast
    rw [toOffset_of_isLineOf cut hline] at h
    split at h
    · cases h
    · rename_i hpast
      cases h
      apply toLocation_of_isBoundary cut hline
      rcases Nat.lt_or_eq_of_le (Nat.not_lt.mp hpast) with hlt | heq
      · refine Classical.byContradiction fun hinside => hsplit ⟨text, ?_, hlt, hinside⟩
        rw [hline, Nat.add_sub_cancel]
        exact cut.getElem?_linesOf
      · rw [heq]
        exact isBoundary_utf8ByteSize text

/-- **The way back.**  A location that `toOffset` takes is the location of the offset it gives,
unless its column lies inside a character.  Such a column is taken too, for an offset that
`toLocation` refuses. -/
theorem toLocation_toOffset_iff (content : String) (l : Location) :
    ((∀ byte, (ofContent content).toOffset l = .ok byte →
        (ofContent content).toLocation byte = .ok l) ↔ ¬ SplitsCharacter content l) ∧
    (SplitsCharacter content l →
      ∃ byte, (ofContent content).toOffset l = .ok byte ∧
        (ofContent content).toLocation byte =
          .error (.offsetInsideCharacter byte content.utf8ByteSize)) := by
  have hsplit : SplitsCharacter content l → _ := fun h =>
    exists_toOffset_of_splitsCharacter (x := ofContent content) h
  refine ⟨⟨?_, ?_⟩, hsplit⟩
  · intro hback h
    obtain ⟨byte, hbyte, hrefused⟩ := hsplit h
    rw [hback byte hbyte] at hrefused
    cases hrefused
  · intro h byte hbyte
    exact toLocation_of_toOffset hbyte h

/-- The second column of a two-byte character leads to an offset that leads nowhere. -/
theorem toOffset_inside_character :
    (ofContent "é").toOffset { line := 1, column := 2 } = .ok 1 ∧
      (ofContent "é").toLocation 1 = .error (.offsetInsideCharacter 1 2) := by
  have cut : IsLineOf (ofContent "é").content "" "é" "" :=
    ⟨rfl, Or.inl rfl, by decide, Or.inl rfl⟩
  constructor
  · rw [toOffset_of_isLineOf cut rfl]
    rfl
  · have hinside : ¬ IsBoundary (ofContent "é").content 1 := by decide
    exact toLocation_of_not_isBoundary (by decide) hinside

end SourceDiagnostics.LineIndex
