import SourceDiagnostics.Proofs.Text.Lines
import SourceDiagnostics.Result

/-!
# Lookups in a line index

What a `LineIndex` answers, said of its text alone: lines by `linesOf`, the line of an offset by
`lineAt`, the text before it on that line by `lineHeadAt`.  Nothing that rendering asks for can
fail once the offsets are boundaries, and no text it cuts out is anything but text.  Any other
integer is refused with the reason why it is no boundary, `offsetFault`.
-/

namespace SourceDiagnostics.LineIndex

open Text

variable {x : LineIndex}

/-! ### Offsets -/

/-- Whether an integer is a boundary of the text. -/
def HasOffset (x : LineIndex) (offset : Int) : Prop :=
  ∃ byte : Nat, offset = byte ∧ Text.IsBoundary x.content byte

theorem hasOffset_iff_toNat {offset : Int} :
    x.HasOffset offset ↔ 0 ≤ offset ∧ IsBoundary x.content offset.toNat := by
  constructor
  · rintro ⟨byte, rfl, hboundary⟩
    exact ⟨Int.natCast_nonneg byte, hboundary⟩
  · rintro ⟨hnonneg, hboundary⟩
    exact ⟨offset.toNat, (Int.toNat_of_nonneg hnonneg).symm, hboundary⟩

instance (x : LineIndex) (offset : Int) : Decidable (x.HasOffset offset) :=
  decidable_of_iff _ hasOffset_iff_toNat.symm

/-- Why an offset that is no boundary is refused. -/
def offsetFault (x : LineIndex) (offset : Int) : LookupFault :=
  if offset < 0 ∨ (x.content.utf8ByteSize : Int) < offset then
    .offsetOutside offset x.content.utf8ByteSize
  else .offsetInsideCharacter offset x.content.utf8ByteSize

theorem hasOffset_iff_exists_append {offset : Int} :
    x.HasOffset offset ↔
      ∃ before after, x.content = before ++ after ∧ offset = before.utf8ByteSize := by
  constructor
  · rintro ⟨byte, rfl, hboundary⟩
    obtain ⟨before, after, htext, rfl⟩ := isBoundary_iff.mp hboundary
    exact ⟨before, after, htext, rfl⟩
  · rintro ⟨before, after, htext, rfl⟩
    exact ⟨_, rfl, isBoundary_iff.mpr ⟨before, after, htext, rfl⟩⟩

theorem checkOffset_natCast {byte : Nat} (h : IsBoundary x.content byte) :
    x.checkOffset byte = .ok byte :=
  (x.checkOffset_eq_ok_iff byte byte).mpr ⟨rfl, h⟩

theorem checkOffset_of_outside {offset : Int}
    (h : offset < 0 ∨ (x.content.utf8ByteSize : Int) < offset) :
    x.checkOffset offset = .error (.offsetOutside offset x.content.utf8ByteSize) := by
  rw [checkOffset, byteLength, if_pos h]

theorem checkOffset_of_lt {byte : Nat} (h : x.content.utf8ByteSize < byte) :
    x.checkOffset byte = .error (.offsetOutside byte x.content.utf8ByteSize) :=
  checkOffset_of_outside (Or.inr (Int.ofNat_lt.mpr h))

theorem checkOffset_of_not_isBoundary {byte : Nat} (hle : ¬ x.content.utf8ByteSize < byte)
    (h : ¬ IsBoundary x.content byte) :
    x.checkOffset byte = .error (.offsetInsideCharacter byte x.content.utf8ByteSize) := by
  have hrange : ¬ ((byte : Int) < 0 ∨ (x.byteLength : Int) < byte) := by
    rintro (hnegative | hlarge)
    · omega
    · exact hle (Int.ofNat_lt.mp hlarge)
  have hcontinues : continuesAt x.bytes byte = true := by
    rw [← Bool.not_eq_false, continuesAt_bytes (Nat.not_lt.mp hle)]
    exact h
  rw [checkOffset, if_neg hrange, Int.toNat_natCast, if_pos hcontinues]
  rfl

/-- What is no boundary lies outside the text or inside one of its characters. -/
theorem checkOffset_of_not_hasOffset {offset : Int} (h : ¬ x.HasOffset offset) :
    x.checkOffset offset = .error (x.offsetFault offset) := by
  unfold offsetFault
  by_cases hrange : offset < 0 ∨ (x.content.utf8ByteSize : Int) < offset
  · rw [if_pos hrange, checkOffset_of_outside hrange]
  · obtain ⟨byte, rfl⟩ := Int.eq_ofNat_of_zero_le (a := offset) (by omega)
    have hboundary : ¬ IsBoundary x.content byte := fun hboundary => h ⟨byte, rfl, hboundary⟩
    rw [if_neg hrange]
    exact checkOffset_of_not_isBoundary (by omega) hboundary

theorem toLocation_natCast {byte : Nat} (h : IsBoundary x.content byte) :
    x.toLocation byte = .ok (x.locate byte) := by
  rw [toLocation, checkOffset_natCast h]
  rfl

/-- An offset has a location exactly if it is a boundary. -/
theorem toLocation_natCast_eq_ok_iff {byte : Nat} {l : Location} :
    x.toLocation byte = .ok l ↔ IsBoundary x.content byte ∧ l = x.locate byte := by
  constructor
  · intro h
    rw [toLocation] at h
    cases hcheck : x.checkOffset byte with
    | error fault =>
        rw [hcheck] at h
        cases h
    | ok checked =>
        rw [hcheck] at h
        cases h
        obtain ⟨hcast, hboundary⟩ := (x.checkOffset_eq_ok_iff byte checked).mp hcheck
        have : checked = byte := by omega
        subst this
        exact ⟨hboundary, rfl⟩
  · rintro ⟨h, rfl⟩
    exact toLocation_natCast h

/-- The location of a boundary counts the breaks before it, and the bytes since the last one. -/
theorem locate_eq {byte : Nat} (h : IsBoundary x.content byte) :
    (x.locate byte).line = lineAt x.content byte ∧
      (x.locate byte).column = (lineHeadAt x.content byte).utf8ByteSize + 1 := by
  obtain ⟨head, front, back, tail, cut, rfl⟩ := exists_isLineOf h
  have hlocation := toLocation_of_line cut.start cut.unbroken_front cut.text_eq_append
  rw [toLocation_natCast h] at hlocation
  rw [Except.ok.inj hlocation, cut.lineAt_eq, cut.lineHeadAt_eq]
  exact ⟨rfl, rfl⟩

theorem line_locate {byte : Nat} (h : IsBoundary x.content byte) :
    (x.locate byte).line = lineAt x.content byte := (locate_eq h).1

theorem column_locate {byte : Nat} (h : IsBoundary x.content byte) :
    (x.locate byte).column = (lineHeadAt x.content byte).utf8ByteSize + 1 := (locate_eq h).2

/-! ### Slices -/

/-- **Slices.**  A slice between two boundaries is the text between them, and no other slice is
taken; in particular its bytes are always text. -/
theorem slice_natCast_eq_ok_iff {start stop : Nat} {middle : String} :
    x.slice start stop = .ok middle ↔ between x.content start stop = some middle := by
  rw [slice, Result.bind_eq_ok_iff]
  constructor
  · rintro ⟨first, hfirst, hrest⟩
    obtain ⟨last, hlast, htext⟩ := Result.bind_eq_ok_iff.mp hrest
    obtain ⟨hcast, hstart⟩ := (x.checkOffset_eq_ok_iff _ _).mp hfirst
    obtain ⟨hcast', hstop⟩ := (x.checkOffset_eq_ok_iff _ _).mp hlast
    rw [Int.ofNat_inj] at hcast hcast'
    subst hcast hcast'
    have hbetween := between_eq_some_iff.mpr ⟨hstart, hstop, rfl⟩
    rw [textBetween_of_between hbetween] at htext
    rw [hbetween, Except.ok.inj htext]
  · intro hbetween
    obtain ⟨hstart, hstop, _⟩ := between_eq_some_iff.mp hbetween
    refine ⟨start, checkOffset_natCast hstart, Result.bind_eq_ok_iff.mpr ?_⟩
    exact ⟨stop, checkOffset_natCast hstop, textBetween_of_between hbetween⟩

theorem HasOffset.exists_slice {start stop : Int} (hstart : x.HasOffset start)
    (hstop : x.HasOffset stop) : ∃ text, x.slice start stop = .ok text := by
  obtain ⟨first, rfl, hfirst⟩ := hstart
  obtain ⟨last, rfl, hlast⟩ := hstop
  exact ⟨_, slice_natCast_eq_ok_iff.mpr (between_eq_some_iff.mpr ⟨hfirst, hlast, rfl⟩)⟩

theorem slice_of_content {before middle after : String}
    (h : x.content = before ++ middle ++ after) :
    x.slice before.utf8ByteSize (before ++ middle).utf8ByteSize = .ok middle := by
  rw [slice_natCast_eq_ok_iff, h]
  exact between_append before middle after

/-! ### Lines -/

variable {head line tail : String}

theorem startOf_of_isLineOf (cut : IsLineOf x.content head line tail) :
    x.startOf (head.toList.count lineBreak) = head.utf8ByteSize :=
  startOf_of_isLineStart cut.start (by rw [cut.text_eq, String.append_assoc])

theorem endOf_of_isLineOf (cut : IsLineOf x.content head line tail) :
    x.endOf (head.toList.count lineBreak) = (head ++ line).utf8ByteSize := by
  have hcount : (head ++ line).toList.count lineBreak = head.toList.count lineBreak :=
    count_lineBreak_append cut.unbroken
  rcases cut.stop with rfl | ⟨after, rfl⟩
  · have htext : x.content = head ++ line := by
      rw [cut.text_eq, String.append_empty]
    have hlast := endOf_last x
    rw [htext, hcount] at hlast
    rw [hlast, byteLength, htext]
  · have htext : x.content = head ++ line ++ String.singleton lineBreak ++ after := by
      rw [cut.text_eq]
      simp only [String.append_assoc]
    rw [← hcount]
    exact endOf_of_content htext

theorem checkLine_of_isLineOf (cut : IsLineOf x.content head line tail) :
    x.checkLine ((head.toList.count lineBreak + 1 : Nat) : Int) =
      .ok (head.toList.count lineBreak) := by
  refine (x.checkLine_eq_ok_iff _ _).mpr ⟨by omega, ?_⟩
  rw [lineCount_eq, cut.text_eq, String.toList_append, String.toList_append, List.count_append,
    List.count_append]
  omega

theorem lineStart_of_isLineOf (cut : IsLineOf x.content head line tail) :
    x.lineStart ((head.toList.count lineBreak + 1 : Nat) : Int) = .ok head.utf8ByteSize := by
  rw [lineStart, checkLine_of_isLineOf cut]
  exact congrArg Except.ok (startOf_of_isLineOf cut)

theorem lineText_of_isLineOf (cut : IsLineOf x.content head line tail) :
    x.lineText ((head.toList.count lineBreak + 1 : Nat) : Int) = .ok line := by
  have hbetween := between_append head line tail
  rw [← cut.text_eq] at hbetween
  rw [lineText, Result.bind_eq_ok_iff]
  refine ⟨_, checkLine_of_isLineOf cut, ?_⟩
  rw [startOf_of_isLineOf cut, endOf_of_isLineOf cut, textBetween_of_between hbetween]

/-- **Lines.**  The line that a boundary lies on is found under its number, and it is the one that
splitting the text at its breaks gives. -/
theorem lineText_lineAt {byte : Nat} (h : IsBoundary x.content byte) :
    ∃ line, x.lineText (lineAt x.content byte) = .ok line ∧
      (linesOf x.content)[lineAt x.content byte - 1]? = some line := by
  obtain ⟨head, front, back, tail, cut, rfl⟩ := exists_isLineOf h
  refine ⟨front ++ back, ?_, ?_⟩
  · rw [cut.lineAt_eq]
    exact lineText_of_isLineOf cut
  · rw [cut.lineAt_eq, Nat.add_sub_cancel]
    exact cut.getElem?_linesOf

/-- From the start of its line to a boundary lies the head of the line. -/
theorem slice_lineStart {byte : Nat} (h : IsBoundary x.content byte) :
    ∃ start : Nat, x.lineStart (lineAt x.content byte) = .ok start ∧
      x.slice start byte = .ok (lineHeadAt x.content byte) := by
  obtain ⟨head, front, back, tail, cut, rfl⟩ := exists_isLineOf h
  refine ⟨head.utf8ByteSize, ?_, ?_⟩
  · rw [cut.lineAt_eq]
    exact lineStart_of_isLineOf cut
  · rw [cut.lineHeadAt_eq]
    exact slice_of_content cut.text_eq_append

/-- Between two boundaries on one line lies a part of that line, behind the head of the first. -/
theorem slice_of_lineAt_eq {start stop : Nat} (hstart : IsBoundary x.content start)
    (hstop : IsBoundary x.content stop) (hle : start ≤ stop)
    (hline : lineAt x.content start = lineAt x.content stop) :
    ∃ middle back, x.slice start stop = .ok middle ∧
      x.lineText (lineAt x.content start) = .ok (lineHeadAt x.content start ++ middle ++ back) := by
  obtain ⟨head, front, middle, back, tail, cut, rfl, rfl⟩ :=
    exists_isLineOf_between hstart hstop hle hline
  have hfirst := cut.append_assoc
  refine ⟨middle, back, ?_, ?_⟩
  · have htext : x.content = head ++ front ++ middle ++ (back ++ tail) := by
      rw [cut.text_eq]
      simp only [String.append_assoc]
    have hslice := slice_of_content htext
    rwa [String.append_assoc] at hslice
  · rw [hfirst.lineAt_eq, hfirst.lineHeadAt_eq]
    exact lineText_of_isLineOf cut

end SourceDiagnostics.LineIndex
