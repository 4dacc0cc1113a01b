/-!
# Byte offsets into text

Parsers report positions as byte offsets into UTF-8 text.  An offset can be used only if it lies
on a character boundary, and the boundaries of a text are exactly the byte sizes of its prefixes:
`isBoundary_iff`.  Two boundaries cut a piece out of it: `between_append` says which, and pieces
that meet are one piece, `exists_between_append`.
-/

namespace SourceDiagnostics.Text

/-- Whether a byte offset lies on a character boundary of the text, its end included. -/
def IsBoundary (text : String) (byte : Nat) : Prop := String.Pos.Raw.IsValid text ⟨byte⟩

instance (text : String) (byte : Nat) : Decidable (IsBoundary text byte) :=
  inferInstanceAs (Decidable (String.Pos.Raw.IsValid text ⟨byte⟩))

/-- The text between two byte offsets, or nothing if one of them is inside a character or past
the end.  It is empty if the second offset does not lie after the first. -/
def between (text : String) (start stop : Nat) : Option String :=
  if hstart : IsBoundary text start then
    if hstop : IsBoundary text stop then
      some (String.extract (s := text) ⟨⟨start⟩, hstart⟩ ⟨⟨stop⟩, hstop⟩)
    else none
  else none

/-! ### Boundaries are prefix sizes -/

/-- **Boundaries.**  An offset is a boundary exactly when it is the byte size of a prefix. -/
theorem isBoundary_iff {text : String} {byte : Nat} :
    IsBoundary text byte ↔ ∃ before after, text = before ++ after ∧ byte = before.utf8ByteSize := by
  unfold IsBoundary
  rw [String.Pos.Raw.isValid_iff_exists_append]
  constructor
  · rintro ⟨before, after, heq, hpos⟩
    exact ⟨before, after, heq, congrArg String.Pos.Raw.byteIdx hpos⟩
  · rintro ⟨before, after, heq, rfl⟩
    exact ⟨before, after, heq, rfl⟩

theorem isBoundary_zero (text : String) : IsBoundary text 0 :=
  isBoundary_iff.mpr ⟨"", text, by simp, by simp⟩

theorem isBoundary_utf8ByteSize (text : String) : IsBoundary text text.utf8ByteSize :=
  isBoundary_iff.mpr ⟨text, "", by simp, rfl⟩

theorem isBoundary_append (before after : String) :
    IsBoundary (before ++ after) before.utf8ByteSize :=
  isBoundary_iff.mpr ⟨before, after, rfl, rfl⟩

/-- A boundary of two texts together is one of the first, or one of the second behind it. -/
theorem isBoundary_append_iff {before after : String} {byte : Nat} :
    IsBoundary (before ++ after) byte ↔ IsBoundary before byte ∨
      before.utf8ByteSize ≤ byte ∧ IsBoundary after (byte - before.utf8ByteSize) :=
  String.Pos.Raw.isValid_append

theorem IsBoundary.le {text : String} {byte : Nat} (h : IsBoundary text byte) :
    byte ≤ text.utf8ByteSize := by
  obtain ⟨before, after, rfl, rfl⟩ := isBoundary_iff.mp h
  simp

/-- A boundary of two texts together that lies in the first is one of the first. -/
theorem IsBoundary.of_append {before after : String} {byte : Nat}
    (h : IsBoundary (before ++ after) byte) (hle : byte ≤ before.utf8ByteSize) :
    IsBoundary before byte := by
  rcases isBoundary_append_iff.mp h with hbefore | ⟨hge, _⟩
  · exact hbefore
  · rw [Nat.le_antisymm hle hge]
    exact isBoundary_utf8ByteSize before

theorem isBoundary_append_right {before after : String} {byte : Nat} :
    IsBoundary (before ++ after) (before.utf8ByteSize + byte) ↔ IsBoundary after byte := by
  rw [isBoundary_append_iff, Nat.add_sub_cancel_left]
  constructor
  · rintro (hbefore | ⟨_, hafter⟩)
    · -- behind the first text only its end is left
      have hzero : byte = 0 := by
        have hle := hbefore.le
        omega
      rw [hzero]
      exact isBoundary_zero after
    · exact hafter
  · intro hafter
    exact Or.inr ⟨Nat.le_add_right .., hafter⟩

/-- Two boundaries in order cut the text into three pieces. -/
theorem IsBoundary.exists_append {text : String} {start stop : Nat}
    (hstart : IsBoundary text start) (hstop : IsBoundary text stop) (hle : start ≤ stop) :
    ∃ before middle after, text = before ++ middle ++ after ∧
      start = before.utf8ByteSize ∧ stop = (before ++ middle).utf8ByteSize := by
  obtain ⟨upto, after, rfl, rfl⟩ := isBoundary_iff.mp hstop
  obtain ⟨before, middle, rfl, rfl⟩ := isBoundary_iff.mp (hstart.of_append hle)
  exact ⟨before, middle, after, rfl, rfl, rfl⟩

/-! ### What two boundaries cut out -/

theorem between_eq_some_iff {text middle : String} {start stop : Nat} :
    between text start stop = some middle ↔
      ∃ (hstart : IsBoundary text start) (hstop : IsBoundary text stop),
        String.extract (s := text) ⟨⟨start⟩, hstart⟩ ⟨⟨stop⟩, hstop⟩ = middle := by
  unfold between
  by_cases hstart : IsBoundary text start
  · by_cases hstop : IsBoundary text stop
    · simp [hstart, hstop]
    · simp [hstart, hstop]
  · simp [hstart]

private theorem extract_append_middle (before middle after : ByteArray) :
    (before ++ middle ++ after).extract before.size (before ++ middle).size = middle := by
  have hbefore : before.extract before.size (before.size + middle.size) = ByteArray.empty := by
    rw [ByteArray.extract_eq_empty_iff]
    omega
  simp [ByteArray.extract_append, hbefore]

/-- **Slicing.**  Two prefixes of a text cut out what the longer one adds to the shorter. -/
theorem between_append (before middle after : String) :
    between (before ++ middle ++ after) before.utf8ByteSize (before ++ middle).utf8ByteSize =
      some middle := by
  have hstart : IsBoundary (before ++ middle ++ after) before.utf8ByteSize := by
    rw [String.append_assoc]
    exact isBoundary_append before (middle ++ after)
  have hstop := isBoundary_append (before ++ middle) after
  simp only [between, hstart, hstop, dite_true, Option.some.injEq]
  apply String.toByteArray_inj.mp
  rw [String.toByteArray_extract]
  simpa using
    extract_append_middle before.toByteArray middle.toByteArray after.toByteArray

/-- Two boundaries in the wrong order cut out nothing. -/
theorem between_eq_empty {text : String} {start stop : Nat} (hstart : IsBoundary text start)
    (hstop : IsBoundary text stop) (h : stop ≤ start) : between text start stop = some "" := by
  simp only [between, hstart, hstop, dite_true, Option.some.injEq]
  apply String.toByteArray_inj.mp
  rw [String.toByteArray_extract]
  simp [ByteArray.extract_eq_empty_iff]
  omega

/-- A piece has the bytes from its start to its stop, none if these are in the wrong order. -/
theorem utf8ByteSize_of_between {text middle : String} {start stop : Nat}
    (h : between text start stop = some middle) : middle.utf8ByteSize = stop - start := by
  obtain ⟨hstart, hstop, _⟩ := between_eq_some_iff.mp h
  rcases Nat.le_total start stop with hle | hle
  · obtain ⟨before, piece, after, rfl, rfl, rfl⟩ := hstart.exists_append hstop hle
    rw [between_append] at h
    rw [← Option.some.inj h, String.utf8ByteSize_append, Nat.add_sub_cancel_left]
  · rw [between_eq_empty hstart hstop hle] at h
    rw [← Option.some.inj h, Nat.sub_eq_zero_of_le hle, String.utf8ByteSize_empty]

/-- **Joining.**  Two pieces that meet at a boundary are together the piece between the outer
two. -/
theorem exists_between_append {text : String} {first middle last : Nat}
    (hfirst : IsBoundary text first) (hmiddle : IsBoundary text middle)
    (hlast : IsBoundary text last) (hle : first ≤ middle) (hle' : middle ≤ last) :
    ∃ left right, between text first middle = some left ∧
      between text middle last = some right ∧ between text first last = some (left ++ right) := by
  obtain ⟨upto, right, after, rfl, rfl, rfl⟩ := hmiddle.exists_append hlast hle'
  rw [String.append_assoc] at hfirst
  obtain ⟨before, left, rfl, rfl⟩ := isBoundary_iff.mp (hfirst.of_append hle)
  refine ⟨left, right, ?_, between_append (before ++ left) right after, ?_⟩
  · have hleft := between_append before left (right ++ after)
    rwa [← String.append_assoc] at hleft
  · have hboth := between_append before (left ++ right) after
    rwa [← String.append_assoc] at hboth

end SourceDiagnostics.Text
