import SourceDiagnostics.Proofs.Source.Positions

/-!
# Slices

A slice is cut out of the bytes of a text and decoded afterwards, so two things have to be shown of
it: that the bytes between two accepted offsets are text, and that it is the text that stands there.
Both rest on the accepted offsets being the boundaries, which cut characters from each other and
never a character.  Slices then behave as pieces of the text do, `slice_outcome`: they join where
they meet, they are as long as their offsets are apart, and all of the text is one of them.

An offset that is no boundary has no slice.  It is refused before anything is cut, and the start is
looked at first.
-/

namespace SourceDiagnostics.LineIndex

open Text

variable {x : LineIndex}

/-! ### Slices between boundaries -/

theorem utf8ByteSize_of_slice {start stop : Nat} {text : String}
    (h : x.slice start stop = .ok text) : text.utf8ByteSize = stop - start :=
  utf8ByteSize_of_between (slice_natCast_eq_ok_iff.mp h)

/-- Slices that meet at a boundary are together the slice between the outer two. -/
theorem exists_slice_append {first middle last : Int} (hfirst : x.HasOffset first)
    (hmiddle : x.HasOffset middle) (hlast : x.HasOffset last) (hle : first ≤ middle)
    (hle' : middle ≤ last) :
    ∃ left right, x.slice first middle = .ok left ∧ x.slice middle last = .ok right ∧
      x.slice first last = .ok (left ++ right) := by
  obtain ⟨a, rfl, ha⟩ := hfirst
  obtain ⟨b, rfl, hb⟩ := hmiddle
  obtain ⟨c, rfl, hc⟩ := hlast
  obtain ⟨left, right, hleft, hright, hboth⟩ :=
    exists_between_append ha hb hc (Int.ofNat_le.mp hle) (Int.ofNat_le.mp hle')
  exact ⟨left, right, slice_natCast_eq_ok_iff.mpr hleft, slice_natCast_eq_ok_iff.mpr hright,
    slice_natCast_eq_ok_iff.mpr hboth⟩

theorem slice_byteLength (x : LineIndex) : x.slice 0 x.byteLength = .ok x.content := by
  have htext : x.content = "" ++ x.content ++ "" := by
    rw [String.empty_append, String.append_empty]
  have hslice := slice_of_content htext
  rwa [String.empty_append, String.utf8ByteSize_empty] at hslice

/-- A slice has as many bytes as its offsets are apart, and none in the wrong order. -/
theorem HasOffset.exists_slice_of_size {start stop : Int} (hstart : x.HasOffset start)
    (hstop : x.HasOffset stop) :
    ∃ text, x.slice start stop = .ok text ∧
      (start ≤ stop → (text.utf8ByteSize : Int) = stop - start) ∧
      (stop < start → text = "") := by
  obtain ⟨text, htext⟩ := hstart.exists_slice hstop
  obtain ⟨first, rfl, _⟩ := hstart
  obtain ⟨last, rfl, _⟩ := hstop
  have hsize := utf8ByteSize_of_slice htext
  refine ⟨text, htext, fun hle => by omega, fun hlt => ?_⟩
  apply String.utf8ByteSize_eq_zero_iff.mp
  omega

/-! ### Offsets that have no slice -/

theorem slice_of_not_hasOffset {start stop : Int} (h : ¬ x.HasOffset start) :
    x.slice start stop = .error (x.offsetFault start) := by
  rw [slice, checkOffset_of_not_hasOffset h]
  rfl

theorem HasOffset.slice_of_not_hasOffset {start stop : Int} (hstart : x.HasOffset start)
    (h : ¬ x.HasOffset stop) : x.slice start stop = .error (x.offsetFault stop) := by
  obtain ⟨first, rfl, hfirst⟩ := hstart
  rw [slice, checkOffset_natCast hfirst, checkOffset_of_not_hasOffset h]
  rfl

/-- **Refusals.**  There is no slice exactly if one of the offsets is no boundary, and the fault is
that of the first one that is none. -/
theorem slice_eq_error_iff {start stop : Int} {fault : LookupFault} :
    x.slice start stop = .error fault ↔
      (¬ x.HasOffset start ∧ fault = x.offsetFault start) ∨
        (x.HasOffset start ∧ ¬ x.HasOffset stop ∧ fault = x.offsetFault stop) := by
  constructor
  · intro h
    by_cases hstart : x.HasOffset start
    · by_cases hstop : x.HasOffset stop
      · obtain ⟨text, htext⟩ := hstart.exists_slice hstop
        rw [htext] at h
        cases h
      · rw [hstart.slice_of_not_hasOffset hstop] at h
        exact Or.inr ⟨hstart, hstop, (Except.error.inj h).symm⟩
    · rw [slice_of_not_hasOffset hstart] at h
      exact Or.inl ⟨hstart, (Except.error.inj h).symm⟩
  · rintro (⟨hstart, rfl⟩ | ⟨hstart, hstop, rfl⟩)
    · exact slice_of_not_hasOffset hstart
    · exact hstart.slice_of_not_hasOffset hstop

theorem offsetFault_ne_notText (offset : Int) (start stop : Nat) :
    x.offsetFault offset ≠ .notText start stop := by
  unfold offsetFault
  split
  · intro h
    cases h
  · intro h
    cases h

/-- What is cut out is always text. -/
theorem slice_ne_notText (start stop : Int) (first last : Nat) :
    x.slice start stop ≠ .error (.notText first last) := by
  intro h
  rcases slice_eq_error_iff.mp h with ⟨_, hfault⟩ | ⟨_, _, hfault⟩
  · exact offsetFault_ne_notText start first last hfault.symm
  · exact offsetFault_ne_notText stop first last hfault.symm

/-- **Slices.**  Slices between boundaries in order join to one slice, the slice from end to end is
the text, and each has as many bytes as its offsets are apart, or none if these are in the wrong
order.  What is cut out is always text.  A slice is refused exactly if one of its offsets is no
boundary, for the start if that is none and for the stop otherwise. -/
theorem slice_outcome (content : String) :
    (∀ first middle last : Int, (ofContent content).HasOffset first →
      (ofContent content).HasOffset middle → (ofContent content).HasOffset last →
      first ≤ middle → middle ≤ last →
      ∃ left right, (ofContent content).slice first middle = .ok left ∧
        (ofContent content).slice middle last = .ok right ∧
        (ofContent content).slice first last = .ok (left ++ right)) ∧
    (ofContent content).slice 0 (ofContent content).byteLength = .ok content ∧
    (∀ start stop : Int, (ofContent content).HasOffset start →
      (ofContent content).HasOffset stop →
      ∃ text, (ofContent content).slice start stop = .ok text ∧
        (start ≤ stop → (text.utf8ByteSize : Int) = stop - start) ∧
        (stop < start → text = "")) ∧
    (∀ (start stop : Int) (first last : Nat),
      (ofContent content).slice start stop ≠ .error (.notText first last)) ∧
    ∀ (start stop : Int) (fault : LookupFault),
      (ofContent content).slice start stop = .error fault ↔
        (¬ (ofContent content).HasOffset start ∧ fault = (ofContent content).offsetFault start) ∨
          ((ofContent content).HasOffset start ∧ ¬ (ofContent content).HasOffset stop ∧
            fault = (ofContent content).offsetFault stop) := by
  refine ⟨?_, slice_byteLength (ofContent content), ?_, ?_, ?_⟩
  · intro first middle last hfirst hmiddle hlast hle hle'
    exact exists_slice_append hfirst hmiddle hlast hle hle'
  · intro start stop hstart hstop
    exact hstart.exists_slice_of_size hstop
  · intro start stop first last
    exact slice_ne_notText start stop first last
  · intro start stop fault
    exact slice_eq_error_iff

/-- In a text of two characters with three bytes both characters join, and offsets that are no
boundaries are refused, the start before the stop. -/
theorem slice_outcome_accented :
    (∃ left right, (ofContent "aé").slice 0 1 = .ok left ∧ (ofContent "aé").slice 1 3 = .ok right ∧
      left ++ right = "aé") ∧
    (∃ text, (ofContent "aé").slice 1 3 = .ok text ∧ (text.utf8ByteSize : Int) = 3 - 1) ∧
    (ofContent "aé").slice 3 1 = .ok "" ∧
    (ofContent "aé").slice 2 4 = .error (.offsetInsideCharacter 2 3) ∧
    (ofContent "aé").slice 1 4 = .error (.offsetOutside 4 3) := by
  obtain ⟨hjoin, hwhole, hsize, _, hrefused⟩ := slice_outcome "aé"
  have hfirst : (ofContent "aé").HasOffset 0 := by decide
  have hmiddle : (ofContent "aé").HasOffset 1 := by decide
  have hlast : (ofContent "aé").HasOffset 3 := by decide
  refine ⟨?_, ?_, ?_, ?_, ?_⟩
  · obtain ⟨left, right, hleft, hright, hboth⟩ :=
      hjoin 0 1 3 hfirst hmiddle hlast (by decide) (by decide)
    exact ⟨left, right, hleft, hright, Except.ok.inj (hboth.symm.trans hwhole)⟩
  · obtain ⟨text, htext, hlength, _⟩ := hsize 1 3 hmiddle hlast
    exact ⟨text, htext, hlength (by decide)⟩
  · obtain ⟨text, htext, _, hempty⟩ := hsize 3 1 hlast hmiddle
    rw [htext, hempty (by decide)]
  · exact (hrefused 2 4 _).mpr (Or.inl ⟨by decide, rfl⟩)
  · exact (hrefused 1 4 _).mpr (Or.inr ⟨hmiddle, by decide, rfl⟩)

end SourceDiagnostics.LineIndex
