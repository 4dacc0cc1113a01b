/-!
# Ranges of code points

Properties of characters come as tables of code points, written as inclusive ranges in ascending
order.  Looking a code point up goes through the ranges from the lowest and stops at the first one
above it; `covers_iff` says that nothing is missed.
-/

namespace SourceDiagnostics.Text

/-- Whether one of the ranges, given in ascending order, contains a code point.  The search stops
at the first range that starts above it. -/
def covers (code : Nat) : List (Nat × Nat) → Bool
  | [] => false
  | (first, last) :: rest =>
      if code < first then false else if code ≤ last then true else covers code rest

/-- Whether every range is nonempty and starts above the one before it, the first at `bound` or
later. -/
def ascendingFrom (bound : Nat) : List (Nat × Nat) → Bool
  | [] => true
  | (first, last) :: rest => bound ≤ first && first ≤ last && ascendingFrom (last + 1) rest

/-- Every range of an ascending table starts at the bound or later. -/
theorem le_first_of_ascendingFrom {bound : Nat} {ranges : List (Nat × Nat)}
    (ascending : ascendingFrom bound ranges = true) : ∀ r ∈ ranges, bound ≤ r.1 := by
  induction ranges generalizing bound with
  | nil => simp
  | cons range rest ih =>
      obtain ⟨first, last⟩ := range
      simp only [ascendingFrom, Bool.and_eq_true, decide_eq_true_eq] at ascending
      obtain ⟨⟨hbound, hrange⟩, hrest⟩ := ascending
      intro r hr
      rcases List.mem_cons.mp hr with rfl | hr
      · exact hbound
      · have := ih hrest r hr
        omega

/-- **The early stop loses nothing.**  In an ascending table the search finds a code point exactly
when some range contains it. -/
theorem covers_iff {bound : Nat} {ranges : List (Nat × Nat)}
    (ascending : ascendingFrom bound ranges = true) (code : Nat) :
    covers code ranges = true ↔ ∃ r ∈ ranges, r.1 ≤ code ∧ code ≤ r.2 := by
  induction ranges generalizing bound with
  | nil => simp [covers]
  | cons range rest ih =>
      obtain ⟨first, last⟩ := range
      have hhead := le_first_of_ascendingFrom ascending
      simp only [ascendingFrom, Bool.and_eq_true, decide_eq_true_eq] at ascending
      obtain ⟨⟨_, hrange⟩, hrest⟩ := ascending
      have htail := le_first_of_ascendingFrom hrest
      simp only [covers, List.mem_cons, or_and_right, exists_or, exists_eq_left]
      split
      · rename_i hlt
        simp only [Bool.false_eq_true, false_iff, not_or, not_exists, not_and]
        constructor
        · intro hge
          omega
        · intro r hr hge
          have := htail r hr
          omega
      · split
        · rename_i hge hle
          simp only [true_iff]
          exact Or.inl ⟨Nat.le_of_not_lt hge, hle⟩
        · rename_i hge hgt
          rw [ih hrest]
          constructor
          · exact Or.inr
          · rintro (⟨_, hle⟩ | h)
            · exact absurd hle hgt
            · exact h

end SourceDiagnostics.Text
