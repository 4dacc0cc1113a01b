/-!
# Lower bound in a sorted table

A line index looks an offset up in the table of its line breaks.  The table is strictly
increasing, so the number of breaks before an offset is found by halving an interval, and that
number is all a lookup needs.  An entry equal to the key is not counted: this is the tie rule that
puts a line break at the end of the line it terminates.

The two order lemmas say where the result lies; `lowerBound_eq_countP` says what it counts.
-/

namespace SourceDiagnostics.Search

/-- The first index in `[lo, hi)` whose entry is at least `key`, or `hi` if there is none. -/
def lowerBoundIn (table : Array Nat) (key lo hi : Nat) (h : hi ≤ table.size) : Nat :=
  if _ : lo < hi then
    if table[(lo + hi) / 2] < key then
      lowerBoundIn table key ((lo + hi) / 2 + 1) hi h
    else
      lowerBoundIn table key lo ((lo + hi) / 2) (by omega)
  else lo
termination_by hi - lo

/-- The number of entries of a sorted table that lie strictly below `key`. -/
def lowerBound (table : Array Nat) (key : Nat) : Nat :=
  lowerBoundIn table key 0 table.size (Nat.le_refl _)

/-! ### Where the result lies -/

private theorem lowerBoundIn_bounds (table : Array Nat) (key : Nat)
    (sorted : ∀ (i j : Nat) (hi : i < table.size) (hj : j < table.size),
      i < j → table[i] < table[j]) (lo hi : Nat) (h : hi ≤ table.size)
    (le : lo ≤ hi)
    (below : ∀ (i : Nat) (hs : i < table.size), i < lo → table[i] < key)
    (above : ∀ (i : Nat) (hs : i < table.size), hi ≤ i → key ≤ table[i]) :
    lowerBoundIn table key lo hi h ≤ table.size ∧
    (∀ (i : Nat) (hs : i < table.size),
      i < lowerBoundIn table key lo hi h → table[i] < key) ∧
    (∀ (i : Nat) (hs : i < table.size),
      lowerBoundIn table key lo hi h ≤ i → key ≤ table[i]) := by
  fun_induction lowerBoundIn table key lo hi h with
  | case1 lo hi h hlt hkey ih =>
      refine ih (by omega) ?_ above
      intro i hs hi'
      rcases Nat.lt_or_ge i ((lo + hi) / 2) with hlow | hhigh
      · exact Nat.lt_trans (sorted i _ hs (by omega) hlow) hkey
      · have : i = (lo + hi) / 2 := by omega
        subst this
        exact hkey
  | case2 lo hi h hlt hkey ih =>
      refine ih (by omega) below ?_
      intro i hs hi'
      rcases Nat.lt_or_ge ((lo + hi) / 2) i with hlow | hhigh
      · have := sorted _ i (by omega) hs hlow
        omega
      · have : i = (lo + hi) / 2 := by omega
        subst this
        omega
  | case3 lo hi h hlt =>
      have : lo = hi := by omega
      subst this
      exact ⟨h, below, above⟩

private theorem getElem_lt_of_pairwise {table : Array Nat}
    (sorted : table.toList.Pairwise (· < ·)) (i j : Nat)
    (hi : i < table.size) (hj : j < table.size) (h : i < j) : table[i] < table[j] := by
  have := List.pairwise_iff_getElem.mp sorted i j (by simpa using hi) (by simpa using hj) h
  simpa using this

/-- The result is a position of the table or its end. -/
theorem lowerBound_le_size {table : Array Nat} (sorted : table.toList.Pairwise (· < ·))
    (key : Nat) : lowerBound table key ≤ table.size :=
  (lowerBoundIn_bounds table key (getElem_lt_of_pairwise sorted) 0 table.size (Nat.le_refl _)
    (Nat.zero_le _) (by omega) (by omega)).1

/-- Every entry before the result is below the key. -/
theorem getElem_lt_of_lt_lowerBound {table : Array Nat}
    (sorted : table.toList.Pairwise (· < ·)) (key : Nat) {i : Nat} (hs : i < table.size)
    (h : i < lowerBound table key) : table[i] < key :=
  (lowerBoundIn_bounds table key (getElem_lt_of_pairwise sorted) 0 table.size (Nat.le_refl _)
    (Nat.zero_le _) (by omega) (by omega)).2.1 i hs h

/-- No entry from the result on is below the key. -/
theorem le_getElem_of_lowerBound_le {table : Array Nat}
    (sorted : table.toList.Pairwise (· < ·)) (key : Nat) {i : Nat} (hs : i < table.size)
    (h : lowerBound table key ≤ i) : key ≤ table[i] :=
  (lowerBoundIn_bounds table key (getElem_lt_of_pairwise sorted) 0 table.size (Nat.le_refl _)
    (Nat.zero_le _) (by omega) (by omega)).2.2 i hs h

/-! ### What the result counts -/

private theorem countP_eq_of_cut (xs : List Nat) (p : Nat → Bool) (n : Nat)
    (hn : n ≤ xs.length) (before : ∀ (i : Nat) (h : i < xs.length), i < n → p xs[i] = true)
    (after : ∀ (i : Nat) (h : i < xs.length), n ≤ i → p xs[i] = false) :
    xs.countP p = n := by
  rw [← List.take_append_drop n xs, List.countP_append]
  have htake : (xs.take n).countP p = n := by
    rw [List.countP_eq_length.mpr, List.length_take]
    · omega
    · intro a ha
      obtain ⟨i, hi, rfl⟩ := List.getElem_of_mem ha
      rw [List.length_take] at hi
      rw [List.getElem_take]
      exact before i (by omega) (by omega)
  have hdrop : (xs.drop n).countP p = 0 := by
    rw [List.countP_eq_zero]
    intro a ha
    obtain ⟨i, hi, rfl⟩ := List.getElem_of_mem ha
    rw [List.length_drop] at hi
    rw [List.getElem_drop, after (n + i) (by omega) (by omega)]
    simp
  omega

/-- **The lower bound counts.**  In a strictly increasing table it is the number of entries
strictly below the key. -/
theorem lowerBound_eq_countP {table : Array Nat} (sorted : table.toList.Pairwise (· < ·))
    (key : Nat) : lowerBound table key = table.toList.countP (fun entry => decide (entry < key)) := by
  refine (countP_eq_of_cut table.toList _ _ (lowerBound_le_size sorted key) ?_ ?_).symm
  · intro i h hlt
    have := getElem_lt_of_lt_lowerBound sorted key (by simpa using h) hlt
    simpa using this
  · intro i h hle
    have := le_getElem_of_lowerBound_le sorted key (by simpa using h) hle
    simpa using this

end SourceDiagnostics.Search
