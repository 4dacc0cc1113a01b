/-!
# Locations in a text

A location is a line number and a byte column, both counted from one, ordered by line and then by
column.  Both bounds are part of the type, so no later step has to check them again.
-/

namespace SourceDiagnostics

/-- Why two numbers are no location. -/
inductive LocationFault
  | lineBelowOne (line : Int)
  | columnBelowOne (column : Int)
deriving DecidableEq, Repr

def LocationFault.message : LocationFault → String
  | lineBelowOne line => "Location.line must be >= 1 (1-indexed), got " ++ toString line
  | columnBelowOne column => "Location.column must be >= 1 (1-indexed), got " ++ toString column

/-- A line and a byte column within it, both counted from one. -/
structure Location where
  line : Nat
  column : Nat
  one_le_line : 1 ≤ line := by omega
  one_le_column : 1 ≤ column := by omega
deriving DecidableEq, Repr

namespace Location

/-- The location with the given line and column; a bad line is reported before a bad column. -/
def of? (line column : Int) : Except LocationFault Location :=
  if _ : line < 1 then .error (.lineBelowOne line)
  else if _ : column < 1 then .error (.columnBelowOne column)
  else .ok { line := line.toNat, column := column.toNat }

/-- Line and column as messages show them. -/
def describe (l : Location) : String := toString l.line ++ ":" ++ toString l.column

/-- Line and column as an expression that would build them. -/
def expression (l : Location) : String :=
  "Location(line=" ++ toString l.line ++ ", column=" ++ toString l.column ++ ")"

instance : LT Location where
  lt a b := a.line < b.line ∨ a.line = b.line ∧ a.column < b.column

instance : LE Location where
  le a b := a.line < b.line ∨ a.line = b.line ∧ a.column ≤ b.column

instance (a b : Location) : Decidable (a < b) :=
  inferInstanceAs (Decidable (_ ∨ _))

instance (a b : Location) : Decidable (a ≤ b) :=
  inferInstanceAs (Decidable (_ ∨ _))

/-! ### The order of locations -/

theorem lt_iff {a b : Location} :
    a < b ↔ a.line < b.line ∨ a.line = b.line ∧ a.column < b.column := Iff.rfl

theorem le_iff {a b : Location} :
    a ≤ b ↔ a.line < b.line ∨ a.line = b.line ∧ a.column ≤ b.column := Iff.rfl

theorem ext {a b : Location} (line : a.line = b.line) (column : a.column = b.column) : a = b := by
  cases a
  cases b
  cases line
  cases column
  rfl

/-- The order is linear: of two locations exactly one lies before the other, or they agree. -/
theorem lt_iff_not_le {a b : Location} : a < b ↔ ¬ b ≤ a := by
  rw [lt_iff, le_iff]
  omega

theorem le_iff_lt_or_eq {a b : Location} : a ≤ b ↔ a < b ∨ a = b := by
  rw [lt_iff, le_iff]
  constructor
  · rintro (h | ⟨hline, hcolumn⟩)
    · exact Or.inl (Or.inl h)
    · rcases Nat.lt_or_eq_of_le hcolumn with h | h
      · exact Or.inl (Or.inr ⟨hline, h⟩)
      · exact Or.inr (ext hline h)
  · rintro (h | rfl)
    · exact h.imp id fun ⟨hline, hcolumn⟩ => ⟨hline, Nat.le_of_lt hcolumn⟩
    · exact Or.inr ⟨rfl, Nat.le_refl _⟩

/-- A location is made of exactly the numbers from one on. -/
theorem of?_eq_ok_iff (line column : Int) (l : Location) :
    of? line column = .ok l ↔ (l.line : Int) = line ∧ (l.column : Int) = column := by
  unfold of?
  constructor
  · intro h
    split at h
    · cases h
    · split at h
      · cases h
      · cases h
        constructor <;> simp <;> omega
  · rintro ⟨rfl, rfl⟩
    have hline := l.one_le_line
    have hcolumn := l.one_le_column
    rw [dif_neg (by omega), dif_neg (by omega)]
    rfl

end Location

end SourceDiagnostics
