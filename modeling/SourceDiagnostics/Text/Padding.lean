/-!
# Runs, alignment and zero padding

Everything a rendered row puts next to text: runs of one character, numbers aligned to the right
edge of a column and numerals filled with zeros.  Padding never truncates: text wider than its
column is kept whole.

A run is described by its character list, so that a proof about a row can count characters
without opening a string.
-/

namespace SourceDiagnostics.Text

def run (c : Char) (n : Nat) : String := String.ofList (List.replicate n c)

def spaces (n : Nat) : String := run ' ' n

/-- Text moved to the right edge of a column of `width` characters. -/
def alignRight (width : Nat) (text : String) : String := spaces (width - text.length) ++ text

/-- A numeral of at least `width` characters, filled with zeros after its sign.  The sign takes
one of the `width` characters. -/
def zeroPadded (width : Nat) (n : Int) : String :=
  let digits := Nat.repr n.natAbs
  if n < 0 then "-" ++ run '0' (width - 1 - digits.length) ++ digits
  else run '0' (width - digits.length) ++ digits

/-! ### Characters of a run -/

@[simp] theorem toList_run (c : Char) (n : Nat) : (run c n).toList = List.replicate n c := by
  simp [run]

@[simp] theorem toList_spaces (n : Nat) : (spaces n).toList = List.replicate n ' ' := by
  simp [spaces]

@[simp] theorem length_run (c : Char) (n : Nat) : (run c n).length = n := by
  rw [← String.length_toList, toList_run, List.length_replicate]

@[simp] theorem length_spaces (n : Nat) : (spaces n).length = n := length_run ' ' n

theorem run_append (c : Char) (m n : Nat) : run c m ++ run c n = run c (m + n) := by
  apply String.toList_inj.mp
  simp [List.replicate_append_replicate]

/-! ### Width of aligned text -/

/-- Aligned text fills its column, or is as wide as the text if that is wider. -/
theorem length_alignRight (width : Nat) (text : String) :
    (alignRight width text).length = max width text.length := by
  simp only [alignRight, String.length_append, length_spaces]
  omega

theorem alignRight_add (extra width : Nat) (text : String) (h : text.length ≤ width) :
    alignRight (extra + width) text = spaces extra ++ alignRight width text := by
  have : extra + width - text.length = extra + (width - text.length) := by omega
  simp only [alignRight, spaces, this, ← String.append_assoc, run_append]

theorem zeroPadded_natCast (width n : Nat) :
    zeroPadded width n = run '0' (width - (Nat.repr n).length) ++ Nat.repr n := by
  have : ¬ ((n : Int) < 0) := by omega
  simp [zeroPadded, this]

end SourceDiagnostics.Text
