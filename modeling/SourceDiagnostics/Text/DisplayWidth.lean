import SourceDiagnostics.Text.UnassignedTable
import SourceDiagnostics.Text.WidthTable

/-!
# Columns that text takes on a terminal

Underlines have to line up with what a terminal shows, which is neither the number of bytes nor
the number of characters: a combining accent takes no column and an ideograph takes two.  Which
characters are which depends on the version of Unicode, so text is measured by a given table of
widths, `CharWidths`, of which `CharWidths.unicode` is the one in use.  A tab takes as many columns
as it is expanded to, so measuring text and expanding its tabs agree: `textWidth_expandTabs`.

Drawing uses tab widths that are natural numbers.  Measuring alone also makes sense for a signed
one, where a negative tab pulls the count back; `signedWidth` is that extension.
-/

namespace SourceDiagnostics.Text

/-! ### Widths of characters -/

/-- How many columns each character is drawn in. -/
structure CharWidths where
  width : Char → Nat
  width_le_two : ∀ c, width c ≤ 2
  width_space : width ' ' = 1
  width_of_isDigit : ∀ c, c.isDigit = true → width c = 1

/-- Columns of one code point: none, one or two. -/
def codePointWidth (code : Nat) : Nat :=
  if covers code zeroWidthRanges then 0
  else if covers code wideRanges || covers code unassignedRanges then 2
  else 1

def charWidth (c : Char) : Nat := codePointWidth c.toNat

theorem codePointWidth_eq_zero_iff (code : Nat) :
    codePointWidth code = 0 ↔ ∃ r ∈ zeroWidthRanges, r.1 ≤ code ∧ code ≤ r.2 := by
  rw [← covers_iff zeroWidthRanges_ascending, codePointWidth]
  split
  · rename_i hzero
    exact ⟨fun _ => hzero, fun _ => rfl⟩
  · rename_i hzero
    refine ⟨fun h => ?_, fun h => absurd h hzero⟩
    split at h <;> cases h

theorem codePointWidth_eq_two_iff (code : Nat) :
    codePointWidth code = 2 ↔ codePointWidth code ≠ 0 ∧
      ∃ r ∈ wideRanges ++ unassignedRanges, r.1 ≤ code ∧ code ≤ r.2 := by
  simp only [List.mem_append, or_and_right, exists_or, ← covers_iff wideRanges_ascending,
    ← covers_iff unassignedRanges_ascending, ← Bool.or_eq_true]
  rw [codePointWidth]
  split
  · simp
  · split
    · rename_i hwide
      simp [hwide]
    · rename_i hwide
      simp [hwide]

theorem codePointWidth_le_two (code : Nat) : codePointWidth code ≤ 2 := by
  unfold codePointWidth
  split
  · omega
  · split <;> omega

theorem charWidth_space : charWidth ' ' = 1 := by decide +kernel

theorem toNat_of_isDigit {c : Char} (h : c.isDigit = true) : 48 ≤ c.toNat ∧ c.toNat ≤ 57 := by
  simpa [Char.isDigit, UInt32.le_iff_toNat_le] using h

theorem charWidth_of_isDigit (c : Char) (h : c.isDigit = true) : charWidth c = 1 := by
  obtain ⟨hlow, hhigh⟩ := toNat_of_isDigit h
  have hall : ∀ digit < 10, codePointWidth (48 + digit) = 1 := by decide +kernel
  have hcode := hall (c.toNat - 48) (by omega)
  rwa [Nat.add_sub_cancel' hlow] at hcode

/-- The widths of Unicode 14. -/
def CharWidths.unicode : CharWidths where
  width := charWidth
  width_le_two c := codePointWidth_le_two c.toNat
  width_space := charWidth_space
  width_of_isDigit := charWidth_of_isDigit

/-! ### Widths of text -/

section Widths

variable (widths : CharWidths)

/-- Columns of one character of text whose tabs take `tab` columns. -/
def cellWidth (tab : Nat) (c : Char) : Nat := if c = '\t' then tab else widths.width c

/-- Columns of a run of characters whose tabs take `tab` columns. -/
def cellsWidth (tab : Nat) : List Char → Nat
  | [] => 0
  | c :: rest => cellWidth widths tab c + cellsWidth tab rest

/-- Columns of text whose tabs take `tab` columns. -/
def textWidth (tab : Nat) (text : String) : Nat := cellsWidth widths tab text.toList

end Widths

/-- What one character becomes when tabs are expanded. -/
def expandChar (tab : Nat) (c : Char) : List Char :=
  if c = '\t' then List.replicate tab ' ' else [c]

/-- Text with each tab replaced by `tab` spaces. -/
def expandTabs (tab : Nat) (text : String) : String :=
  String.ofList (text.toList.flatMap (expandChar tab))

/-! ### Tabs are measured as they are expanded -/

variable {widths : CharWidths}

theorem cellsWidth_append (tab : Nat) (cs ds : List Char) :
    cellsWidth widths tab (cs ++ ds) = cellsWidth widths tab cs + cellsWidth widths tab ds := by
  induction cs with
  | nil => simp [cellsWidth]
  | cons c rest ih =>
      rw [List.cons_append, cellsWidth, cellsWidth, ih]
      omega

theorem cellsWidth_replicate (tab n : Nat) (c : Char) :
    cellsWidth widths tab (List.replicate n c) = n * cellWidth widths tab c := by
  induction n with
  | zero => simp [cellsWidth]
  | succ n ih =>
      rw [List.replicate_succ, cellsWidth, ih, Nat.succ_mul]
      omega

@[simp] theorem textWidth_empty (tab : Nat) : textWidth widths tab "" = 0 := rfl

@[simp] theorem textWidth_append (tab : Nat) (s t : String) :
    textWidth widths tab (s ++ t) = textWidth widths tab s + textWidth widths tab t := by
  rw [textWidth, String.toList_append, cellsWidth_append]
  rfl

@[simp] theorem expandTabs_empty (tab : Nat) : expandTabs tab "" = "" := by simp [expandTabs]

@[simp] theorem expandTabs_append (tab : Nat) (s t : String) :
    expandTabs tab (s ++ t) = expandTabs tab s ++ expandTabs tab t := by
  simp [expandTabs]

@[simp] theorem toList_expandTabs (tab : Nat) (text : String) :
    (expandTabs tab text).toList = text.toList.flatMap (expandChar tab) := by
  simp [expandTabs]

private theorem cellsWidth_expandChar (tab other : Nat) (c : Char) :
    cellsWidth widths other (expandChar tab c) = cellWidth widths tab c := by
  by_cases h : c = '\t'
  · have hblank : cellWidth widths other ' ' = 1 := widths.width_space
    rw [expandChar, if_pos h, cellsWidth_replicate, hblank, cellWidth, if_pos h, Nat.mul_one]
  · rw [expandChar, if_neg h, cellWidth, if_neg h, cellsWidth, cellsWidth, cellWidth, if_neg h,
      Nat.add_zero]

/-- **Measuring agrees with expanding.**  Expanded text has no tab left, so it measures the same
under every tab width, and its width is that of the text it came from. -/
theorem textWidth_expandTabs (tab other : Nat) (text : String) :
    textWidth widths other (expandTabs tab text) = textWidth widths tab text := by
  rw [textWidth, textWidth, toList_expandTabs]
  induction text.toList with
  | nil => rfl
  | cons c rest ih =>
      rw [List.flatMap_cons, cellsWidth_append, cellsWidth_expandChar, ih, cellsWidth]

/-! ### Signed tab widths -/

/-- Columns of text whose tabs move by `tab` columns, backwards if that is negative. -/
def signedWidth (widths : CharWidths) (tab : Int) (text : String) : Int :=
  textWidth widths 0 text + tab * text.toList.count '\t'

/-- Text with each tab replaced by `tab` spaces; a negative width leaves nothing in its place. -/
def expandSignedTabs (tab : Int) (text : String) : String := expandTabs tab.toNat text

/-- Text takes the columns it would take without its tabs, and those of its tabs. -/
theorem textWidth_eq_add (tab : Nat) (text : String) :
    textWidth widths tab text = textWidth widths 0 text + tab * text.toList.count '\t' := by
  unfold textWidth
  induction text.toList with
  | nil => rfl
  | cons c rest ih =>
      rw [cellsWidth, cellsWidth, List.count_cons, ih]
      by_cases h : c = '\t'
      · rw [if_pos (beq_iff_eq.mpr h), Nat.mul_add, Nat.mul_one, cellWidth, cellWidth, if_pos h,
          if_pos h]
        omega
      · rw [if_neg (fun hc => h (beq_iff_eq.mp hc)), Nat.add_zero, cellWidth, cellWidth, if_neg h,
          if_neg h]
        omega

theorem signedWidth_natCast (tab : Nat) (text : String) :
    signedWidth widths tab text = textWidth widths tab text := by
  rw [signedWidth, textWidth_eq_add tab, Int.natCast_add, Int.natCast_mul]

end SourceDiagnostics.Text
