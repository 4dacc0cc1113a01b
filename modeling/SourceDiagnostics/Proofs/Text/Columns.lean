import SourceDiagnostics.Text.DisplayWidth
import SourceDiagnostics.Text.Padding
import SourceDiagnostics.Display.Presentation

/-!
# Characters of one column

What is drawn around source text is made of characters that take one column each: blanks, digits
and, if the table of widths says so, the glyphs of gutters, lanes and brackets.  Text made of them
is as wide as it is long, whatever a tab would take.
-/

namespace SourceDiagnostics

namespace Text

variable {widths : CharWidths}

/-- A character that takes one column and is no tab. -/
def IsNarrow (widths : CharWidths) (c : Char) : Prop := c ≠ '\t' ∧ widths.width c = 1

theorem cellWidth_of_isNarrow {c : Char} (h : IsNarrow widths c) (tab : Nat) :
    cellWidth widths tab c = 1 := by
  rw [cellWidth, if_neg h.1, h.2]

theorem cellsWidth_of_isNarrow {cs : List Char} (h : ∀ c ∈ cs, IsNarrow widths c) (tab : Nat) :
    cellsWidth widths tab cs = cs.length := by
  induction cs with
  | nil => rfl
  | cons c rest ih =>
      have hrest := ih fun other hother => h other (List.mem_cons_of_mem _ hother)
      rw [cellsWidth, cellWidth_of_isNarrow (h c (List.mem_cons_self ..)), hrest,
        List.length_cons, Nat.add_comm]

theorem textWidth_of_isNarrow {text : String} (h : ∀ c ∈ text.toList, IsNarrow widths c)
    (tab : Nat) : textWidth widths tab text = text.length := by
  rw [textWidth, cellsWidth_of_isNarrow h, String.length_toList]

theorem isNarrow_space : IsNarrow widths ' ' := ⟨by decide, widths.width_space⟩

theorem textWidth_run {c : Char} (h : IsNarrow widths c) (tab n : Nat) :
    textWidth widths tab (run c n) = n := by
  rw [textWidth_of_isNarrow, length_run]
  intro c' hc'
  rw [toList_run, List.mem_replicate] at hc'
  rw [hc'.2]
  exact h

theorem textWidth_spaces (tab n : Nat) : textWidth widths tab (spaces n) = n :=
  textWidth_run isNarrow_space tab n

theorem textWidth_singleton {c : Char} (h : IsNarrow widths c) (tab : Nat) :
    textWidth widths tab (String.singleton c) = 1 := by
  rw [textWidth_of_isNarrow]
  · simp
  · intro c' hc'
    rw [String.toList_singleton, List.mem_singleton] at hc'
    rw [hc']
    exact h

theorem textWidth_blank (tab : Nat) : textWidth widths tab " " = 1 :=
  textWidth_singleton isNarrow_space tab

/-! ### Numbers -/

theorem isNarrow_of_isDigit {c : Char} (h : c.isDigit = true) : IsNarrow widths c := by
  refine ⟨?_, widths.width_of_isDigit c h⟩
  rintro rfl
  cases h

theorem isNarrow_of_mem_repr {n : Nat} {c : Char} (h : c ∈ (Nat.repr n).toList) :
    IsNarrow widths c := by
  rw [Nat.toList_repr] at h
  exact isNarrow_of_isDigit (Nat.isDigit_of_mem_toDigits (by decide) (by decide) h)

theorem length_repr_mono {m n : Nat} (h : m ≤ n) :
    (Nat.repr m).length ≤ (Nat.repr n).length := by
  rw [Nat.length_repr_le_iff Nat.length_repr_pos]
  exact Nat.lt_of_le_of_lt h ((Nat.length_repr_le_iff Nat.length_repr_pos).mp (Nat.le_refl _))

/-- A number that fits its column fills it. -/
theorem textWidth_alignRight_repr {n width : Nat} (h : (Nat.repr n).length ≤ width) (tab : Nat) :
    textWidth widths tab (alignRight width (Nat.repr n)) = width := by
  have hdigits : textWidth widths tab (Nat.repr n) = (Nat.repr n).length :=
    textWidth_of_isNarrow (fun c hc => isNarrow_of_mem_repr hc) tab
  rw [alignRight, textWidth_append, textWidth_spaces, hdigits]
  omega

end Text

/-! ### Glyphs -/

open Text

/-- The glyphs that stand left of a position that is pointed at. -/
def Glyphs.leading (glyphs : Glyphs) : List Char :=
  [glyphs.border, glyphs.lane, glyphs.openCorner, glyphs.closeCorner, glyphs.horizontal]

theorem Presentation.tab_notMem_leading (p : Presentation) : '\t' ∉ p.glyphs.leading := by
  rcases p.glyphs_eq with heq | heq
  · rw [heq]
    decide
  · rw [heq]
    decide

/-- Every glyph that stands left of a position that is pointed at takes one column. -/
def Presentation.DrawsNarrow (p : Presentation) : Prop :=
  ∀ c ∈ p.glyphs.leading, p.widths.width c = 1

theorem Presentation.DrawsNarrow.isNarrow {p : Presentation} (h : p.DrawsNarrow) {c : Char}
    (hc : c ∈ p.glyphs.leading) : IsNarrow p.widths c := by
  refine ⟨?_, h c hc⟩
  rintro rfl
  exact p.tab_notMem_leading hc

theorem Presentation.charWidth_leading (p : Presentation) :
    (p.glyphs.leading.all fun c => charWidth c == 1) = true := by
  rcases p.glyphs_eq with heq | heq
  · rw [heq]
    decide +kernel
  · rw [heq]
    decide +kernel

/-- In Unicode all of them do. -/
theorem Presentation.drawsNarrow_of_unicode {p : Presentation} (h : p.widths = .unicode) :
    p.DrawsNarrow := by
  intro c hc
  rw [h]
  exact beq_iff_eq.mp (List.all_eq_true.mp p.charWidth_leading c hc)

end SourceDiagnostics
