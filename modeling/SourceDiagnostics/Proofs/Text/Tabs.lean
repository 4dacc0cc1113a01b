import SourceDiagnostics.Proofs.Text.Lines
import SourceDiagnostics.Text.DisplayWidth
import Mathlib.Data.List.Basic

/-!
# Text with its tabs expanded

Expanding tabs moves every offset behind a tab, but it makes and takes away no line break: a text
with its tabs expanded has the lines of the text, expanded one by one (`linesOf_expandTabs`).  An
offset goes to where the expansion of the text before it ends, `expandedOffset`.  What the text
says of an offset, the line it lies on, the head of that line and the text up to a later offset,
the expanded text says of its image, with the tabs expanded.
-/

namespace SourceDiagnostics.Text

/-- Where an offset comes to lie when the tabs of its text are expanded.  It is irreducible, so that
comparing two regions does not open the bytes of their text. -/
@[irreducible]
def expandedOffset (tab : Nat) (text : String) (byte : Nat) : Nat :=
  (expandTabs tab (textUpTo text byte)).utf8ByteSize

/-! ### No tab is left, and no break is lost -/

theorem mem_expandChar {tab : Nat} {c d : Char} (h : d ∈ expandChar tab c) :
    c ≠ '\t' ∧ d = c ∨ d = ' ' := by
  unfold expandChar at h
  split at h
  · exact Or.inr (List.eq_of_mem_replicate h)
  · rename_i hc
    exact Or.inl ⟨hc, List.mem_singleton.mp h⟩

theorem expandChar_of_mem {tab : Nat} (other : Nat) {c d : Char} (h : d ∈ expandChar tab c) :
    expandChar other d = [d] := by
  rcases mem_expandChar h with ⟨hc, rfl⟩ | rfl
  · exact if_neg hc
  · rfl

/-- Text that is expanded already stays as it is, under any tab width. -/
theorem expandTabs_expandTabs (tab other : Nat) (text : String) :
    expandTabs other (expandTabs tab text) = expandTabs tab text := by
  apply String.toList_inj.mp
  rw [toList_expandTabs, toList_expandTabs, List.flatMap_assoc]
  refine List.flatMap_congr ?_
  intro c _
  -- every character of the expansion is kept
  rw [List.flatMap_congr fun d hd => expandChar_of_mem other hd, List.flatMap_singleton']

theorem lineBreak_notMem_expandChar (tab : Nat) {c : Char} (h : c ≠ lineBreak) :
    lineBreak ∉ expandChar tab c := by
  intro hmem
  rcases mem_expandChar hmem with ⟨_, rfl⟩ | hblank
  · exact h rfl
  · exact absurd hblank (by decide)

theorem count_lineBreak_expandTabs (tab : Nat) (text : String) :
    (expandTabs tab text).toList.count lineBreak = text.toList.count lineBreak := by
  rw [toList_expandTabs]
  induction text.toList with
  | nil => rfl
  | cons c rest ih =>
      rw [List.flatMap_cons, List.count_append, ih, List.count_cons]
      by_cases h : c = lineBreak
      · rw [h, if_pos (beq_self_eq_true _), Nat.add_comm]
        rfl
      · rw [List.count_eq_zero.mpr (lineBreak_notMem_expandChar tab h),
          if_neg fun hc => h (beq_iff_eq.mp hc), Nat.zero_add, Nat.add_zero]

/-! ### Lines -/

theorem splitOn_unbroken_append {part : List Char} (unbroken : lineBreak ∉ part)
    (rest : List Char) :
    (part ++ rest).splitOn lineBreak = (rest.splitOn lineBreak).modifyHead (part ++ ·) := by
  induction part with
  | nil => exact (congrFun List.modifyHead_id _).symm
  | cons c part ih =>
      rw [List.mem_cons, not_or] at unbroken
      rw [List.cons_append, List.splitOn_cons_eq_if_modifyHead,
        if_neg fun hc => unbroken.1 (beq_iff_eq.mp hc).symm, ih unbroken.2,
        List.modifyHead_modifyHead]
      rfl

private theorem splitOn_flatMap_expandChar (tab : Nat) (cs : List Char) :
    (cs.flatMap (expandChar tab)).splitOn lineBreak =
      (cs.splitOn lineBreak).map fun line => line.flatMap (expandChar tab) := by
  induction cs with
  | nil => rfl
  | cons c rest ih =>
      rw [List.flatMap_cons, List.splitOn_cons_eq_if_modifyHead]
      by_cases h : c = lineBreak
      · have hbreak : expandChar tab c = [lineBreak] := by
          rw [h]
          rfl
        rw [hbreak, List.singleton_append, List.splitOn_cons_eq_if_modifyHead,
          if_pos (beq_self_eq_true _), if_pos (beq_iff_eq.mpr h), ih]
        rfl
      · obtain ⟨first, others, hrest⟩ :=
          List.exists_cons_of_ne_nil (List.splitOn_ne_nil lineBreak rest)
        rw [splitOn_unbroken_append (lineBreak_notMem_expandChar tab h), ih,
          if_neg fun hc => h (beq_iff_eq.mp hc), hrest]
        rfl

/-- **Lines.**  Expanding a text expands its lines. -/
theorem linesOf_expandTabs (tab : Nat) (text : String) :
    linesOf (expandTabs tab text) = (linesOf text).map (expandTabs tab) := by
  rw [linesOf, linesOf, toList_expandTabs, splitOn_flatMap_expandChar, List.map_map, List.map_map]
  refine List.map_congr_left ?_
  intro line _
  apply String.toList_inj.mp
  simp

/-! ### Offsets -/

section Offsets

variable (tab : Nat) {text : String} {byte start stop : Nat}

theorem expandedOffset_of_append {before after : String} (h : text = before ++ after) :
    expandedOffset tab text before.utf8ByteSize = (expandTabs tab before).utf8ByteSize := by
  rw [expandedOffset, textUpTo_of_append h]

/-- The text before an offset is expanded with it. -/
theorem textUpTo_expandTabs (h : IsBoundary text byte) :
    textUpTo (expandTabs tab text) (expandedOffset tab text byte) =
      expandTabs tab (textUpTo text byte) := by
  obtain ⟨before, after, rfl, rfl⟩ := isBoundary_iff.mp h
  rw [expandedOffset_of_append tab rfl, expandTabs_append, textUpTo_append, textUpTo_append]

theorem isBoundary_expandTabs (h : IsBoundary text byte) :
    IsBoundary (expandTabs tab text) (expandedOffset tab text byte) := by
  obtain ⟨before, after, rfl, rfl⟩ := isBoundary_iff.mp h
  rw [expandedOffset_of_append tab rfl, expandTabs_append]
  exact isBoundary_append _ _

theorem lineAt_expandTabs (h : IsBoundary text byte) :
    lineAt (expandTabs tab text) (expandedOffset tab text byte) = lineAt text byte := by
  rw [lineAt, lineAt, textUpTo_expandTabs tab h, count_lineBreak_expandTabs]

theorem lineHeadAt_expandTabs (h : IsBoundary text byte) :
    lineHeadAt (expandTabs tab text) (expandedOffset tab text byte) =
      expandTabs tab (lineHeadAt text byte) := by
  rw [lineHeadAt, lineHeadAt, textUpTo_expandTabs tab h, linesOf_expandTabs, List.getLast?_map]
  cases (linesOf (textUpTo text byte)).getLast? with
  | none => exact (expandTabs_empty tab).symm
  | some line => rfl

section Between

variable (hstart : IsBoundary text start) (hstop : IsBoundary text stop) (hle : start ≤ stop)

include hstart hstop hle

/-- Offsets keep their order; those with only tabs between them may fall together. -/
theorem expandedOffset_mono : expandedOffset tab text start ≤ expandedOffset tab text stop := by
  obtain ⟨before, middle, after, rfl, rfl, rfl⟩ := hstart.exists_append hstop hle
  rw [expandedOffset_of_append tab (String.append_assoc ..), expandedOffset_of_append tab rfl,
    expandTabs_append, String.utf8ByteSize_append]
  exact Nat.le_add_right _ _

theorem between_expandTabs :
    between (expandTabs tab text) (expandedOffset tab text start) (expandedOffset tab text stop) =
      (between text start stop).map (expandTabs tab) := by
  obtain ⟨before, middle, after, rfl, rfl, rfl⟩ := hstart.exists_append hstop hle
  rw [expandedOffset_of_append tab (String.append_assoc ..), expandedOffset_of_append tab rfl,
    expandTabs_append, expandTabs_append, between_append, between_append]
  rfl

end Between

end Offsets

/-! ### Columns -/

/-- **Columns.**  Text takes as many columns as its expansion, whatever width tabs would have in
there, even one that moves backwards. -/
theorem signedWidth_expandTabs (widths : CharWidths) (tab : Nat) (other : Int) (text : String) :
    signedWidth widths other (expandTabs tab text) = textWidth widths tab text := by
  have hcount : (expandTabs tab text).toList.count '\t' = 0 := by
    rw [List.count_eq_zero, toList_expandTabs]
    intro hmem
    obtain ⟨c, _, htab⟩ := List.mem_flatMap.mp hmem
    rcases mem_expandChar htab with ⟨hc, heq⟩ | hblank
    · exact hc heq.symm
    · exact absurd hblank (by decide)
  rw [signedWidth, hcount, textWidth_expandTabs]
  simp

end SourceDiagnostics.Text
