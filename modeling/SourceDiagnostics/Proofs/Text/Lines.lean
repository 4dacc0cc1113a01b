import SourceDiagnostics.Source.LineIndex.Lemmas
import Mathlib.Algebra.Ring.Nat

/-!
# The lines of a text

A text seen as characters only, with no break table: its lines are what lies between its line
breaks, the line of an offset is found by counting the breaks before it, and the head of that line
is what follows the last of them.  These are the definitions that lookups in a `LineIndex` are
compared with.

Proofs cut a text around one line, `IsLineOf`.  Every boundary lies in some line
(`exists_isLineOf`), and two boundaries with no break between them lie in the same one
(`exists_isLineOf_between`).
-/

namespace SourceDiagnostics.Text

open LineIndex

/-- The lines of a text. -/
def linesOf (text : String) : List String := (text.toList.splitOn lineBreak).map String.ofList

def textUpTo (text : String) (byte : Nat) : String := (between text 0 byte).getD ""

/-- The number, from one, of the line that an offset lies on. -/
def lineAt (text : String) (byte : Nat) : Nat := (textUpTo text byte).toList.count lineBreak + 1

/-- The byte offset where a line begins, lines counted from zero: the size of the lines before it
and of their breaks. -/
def lineOffset (text : String) (line : Nat) : Nat :=
  (((linesOf text).take line).map fun earlier => earlier.utf8ByteSize + 1).sum

/-- What follows the last break of a text, or the whole of a text with no break. -/
def afterLastBreak (text : String) : String :=
  String.ofList (text.toList.reverse.takeWhile fun c => c ≠ lineBreak).reverse

/-- The part of that line that lies before the offset. -/
def lineHeadAt (text : String) (byte : Nat) : String :=
  ((linesOf (textUpTo text byte)).getLast?).getD ""

def IsLineEnd (tail : String) : Prop :=
  tail = "" ∨ ∃ after, tail = String.singleton lineBreak ++ after

/-- A text cut around one of its lines. -/
structure IsLineOf (text head line tail : String) : Prop where
  text_eq : text = head ++ line ++ tail
  start : IsLineStart head
  unbroken : lineBreak ∉ line.toList
  stop : IsLineEnd tail

/-! ### Cutting at breaks -/

theorem exists_lineStart_append (text : String) :
    ∃ head part, text = head ++ part ∧ IsLineStart head ∧ lineBreak ∉ part.toList := by
  by_cases h : lineBreak ∈ text.toList
  · -- the first break of the reversed text is the last one of the text
    obtain ⟨rest, before, heq, hrest⟩ := List.eq_append_cons_of_mem (List.mem_reverse.mpr h)
    have htext : text.toList = before.reverse ++ lineBreak :: rest.reverse := by
      have := congrArg List.reverse heq
      simpa using this
    refine ⟨String.ofList before.reverse ++ String.singleton lineBreak,
      String.ofList rest.reverse, ?_, Or.inr ⟨_, rfl⟩, ?_⟩
    · apply String.toList_inj.mp
      simpa using htext
    · simpa using hrest
  · exact ⟨"", text, by simp, Or.inl rfl, h⟩

theorem exists_part_append_lineEnd (text : String) :
    ∃ part tail, text = part ++ tail ∧ lineBreak ∉ part.toList ∧ IsLineEnd tail := by
  by_cases h : lineBreak ∈ text.toList
  · obtain ⟨part, after, heq, hpart⟩ := List.eq_append_cons_of_mem h
    refine ⟨String.ofList part, String.singleton lineBreak ++ String.ofList after, ?_, ?_,
      Or.inr ⟨_, rfl⟩⟩
    · apply String.toList_inj.mp
      simpa using heq
    · simpa using hpart
  · exact ⟨text, "", by simp, h, Or.inl rfl⟩

/-! ### What is read off a cut -/

theorem textUpTo_append (before after : String) :
    textUpTo (before ++ after) before.utf8ByteSize = before := by
  have := between_append "" before after
  rw [String.empty_append] at this
  rw [textUpTo]
  simpa using congrArg (Option.getD · "") this

theorem textUpTo_of_append {text before after : String} (h : text = before ++ after) :
    textUpTo text before.utf8ByteSize = before := by
  rw [h, textUpTo_append]

theorem length_splitOn_lineBreak (cs : List Char) :
    (cs.splitOn lineBreak).length = cs.count lineBreak + 1 := by
  induction cs with
  | nil => rfl
  | cons c rest ih =>
      rw [List.splitOn_cons_eq_if_modifyHead, List.count_cons]
      by_cases h : c = lineBreak
      · rw [if_pos (beq_iff_eq.mpr h), if_pos (beq_iff_eq.mpr h), List.length_cons, ih]
      · rw [if_neg (fun hc => h (beq_iff_eq.mp hc)), if_neg (fun hc => h (beq_iff_eq.mp hc)),
          List.length_modifyHead, ih]

theorem splitOn_lineStart_append {head : String} (start : IsLineStart head) (rest : List Char) :
    ∃ earlier, (head.toList ++ rest).splitOn lineBreak = earlier ++ rest.splitOn lineBreak ∧
      earlier.length = head.toList.count lineBreak := by
  rcases start with rfl | ⟨before, rfl⟩
  · exact ⟨[], by simp, by simp⟩
  · refine ⟨before.toList.splitOn lineBreak, ?_, ?_⟩
    · rw [String.toList_append, String.toList_singleton, List.append_assoc, List.singleton_append,
        List.splitOn_append_cons_self]
    · rw [length_splitOn_lineBreak]
      simp

theorem linesOf_lineStart_append {head part : String} (start : IsLineStart head)
    (unbroken : lineBreak ∉ part.toList) :
    ∃ earlier, linesOf (head ++ part) = earlier ++ [part] := by
  obtain ⟨earlier, heq, _⟩ := splitOn_lineStart_append start part.toList
  refine ⟨earlier.map String.ofList, ?_⟩
  rw [linesOf, String.toList_append, heq, List.splitOn_eq_singleton unbroken]
  simp

/-! ### All lines together -/

theorem length_linesOf (text : String) :
    (linesOf text).length = text.toList.count lineBreak + 1 := by
  rw [linesOf, List.length_map, length_splitOn_lineBreak]

/-- **Joining.**  The lines with a break between any two give the text back. -/
theorem intercalate_linesOf (text : String) :
    (String.singleton lineBreak).intercalate (linesOf text) = text := by
  apply String.toList_inj.mp
  rw [String.toList_intercalate, linesOf, String.toList_singleton, List.map_map]
  simp [Function.comp_def, List.intercalate_splitOn]

private theorem flatten_splitOn_lineBreak (cs : List Char) :
    (cs.splitOn lineBreak).flatten = cs.filter fun c => c ≠ lineBreak := by
  induction cs with
  | nil => rfl
  | cons c rest ih =>
      rw [List.splitOn_cons_eq_if_modifyHead]
      obtain ⟨first, others, hrest⟩ := List.exists_cons_of_ne_nil (List.splitOn_ne_nil lineBreak rest)
      rw [hrest] at ih ⊢
      by_cases h : c = lineBreak
      · simpa [h] using ih
      · simpa [h] using ih

/-- The lines hold every character but the breaks, in order. -/
theorem flatMap_linesOf (text : String) :
    (linesOf text).flatMap String.toList = text.toList.filter fun c => c ≠ lineBreak := by
  rw [← flatten_splitOn_lineBreak, linesOf, List.flatMap_map]
  simp

theorem lineBreak_notMem_of_mem_linesOf {text line : String} (h : line ∈ linesOf text) :
    lineBreak ∉ line.toList := by
  intro hbreak
  have hmem : lineBreak ∈ (linesOf text).flatMap String.toList :=
    List.mem_flatMap.mpr ⟨line, h, hbreak⟩
  rw [flatMap_linesOf] at hmem
  simp at hmem

private theorem sum_splitOn_lineBreak (cs : List Char) :
    ((cs.splitOn lineBreak).map fun line => (String.ofList line).utf8ByteSize + 1).sum =
      (String.ofList cs).utf8ByteSize + 1 := by
  induction cs with
  | nil => rfl
  | cons c rest ih =>
      rw [List.splitOn_cons_eq_if_modifyHead]
      obtain ⟨first, others, hrest⟩ := List.exists_cons_of_ne_nil (List.splitOn_ne_nil lineBreak rest)
      rw [hrest, List.map_cons, List.sum_cons] at ih
      rw [hrest, utf8ByteSize_ofList_cons]
      by_cases h : c = lineBreak
      · have hsize : c.utf8Size = 1 := by
          rw [h]
          rfl
        rw [if_pos (beq_iff_eq.mpr h), List.map_cons, List.map_cons, List.sum_cons, List.sum_cons,
          String.ofList_nil, String.utf8ByteSize_empty]
        omega
      · rw [if_neg fun hc => h (beq_iff_eq.mp hc), List.modifyHead_cons, List.map_cons,
          List.sum_cons, utf8ByteSize_ofList_cons]
        omega

/-- Each line but the last takes one byte more than its text, for its break. -/
theorem sum_linesOf (text : String) :
    ((linesOf text).map fun line => line.utf8ByteSize + 1).sum = text.utf8ByteSize + 1 := by
  have h := sum_splitOn_lineBreak text.toList
  rw [String.ofList_toList] at h
  rw [← h, linesOf, List.map_map]
  rfl

theorem afterLastBreak_append {head part : String} (start : IsLineStart head)
    (unbroken : lineBreak ∉ part.toList) : afterLastBreak (head ++ part) = part := by
  have hpart : ∀ c ∈ part.toList.reverse, decide (c ≠ lineBreak) = true := by
    intro c hc
    simp only [decide_eq_true_eq]
    rintro rfl
    exact unbroken (List.mem_reverse.mp hc)
  rw [afterLastBreak, String.toList_append, List.reverse_append,
    List.takeWhile_append_of_pos hpart]
  rcases start with rfl | ⟨before, rfl⟩
  · simp
  · simp

theorem getLast?_linesOf (text : String) :
    (linesOf text).getLast? = some (afterLastBreak text) := by
  obtain ⟨head, part, rfl, start, unbroken⟩ := exists_lineStart_append text
  obtain ⟨earlier, heq⟩ := linesOf_lineStart_append start unbroken
  rw [heq, afterLastBreak_append start unbroken, List.getLast?_concat]

namespace IsLineOf

variable {text head line tail : String}

theorem unbroken_front {front back : String} (cut : IsLineOf text head (front ++ back) tail) :
    lineBreak ∉ front.toList := by
  intro h
  exact cut.unbroken (by simp [h])

theorem count_head_append {front back : String} (cut : IsLineOf text head (front ++ back) tail) :
    (head ++ front).toList.count lineBreak = head.toList.count lineBreak :=
  count_lineBreak_append cut.unbroken_front

theorem append_assoc {front middle back : String}
    (cut : IsLineOf text head (front ++ middle ++ back) tail) :
    IsLineOf text head (front ++ (middle ++ back)) tail := by
  rw [← String.append_assoc]
  exact cut

theorem text_eq_append {front back : String} (cut : IsLineOf text head (front ++ back) tail) :
    text = (head ++ front) ++ (back ++ tail) := by
  rw [cut.text_eq]
  simp only [String.append_assoc]

theorem lineAt_eq {front back : String} (cut : IsLineOf text head (front ++ back) tail) :
    lineAt text (head ++ front).utf8ByteSize = head.toList.count lineBreak + 1 := by
  rw [lineAt, textUpTo_of_append cut.text_eq_append, cut.count_head_append]

theorem lineHeadAt_eq {front back : String} (cut : IsLineOf text head (front ++ back) tail) :
    lineHeadAt text (head ++ front).utf8ByteSize = front := by
  obtain ⟨earlier, heq⟩ := linesOf_lineStart_append cut.start cut.unbroken_front
  rw [lineHeadAt, textUpTo_of_append cut.text_eq_append, heq]
  simp

/-- The line has as many lines before it as its head has breaks. -/
theorem getElem?_linesOf (cut : IsLineOf text head line tail) :
    (linesOf text)[head.toList.count lineBreak]? = some line := by
  obtain ⟨earlier, heq, hlength⟩ :=
    splitOn_lineStart_append cut.start (line.toList ++ tail.toList)
  have hfirst : ((line.toList ++ tail.toList).splitOn lineBreak)[0]? = some line.toList := by
    rcases cut.stop with rfl | ⟨after, rfl⟩
    · simp [List.splitOn_eq_singleton cut.unbroken]
    · rw [String.toList_append, String.toList_singleton, List.singleton_append,
        List.splitOn_append_cons_self_of_not_mem cut.unbroken]
      rfl
  rw [linesOf, cut.text_eq, String.append_assoc, String.toList_append, String.toList_append, heq,
    List.getElem?_map, List.getElem?_append_right (Nat.le_of_eq hlength), hlength, Nat.sub_self,
    hfirst]
  simp

/-- The text before a line is as long as the earlier lines with their breaks. -/
theorem lineOffset_eq (cut : IsLineOf text head line tail) :
    lineOffset text (head.toList.count lineBreak) = head.utf8ByteSize := by
  rcases cut.start with rfl | ⟨before, rfl⟩
  · simp [lineOffset]
  · have hlines : linesOf text = linesOf before ++ linesOf (line ++ tail) := by
      rw [linesOf, cut.text_eq]
      simp [linesOf, List.splitOn_append_cons_self]
    have hcount : (before ++ String.singleton lineBreak).toList.count lineBreak =
        (linesOf before).length := by
      simp [length_linesOf]
    have hsize : lineBreak.utf8Size = 1 := by decide
    rw [lineOffset, hlines, hcount, List.take_left, sum_linesOf]
    simp [hsize]

/-- An offset into the line is a boundary of the text where it is one of the line. -/
theorem isBoundary_iff (cut : IsLineOf text head line tail) {byte : Nat}
    (hle : byte ≤ line.utf8ByteSize) :
    IsBoundary text (head.utf8ByteSize + byte) ↔ IsBoundary line byte := by
  have hwithin : head.utf8ByteSize + byte ≤ (head ++ line).utf8ByteSize := by
    rw [String.utf8ByteSize_append]
    exact Nat.add_le_add_left hle _
  rw [cut.text_eq]
  constructor
  · intro h
    exact isBoundary_append_right.mp (h.of_append hwithin)
  · intro h
    exact isBoundary_append_iff.mpr (Or.inl (isBoundary_append_right.mpr h))

end IsLineOf

/-! ### Boundaries lie in lines -/

/-- **Boundaries.**  Every boundary of a text cuts one of its lines in two. -/
theorem exists_isLineOf {text : String} {byte : Nat} (h : IsBoundary text byte) :
    ∃ head front back tail, IsLineOf text head (front ++ back) tail ∧
      byte = (head ++ front).utf8ByteSize := by
  obtain ⟨before, after, rfl, rfl⟩ := isBoundary_iff.mp h
  obtain ⟨head, front, rfl, hstart, hfront⟩ := exists_lineStart_append before
  obtain ⟨back, tail, rfl, hback, hstop⟩ := exists_part_append_lineEnd after
  refine ⟨head, front, back, tail, ⟨?_, hstart, ?_, hstop⟩, rfl⟩
  · simp only [String.append_assoc]
  · simp [hfront, hback]

/-- Every line has a cut around it, counted by the breaks before it. -/
theorem exists_isLineOf_count (text : String) {n : Nat} (h : n ≤ text.toList.count lineBreak) :
    ∃ head line tail, IsLineOf text head line tail ∧ head.toList.count lineBreak = n := by
  induction n with
  | zero =>
      obtain ⟨line, tail, htext, unbroken, stop⟩ := exists_part_append_lineEnd text
      exact ⟨"", line, tail, ⟨by rw [htext, String.empty_append], Or.inl rfl, unbroken, stop⟩, rfl⟩
  | succ n ih =>
      obtain ⟨head, line, tail, cut, hcount⟩ := ih (Nat.le_of_succ_le h)
      have hline := List.count_eq_zero.mpr cut.unbroken
      rcases cut.stop with rfl | ⟨after, rfl⟩
      · -- behind the last line no break is left to count
        rw [cut.text_eq, String.append_empty, String.toList_append, List.count_append] at h
        omega
      · obtain ⟨next, tail, rfl, unbroken, stop⟩ := exists_part_append_lineEnd after
        refine ⟨head ++ line ++ String.singleton lineBreak, next, tail,
          ⟨?_, Or.inr ⟨_, rfl⟩, unbroken, stop⟩, ?_⟩
        · rw [cut.text_eq]
          simp only [String.append_assoc]
        · simp [hline, hcount]

theorem lineAt_mono {text : String} {start stop : Nat} (hstart : IsBoundary text start)
    (hstop : IsBoundary text stop) (hle : start ≤ stop) : lineAt text start ≤ lineAt text stop := by
  obtain ⟨before, middle, after, rfl, rfl, rfl⟩ := hstart.exists_append hstop hle
  rw [lineAt, lineAt, textUpTo_of_append (String.append_assoc ..),
    textUpTo_append (before ++ middle) after, String.toList_append, List.count_append]
  omega

/-- Two boundaries on one line cut it in three. -/
theorem exists_isLineOf_between {text : String} {start stop : Nat}
    (hstart : IsBoundary text start) (hstop : IsBoundary text stop) (hle : start ≤ stop)
    (hline : lineAt text start = lineAt text stop) :
    ∃ head front middle back tail, IsLineOf text head (front ++ middle ++ back) tail ∧
      start = (head ++ front).utf8ByteSize ∧ stop = (head ++ (front ++ middle)).utf8ByteSize := by
  obtain ⟨before, middle, after, rfl, rfl, rfl⟩ := hstart.exists_append hstop hle
  have hmiddle : lineBreak ∉ middle.toList := by
    rw [lineAt, lineAt, textUpTo_of_append (String.append_assoc ..),
      textUpTo_append (before ++ middle) after, String.toList_append, List.count_append] at hline
    exact List.count_eq_zero.mp (by omega)
  obtain ⟨head, front, rfl, hhead, hfront⟩ := exists_lineStart_append before
  obtain ⟨back, tail, rfl, hback, htail⟩ := exists_part_append_lineEnd after
  refine ⟨head, front, middle, back, tail, ⟨?_, hhead, ?_, htail⟩, rfl, ?_⟩
  · simp only [String.append_assoc]
  · simp [hfront, hmiddle, hback]
  · rw [String.append_assoc]

/-- On one line the head up to the later offset ends with what lies between the two. -/
theorem lineHeadAt_eq_append {text : String} {start stop : Nat} (hstart : IsBoundary text start)
    (hstop : IsBoundary text stop) (hle : start ≤ stop)
    (hline : lineAt text start = lineAt text stop) :
    ∃ middle, between text start stop = some middle ∧
      lineHeadAt text stop = lineHeadAt text start ++ middle := by
  obtain ⟨head, front, middle, back, tail, cut, rfl, rfl⟩ :=
    exists_isLineOf_between hstart hstop hle hline
  refine ⟨middle, ?_, ?_⟩
  · have htext : text = head ++ front ++ middle ++ (back ++ tail) := by
      rw [cut.text_eq]
      simp only [String.append_assoc]
    rw [← String.append_assoc, htext]
    exact between_append (head ++ front) middle (back ++ tail)
  · rw [cut.lineHeadAt_eq, cut.append_assoc.lineHeadAt_eq]

end SourceDiagnostics.Text
