import SourceDiagnostics.Proofs.Frame.Composition
import SourceDiagnostics.Proofs.Frame.Painting

/-!
# Frames can be split back

The text of several frames has an empty line between any two of them and a line break between any
two rows of one frame.  Both can be undone if messages and source names have no line break of their
own: cut at the empty lines the text gives the frames back, and cut at the line breaks each frame
gives its rows back, `formatAll_splits`.

One blank row anywhere would spoil this.  There is none, because every row starts with a piece that
is never empty: a token, a gutter with its border, or the blanks in front of a note.
-/

namespace SourceDiagnostics

/-! ### Cutting at empty lines -/

namespace Text

/-- What lies between two line breaks in a row, found from the left. -/
def splitAtGaps : List Char → List (List Char)
  | [] => [[]]
  | '\n' :: '\n' :: rest => [] :: splitAtGaps rest
  | c :: rest => (splitAtGaps rest).modifyHead (c :: ·)

/-- The parts of a text between its empty lines. -/
def blocksOf (text : String) : List String := (splitAtGaps text.toList).map String.ofList

theorem splitAtGaps_gap (rest : List Char) :
    splitAtGaps (lineBreak :: lineBreak :: rest) = [] :: splitAtGaps rest := by
  rw [lineBreak, splitAtGaps]

theorem splitAtGaps_cons {c : Char} {rest : List Char}
    (h : c = lineBreak → rest.head? ≠ some lineBreak) :
    splitAtGaps (c :: rest) = (splitAtGaps rest).modifyHead (c :: ·) := by
  rw [splitAtGaps]
  rintro after rfl rfl
  exact h rfl rfl

theorem splitAtGaps_unbroken_append {line : List Char} (h : lineBreak ∉ line) (rest : List Char) :
    splitAtGaps (line ++ rest) = (splitAtGaps rest).modifyHead (line ++ ·) := by
  induction line with
  | nil => exact (congrFun List.modifyHead_id _).symm
  | cons c more ih =>
      rw [List.mem_cons, not_or] at h
      rw [List.cons_append, splitAtGaps_cons fun hc => absurd hc.symm h.1, ih h.2,
        List.modifyHead_modifyHead]
      rfl

/-- Lines that can be told apart from gaps: there are some, and none is empty or broken. -/
structure IsBlock (lines : List (List Char)) : Prop where
  ne_nil : lines ≠ []
  line_ne_nil : ∀ line ∈ lines, line ≠ []
  unbroken : ∀ line ∈ lines, lineBreak ∉ line

/-- A block is not cut. -/
theorem IsBlock.splitAtGaps_append {lines : List (List Char)} (h : IsBlock lines)
    (rest : List Char) :
    splitAtGaps ([lineBreak].intercalate lines ++ rest) =
      (splitAtGaps rest).modifyHead ([lineBreak].intercalate lines ++ ·) := by
  obtain ⟨hne, hnonempty, hunbroken⟩ := h
  induction lines with
  | nil => exact absurd rfl hne
  | cons first others ih =>
      rw [List.forall_mem_cons] at hnonempty hunbroken
      cases others with
      | nil =>
          rw [List.intercalate_singleton]
          exact splitAtGaps_unbroken_append hunbroken.1 rest
      | cons second others =>
          have hothers := ih (List.cons_ne_nil _ _) hnonempty.2 hunbroken.2
          -- the break between two lines is no gap, as the second one starts with another character
          have hhead : ([lineBreak].intercalate (second :: others) ++ rest).head? ≠
              some lineBreak := by
            obtain ⟨c, more, hsecond⟩ :=
              List.exists_cons_of_ne_nil (hnonempty.2 second (List.mem_cons_self ..))
            have hc : c ≠ lineBreak := by
              rintro rfl
              exact hunbroken.2 second (List.mem_cons_self ..) (by simp [hsecond])
            cases others with
            | nil => simpa [hsecond] using hc
            | cons third others => simpa [hsecond, List.intercalate_cons_cons] using hc
          rw [List.intercalate_cons_cons, List.append_assoc, List.append_assoc,
            splitAtGaps_unbroken_append hunbroken.1, List.singleton_append,
            splitAtGaps_cons fun _ => hhead, hothers, List.modifyHead_modifyHead,
            List.modifyHead_modifyHead]
          congr 1
          funext tail
          simp

theorem splitAtGaps_intercalate {blocks : List (List (List Char))} (hne : blocks ≠ [])
    (h : ∀ lines ∈ blocks, IsBlock lines) :
    splitAtGaps ([lineBreak, lineBreak].intercalate (blocks.map [lineBreak].intercalate)) =
      blocks.map [lineBreak].intercalate := by
  induction blocks with
  | nil => exact absurd rfl hne
  | cons first others ih =>
      rw [List.forall_mem_cons] at h
      cases others with
      | nil =>
          have hlast := h.1.splitAtGaps_append []
          rw [List.append_nil] at hlast
          rw [List.map_cons, List.map_nil, List.intercalate_singleton, hlast, splitAtGaps,
            List.modifyHead_cons, List.append_nil]
      | cons second others =>
          have hothers := ih (List.cons_ne_nil _ _) h.2
          rw [List.map_cons] at hothers
          rw [List.map_cons, List.map_cons, List.intercalate_cons_cons, List.append_assoc,
            h.1.splitAtGaps_append, List.cons_append, List.singleton_append, splitAtGaps_gap,
            List.modifyHead_cons, List.append_nil, hothers]

theorem IsBlock.linesOf_intercalate {lines : List String} (h : IsBlock (lines.map String.toList)) :
    linesOf (String.intercalate "\n" lines) = lines := by
  rw [linesOf, toList_intercalate_lineBreak, List.splitOn_intercalate lineBreak h.unbroken h.ne_nil,
    List.map_map]
  simp

/-- **Gaps.**  Blocks with an empty line between any two are read back from left to right. -/
theorem blocksOf_intercalate {blocks : List (List String)} (hne : blocks ≠ [])
    (h : ∀ lines ∈ blocks, IsBlock (lines.map String.toList)) :
    blocksOf (String.intercalate "\n\n" (blocks.map (String.intercalate "\n"))) =
      blocks.map (String.intercalate "\n") := by
  have hchars : (blocks.map (String.intercalate "\n")).map String.toList =
      (blocks.map (List.map String.toList)).map [lineBreak].intercalate := by
    rw [List.map_map, List.map_map]
    refine List.map_congr_left ?_
    intro lines _
    exact toList_intercalate_lineBreak lines
  have hsplit : splitAtGaps ([lineBreak, lineBreak].intercalate
        ((blocks.map (String.intercalate "\n")).map String.toList)) =
      (blocks.map (String.intercalate "\n")).map String.toList := by
    rw [hchars]
    refine splitAtGaps_intercalate ?_ (List.forall_mem_map.mpr h)
    rw [ne_eq, List.map_eq_nil_iff]
    exact hne
  have hgap : (String.intercalate "\n\n" (blocks.map (String.intercalate "\n"))).toList =
      [lineBreak, lineBreak].intercalate
        ((blocks.map (String.intercalate "\n")).map String.toList) := String.toList_intercalate
  rw [blocksOf, hgap, hsplit, List.map_map]
  simp

end Text

open Text

/-! ### No row is empty -/

namespace Row

variable {row : Row}

/-- Whether anything of the row is seen. -/
def HasText (row : Row) : Prop := ∃ span ∈ row.spans, span.text ≠ ""

theorem hasText_ofPieces {first : String} (hne : first ≠ "") (style : Style)
    (rest : List (String × Style)) : (ofPieces ((first, style) :: rest)).HasText := by
  rw [ofPieces_cons hne]
  exact ⟨_, List.mem_cons_self .., hne⟩

theorem HasText.text_ne_nil (h : row.HasText) (color : Bool) : (row.text color).toList ≠ [] := by
  obtain ⟨span, hspan, hne⟩ := h
  have htext : span.text.toList ≠ [] := mt String.toList_eq_nil_iff.mp hne
  cases color with
  | false =>
      show row.plain.toList ≠ []
      rw [toList_plain, ne_eq, List.flatMap_eq_nil_iff]
      exact fun hall => htext (hall span hspan)
  | true =>
      show (row.painted standardEscape).toList ≠ []
      rw [toList_painted, ne_eq, List.flatMap_eq_nil_iff]
      intro hall
      have hspan := hall span hspan
      rw [Span.painted, List.append_eq_nil_iff, List.append_eq_nil_iff] at hspan
      exact htext hspan.1.2

theorem lineBreak_notMem_standardEscape (style : Style) :
    lineBreak ∉ (standardEscape style).toList := by
  cases style <;> decide

theorem lineBreak_notMem_text (h : row.Uses (· ≠ lineBreak)) (color : Bool) :
    lineBreak ∉ (row.text color).toList := by
  cases color with
  | false => exact notMem_plain h
  | true =>
      show lineBreak ∉ (row.painted standardEscape).toList
      rw [toList_painted, List.mem_flatMap]
      rintro ⟨span, hspan, hmem⟩
      rw [Span.painted, List.mem_append, List.mem_append] at hmem
      rcases hmem with (hescape | hshown) | hreset
      · exact lineBreak_notMem_standardEscape _ hescape
      · exact h.notMem hspan hshown
      · exact absurd hreset (by decide)

end Row

namespace Excerpt

variable {e : Excerpt}

theorem margin_ne_empty : e.margin ≠ "" := append_ne_empty_of_right String.singleton_ne_empty _

theorem rowsAt_hasText {line : Nat} : ∀ row ∈ e.rowsAt line, row.HasText := by
  intro row hrow
  rcases mem_rowsAt.mp hrow with rfl | ⟨entry, _, _, rfl⟩ | ⟨h, _, rfl⟩ | ⟨entry, _, _, rfl⟩
  · exact Row.hasText_ofPieces (append_ne_empty_of_right String.singleton_ne_empty _) _ _
  · exact Row.hasText_ofPieces margin_ne_empty _ _
  · exact Row.hasText_ofPieces margin_ne_empty _ _
  · exact Row.hasText_ofPieces margin_ne_empty _ _

theorem rows_hasText : ∀ row ∈ e.rows, row.HasText := by
  intro row hrow
  rcases mem_rows.mp hrow with rfl | ⟨line, _, hat⟩
  · exact Row.hasText_ofPieces (append_ne_empty_of_right (by decide) _) _ _
  · exact rowsAt_hasText row hat

end Excerpt

theorem noteRows_hasText {p : Presentation} {gutter : Nat} {note : String} :
    ∀ row ∈ noteRows p gutter note, row.HasText := by
  intro row hrow
  obtain ⟨line, _, rfl | rfl⟩ := exists_line_of_mem_noteRows hrow
  · exact Row.hasText_ofPieces (append_ne_empty_of_right String.singleton_ne_empty _) _ _
  · refine Row.hasText_ofPieces ?_ _ _
    intro hempty
    have hblanks := congrArg String.length (String.append_eq_empty_iff.mp hempty).1
    rw [length_spaces] at hblanks
    cases hblanks

namespace Diagnostic

variable {d : Diagnostic} {sources : Sources} {found : Int → Source} {p : Presentation}

theorem frameRows_hasText : ∀ row ∈ d.frameRows sources found p, row.HasText := by
  intro row hrow
  rcases mem_frameRows.mp hrow with rfl | ⟨source, _, hsnippet⟩ | ⟨note, _, hnote⟩
  · refine Row.hasText_ofPieces ?_ _ _
    cases d.severity <;> decide
  · exact Excerpt.rows_hasText row hsnippet
  · exact noteRows_hasText row hnote

/-- The rows of a frame make a block, painted or not. -/
theorem isBlock_of_render {rows : List Row} (h : d.render sources p = .ok rows)
    (havoids : d.Avoids sources lineBreak) (color : Bool) :
    IsBlock ((rows.map (Row.text color)).map String.toList) := by
  obtain ⟨found, hresolves, rfl⟩ := exists_resolves_of_render h
  refine ⟨List.cons_ne_nil _ _, ?_, ?_⟩
  · rw [List.map_map, List.forall_mem_map]
    intro row hrow
    exact (frameRows_hasText row hrow).text_ne_nil color
  · rw [List.map_map, List.forall_mem_map]
    intro row hrow
    exact Row.lineBreak_notMem_text
      (hresolves.uses_ne havoids.not_origin_lineBreak row hrow) color

end Diagnostic

/-! ### Frames from the text of all -/

section Frames

variable {ds : List Diagnostic} {sources : Sources} {p : Presentation}

theorem formatAll_of_render {rowsOf : Diagnostic → List Row}
    (h : ∀ d ∈ ds, d.render sources p = .ok (rowsOf d)) (color : Bool) :
    formatAll ds sources p color = .ok (String.intercalate "\n\n"
      ((ds.map fun d => (rowsOf d).map (Row.text color)).map (String.intercalate "\n"))) := by
  have hframes : ds.mapM (fun d => d.format sources p color) =
      .ok ((ds.map fun d => (rowsOf d).map (Row.text color)).map (String.intercalate "\n")) := by
    rw [Result.mapM_eq_ok_iff, List.map_map, List.map_map]
    refine List.map_congr_left ?_
    intro d hd
    exact Diagnostic.format_of_render (h d hd) color
  rw [formatAll, hframes]
  rfl

/-- **Splitting.**  Take diagnostics that can be rendered, at least one, whose messages and source
names have no line break; their notes and the sources may have any.  The text of all of them, cut
at its empty lines, gives the frame of each in order, and each frame, cut at its line breaks, gives
the text of each of its rows, none of them empty. -/
theorem formatAll_splits (hne : ds ≠ [])
    (hrenders : ∀ d ∈ ds, ∃ rows, d.render sources p = .ok rows)
    (havoids : ∀ d ∈ ds, d.Avoids sources lineBreak) (color : Bool) :
    ∃ text, formatAll ds sources p color = .ok text ∧
      List.Forall₂ (fun d frame => d.format sources p color = .ok frame ∧
        ∃ rows, d.render sources p = .ok rows ∧
          linesOf frame = (rows.map fun row =>
            if color then row.painted standardEscape else row.plain) ∧
          ∀ row ∈ rows, (if color then row.painted standardEscape else row.plain) ≠ "")
        ds (blocksOf text) := by
  choose! rowsOf hrowsOf using hrenders
  have hblock : ∀ d ∈ ds, IsBlock (((rowsOf d).map (Row.text color)).map String.toList) :=
    fun d hd => Diagnostic.isBlock_of_render (hrowsOf d hd) (havoids d hd) color
  have hsome : (ds.map fun d => (rowsOf d).map (Row.text color)) ≠ [] := by
    rw [ne_eq, List.map_eq_nil_iff]
    exact hne
  refine ⟨_, formatAll_of_render hrowsOf color, ?_⟩
  rw [blocksOf_intercalate hsome (List.forall_mem_map.mpr hblock), List.forall₂_map_right_iff,
    List.forall₂_map_right_iff, List.forall₂_same]
  intro d hd
  refine ⟨Diagnostic.format_of_render (hrowsOf d hd) color, rowsOf d, hrowsOf d hd,
    (hblock d hd).linesOf_intercalate, ?_⟩
  intro row hrow hempty
  change row.text color = "" at hempty
  refine (hblock d hd).line_ne_nil (row.text color).toList ?_ (by rw [hempty]; rfl)
  exact List.mem_map_of_mem (List.mem_map_of_mem hrow)

end Frames

/-- Notes with empty lines of their own, and a note that is empty. -/
def gappedDiagnostic : Diagnostic where
  severity := .note
  message := "gaps"
  notes := ["", "above\n\nbelow\r\n", "\n"]

theorem gapped_resolves : gappedDiagnostic.Resolves mixedSources mixedFound where
  find_eq source hsource := by
    have hids : gappedDiagnostic.sourceIds = [] := rfl
    rw [hids] at hsource
    cases hsource
  fits h hmem := by
    have hnone : gappedDiagnostic.highlights = [] := rfl
    rw [hnone] at hmem
    cases hmem

theorem mixed_avoids_lineBreak : mixedDiagnostic.Avoids mixedSources lineBreak where
  message := by decide
  labels := by decide
  names := by
    intro label hlabel source hsource
    have hids : label.source ∈ mixedDiagnostic.sourceIds :=
      List.mem_eraseDups.mpr (List.mem_map_of_mem hlabel)
    rw [mixed_resolves.find_eq _ hids] at hsource
    rw [← Except.ok.inj hsource, mixedFound]
    split <;> decide

/-- The frame of the second diagnostic has a row for each line of its notes. -/
theorem formatAll_splits_gapped :
    ∃ text frame gapped,
      formatAll [mixedDiagnostic, gappedDiagnostic] mixedSources {} true = .ok text ∧
      blocksOf text = [frame, gapped] ∧
      mixedDiagnostic.format mixedSources {} true = .ok frame ∧
      gappedDiagnostic.format mixedSources {} true = .ok gapped ∧
      (linesOf gapped).length = 6 := by
  have hrenders : ∀ d ∈ [mixedDiagnostic, gappedDiagnostic],
      ∃ rows, d.render mixedSources {} = .ok rows := by
    intro d hd
    rcases List.mem_pair.mp hd with rfl | rfl
    · exact ⟨_, mixed_resolves.render_eq {}⟩
    · exact ⟨_, gapped_resolves.render_eq {}⟩
  have havoids : ∀ d ∈ [mixedDiagnostic, gappedDiagnostic], d.Avoids mixedSources lineBreak := by
    intro d hd
    rcases List.mem_pair.mp hd with rfl | rfl
    · exact mixed_avoids_lineBreak
    · exact ⟨by decide, by decide, fun _ hlabel => absurd hlabel List.not_mem_nil⟩
  obtain ⟨text, htext, hsplit⟩ :=
    formatAll_splits (List.cons_ne_nil _ _) hrenders havoids true
  obtain ⟨frame, _, ⟨hframe, _⟩, hrest, hblocks⟩ := List.forall₂_cons_left_iff.mp hsplit
  obtain ⟨gapped, _, ⟨hgapped, rows, hrows, hlines, _⟩, hnil, rfl⟩ :=
    List.forall₂_cons_left_iff.mp hrest
  rw [List.forall₂_nil_left_iff.mp hnil] at hblocks
  refine ⟨text, frame, gapped, htext, hblocks, hframe, hgapped, ?_⟩
  rw [gapped_resolves.render_eq {}] at hrows
  rw [hlines, List.length_map, ← Except.ok.inj hrows]
  decide +kernel

end SourceDiagnostics
