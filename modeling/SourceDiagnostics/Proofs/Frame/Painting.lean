import SourceDiagnostics.Proofs.Frame.Characters
import SourceDiagnostics.Proofs.Text.Escapes

/-!
# Painted frames say what plain ones say

A painted row has the escape of its style in front of each span and a reset behind it.  If none of
the texts that a diagnostic shows has an escape character in it, then taking the color escapes out
of the painted frame gives the plain one: `Diagnostic.format_withoutEscapes`.

Texts may well look like the rest of an escape.  A span that reads `[0m` follows the escape of its
style, which is a whole sequence already, so the scan is past it when the text of the span begins.
-/

namespace SourceDiagnostics

open Text

/-! ### The palette -/

theorem isSequence_standardEscape (style : Style) : IsSequence (standardEscape style).toList := by
  cases style <;> decide

theorem isSequence_resetEscape : IsSequence resetEscape.toList := by decide

theorem count_escape_of_isSequence {text : List Char} (h : IsSequence text) :
    text.count escape = 1 := by
  obtain ⟨parameters, hparameters, rfl⟩ := h
  have hnone : escape ∉ parameters := by
    intro hmem
    exact absurd (hparameters _ hmem) (by decide)
  rw [List.count_append, List.count_cons_self, List.count_cons_of_ne (by decide),
    List.count_eq_zero.mpr hnone]
  rfl

/-! ### Rows -/

/-- The text of one span between its escape and the reset. -/
def Span.painted (span : Span) : List Char :=
  (standardEscape span.style).toList ++ span.text.toList ++ resetEscape.toList

namespace Row

variable {row : Row}

theorem toList_painted (row : Row) :
    (row.painted standardEscape).toList = row.spans.flatMap Span.painted := by
  rw [painted, String.toList_join, List.flatMap_map]
  refine List.flatMap_congr ?_
  intro span _
  rw [String.toList_append, String.toList_append, Span.painted]

theorem toList_plain (row : Row) :
    row.plain.toList = row.spans.flatMap fun span => span.text.toList := by
  rw [plain, String.toList_join, List.flatMap_map]

theorem becomes_painted (h : row.Uses (· ≠ escape)) :
    Becomes (row.painted standardEscape).toList row.plain.toList := by
  rw [toList_painted, toList_plain]
  refine becomes_flatMap ?_
  intro span hspan
  have hbecomes := ((isSequence_standardEscape span.style).becomes_nil.append
    (becomes_self (h.notMem hspan))).append isSequence_resetEscape.becomes_nil
  rwa [List.nil_append, List.append_nil] at hbecomes

theorem notMem_plain {c : Char} (h : row.Uses (· ≠ c)) : c ∉ row.plain.toList := by
  rw [toList_plain, List.mem_flatMap]
  rintro ⟨span, hspan, hmem⟩
  exact h.notMem hspan hmem

/-- Every span brings two sequences. -/
theorem count_escape_painted (h : row.Uses (· ≠ escape)) :
    (row.painted standardEscape).toList.count escape = 2 * row.spans.length := by
  have hspans : row.spans.map (List.count escape ∘ Span.painted) = row.spans.map fun _ => 2 := by
    refine List.map_congr_left ?_
    intro span hspan
    rw [Function.comp_apply, Span.painted, List.count_append, List.count_append,
      List.count_eq_zero.mpr (h.notMem hspan), count_escape_of_isSequence (isSequence_standardEscape _),
      count_escape_of_isSequence isSequence_resetEscape]
  rw [toList_painted, List.count_flatMap, hspans, List.map_const', List.sum_replicate_nat,
    Nat.mul_comm]

end Row

/-! ### Frames -/

theorem toList_intercalate_lineBreak (lines : List String) :
    (String.intercalate "\n" lines).toList = [lineBreak].intercalate (lines.map String.toList) :=
  String.toList_intercalate

theorem count_intercalate {c : Char} {separator : List Char} (h : c ∉ separator)
    (texts : List (List Char)) :
    (separator.intercalate texts).count c = (texts.map (List.count c)).sum := by
  induction texts with
  | nil => rfl
  | cons first rest ih =>
      cases rest with
      | nil => simp
      | cons second rest =>
          rw [List.intercalate_cons_cons, List.count_append, List.count_append, ih,
            List.count_eq_zero.mpr h]
          rfl

namespace Diagnostic

/-- **Color.**  Take a diagnostic that can be rendered, with no escape character in the texts it
shows.  What it looks like in color is, without the color escapes, what it looks like plainly; and
there are two of them for each span, one for its style and one reset. -/
theorem format_withoutEscapes {d : Diagnostic} {sources : Sources} {p : Presentation}
    {rows : List Row} (h : d.render sources p = .ok rows)
    (hfree : d.AvoidsThroughout sources escape) :
    ∃ painted plain,
      d.format sources p true = .ok painted ∧
      d.format sources p false = .ok plain ∧
      withoutEscapes painted = plain ∧
      escape ∉ plain.toList ∧
      painted.toList.count escape = (rows.map fun row => 2 * row.spans.length).sum := by
  obtain ⟨found, hresolves, hrows⟩ := exists_resolves_of_render h
  have huses : ∀ row ∈ rows, row.Uses (· ≠ escape) := by
    rw [hrows]
    exact hresolves.uses_ne (hfree.not_origin (by decide))
  have hbreak : escape ∉ [lineBreak] := by decide
  refine ⟨_, _, format_of_render h true, format_of_render h false, ?_, ?_, ?_⟩
  · rw [withoutEscapes, toList_intercalate_lineBreak]
    apply String.toList_inj.mp
    rw [String.toList_ofList, toList_intercalate_lineBreak]
    refine (becomes_intercalate hbreak ?_).stripSequences_eq
    rw [List.map_map, List.map_map, List.forall₂_map_left_iff, List.forall₂_map_right_iff,
      List.forall₂_same]
    intro row hrow
    exact Row.becomes_painted (huses row hrow)
  · have hnone : (rows.map fun row => row.plain.toList.count escape) = rows.map fun _ => 0 := by
      refine List.map_congr_left ?_
      intro row hrow
      exact List.count_eq_zero.mpr (Row.notMem_plain (huses row hrow))
    rw [← List.count_eq_zero, toList_intercalate_lineBreak, count_intercalate hbreak,
      List.map_map, List.map_map]
    show (rows.map fun row => row.plain.toList.count escape).sum = 0
    rw [hnone, List.map_const', List.sum_replicate_nat, Nat.mul_zero]
  · rw [toList_intercalate_lineBreak, count_intercalate hbreak, List.map_map, List.map_map]
    refine congrArg List.sum (List.map_congr_left ?_)
    intro row hrow
    exact Row.count_escape_painted (huses row hrow)

end Diagnostic

/-- A text full of what escapes are made of, but for the escape character. -/
def lookalikeSource : Source := ⟨"[1m", LineIndex.ofContent "0;1m[31mm\n"⟩

def lookalikeDiagnostic : Diagnostic where
  severity := .help
  message := "[0m"
  notes := ["", "1;2m\r\n[m"]
  labels :=
    [{ source := 0, region := { start := 0, stop := 10, message := "[1;3m" },
       supporting := [{ start := 5, stop := 9, message := "m" }] }]

theorem lookalike_resolves :
    lookalikeDiagnostic.Resolves ⟨#[lookalikeSource]⟩ fun _ => lookalikeSource where
  find_eq := by
    have hids : lookalikeDiagnostic.sourceIds = [0] := by decide +kernel
    rw [hids]
    intro source hsource
    rw [List.mem_singleton.mp hsource]
    rfl
  fits := by
    show ∀ h ∈ lookalikeDiagnostic.highlights,
      IsBoundary lookalikeSource.content h.region.start ∧
        IsBoundary lookalikeSource.content h.region.stop
    decide +kernel

theorem lookalike_find {label : Label} (hlabel : label ∈ lookalikeDiagnostic.labels)
    {source : Source} (hsource : Sources.find ⟨#[lookalikeSource]⟩ label.source = .ok source) :
    source = lookalikeSource := by
  rw [List.mem_singleton.mp hlabel] at hsource
  exact (Except.ok.inj hsource).symm

theorem lookalike_avoids :
    lookalikeDiagnostic.AvoidsThroughout ⟨#[lookalikeSource]⟩ escape where
  message := by decide
  labels := by decide
  names := by
    intro label hlabel source hsource
    rw [lookalike_find hlabel hsource]
    decide
  notes := by decide
  contents := by
    intro label hlabel source hsource
    rw [lookalike_find hlabel hsource]
    decide

theorem Diagnostic.format_withoutEscapes_lookalike :
    ∃ rows painted plain,
      lookalikeDiagnostic.render ⟨#[lookalikeSource]⟩ {} = .ok rows ∧
      lookalikeDiagnostic.format ⟨#[lookalikeSource]⟩ {} true = .ok painted ∧
      lookalikeDiagnostic.format ⟨#[lookalikeSource]⟩ {} false = .ok plain ∧
      withoutEscapes painted = plain ∧
      painted.toList.count escape = (rows.map fun row => 2 * row.spans.length).sum := by
  have hrender := lookalike_resolves.render_eq {}
  obtain ⟨painted, plain, hpainted, hplain, hstripped, _, hcount⟩ :=
    Diagnostic.format_withoutEscapes hrender lookalike_avoids
  exact ⟨_, painted, plain, hrender, hpainted, hplain, hstripped, hcount⟩

end SourceDiagnostics
