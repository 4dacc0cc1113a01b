import SourceDiagnostics.Display.Style
import SourceDiagnostics.Result

/-!
# Rows of styled text

A rendered row is a sequence of spans of one style each.  Empty spans are dropped when a row is
put together, so two rows that show the same text in the same styles are equal.  A row is written
plainly or painted: with the escape of its style in front of each span and a reset behind it.
-/

namespace SourceDiagnostics

open Text

structure Span where
  text : String
  style : Style
deriving DecidableEq, Repr

structure Row where
  spans : List Span
deriving DecidableEq, Repr

/-- A style that a palette has no escape for. -/
structure MissingStyle where
  style : Style
deriving DecidableEq, Repr

def MissingStyle.message (fault : MissingStyle) : String :=
  "<Style." ++ constantName fault.style ++ ": " ++ quoted (word fault.style) ++ ">"

def MissingStyle.kind (_ : MissingStyle) : FaultKind := .key

def resetEscape : String := "\x1b[0m"

def standardEscape : Style → String
  | .bug => "\x1b[1;35m"
  | .error => "\x1b[1;31m"
  | .warning => "\x1b[1;33m"
  | .note => "\x1b[1;37m"
  | .help => "\x1b[1;38;5;255m"
  | .message => "\x1b[1;37m"
  | .gutter => "\x1b[34m"
  | .source => "\x1b[37m"
  | .primary => "\x1b[31m"
  | .secondary => "\x1b[34m"
  | .tertiary => "\x1b[36m"
  | .quaternary => "\x1b[32m"

namespace Row

/-- The row of the given pieces, without those that are empty. -/
def ofPieces (pieces : List (String × Style)) : Row :=
  ⟨(pieces.filter (fun piece => piece.1 ≠ "")).map fun piece => ⟨piece.1, piece.2⟩⟩

def plain (row : Row) : String := String.join (row.spans.map Span.text)

/-- The text of a row with an escape in front of each span and a reset behind it. -/
def painted (escape : Style → String) (row : Row) : String :=
  String.join (row.spans.map fun span => escape span.style ++ span.text ++ resetEscape)

/-- Paints a row from a palette that may lack styles. -/
def paintedFrom? (escape? : Style → Option String) (row : Row) : Except MissingStyle String := do
  let texts ← row.spans.mapM fun span =>
    match escape? span.style with
    | some escape => Except.ok (escape ++ span.text ++ resetEscape)
    | none => Except.error ⟨span.style⟩
  return String.join texts

/-- The text of a row, with the standard escapes if color is wanted. -/
def text (color : Bool) (row : Row) : String :=
  if color then row.painted standardEscape else row.plain

/-! ### Rows of pieces -/

theorem text_ne_empty_of_mem {pieces : List (String × Style)} {span : Span}
    (h : span ∈ (ofPieces pieces).spans) : span.text ≠ "" := by
  simp only [ofPieces, List.mem_map, List.mem_filter] at h
  obtain ⟨piece, ⟨_, hne⟩, rfl⟩ := h
  simpa using hne

/-- Dropping empty pieces does not change the text. -/
theorem plain_ofPieces (pieces : List (String × Style)) :
    (ofPieces pieces).plain = String.join (pieces.map Prod.fst) := by
  induction pieces with
  | nil => rfl
  | cons piece rest ih =>
      unfold plain ofPieces at ih ⊢
      by_cases h : piece.1 = ""
      · simpa [h] using ih
      · simp only [h, List.filter_cons_of_pos, ne_eq, not_false_eq_true, decide_true,
          List.map_cons, String.join_cons]
        exact congrArg (piece.1 ++ ·) ih

theorem paintedFrom?_of_total (escape : Style → String) (row : Row) :
    paintedFrom? (fun style => some (escape style)) row = .ok (row.painted escape) := by
  unfold paintedFrom? painted
  apply Result.bind_eq_ok_iff.mpr
  refine ⟨row.spans.map fun span => escape span.style ++ span.text ++ resetEscape, ?_, rfl⟩
  rw [Result.mapM_eq_ok_iff, List.map_map]
  rfl

end Row

end SourceDiagnostics
