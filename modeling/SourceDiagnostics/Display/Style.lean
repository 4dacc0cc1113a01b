import SourceDiagnostics.Diagnostic.Severity
import SourceDiagnostics.Diagnostic.Label

/-!
# Styles

Rendered text carries the meaning of each piece, not its color: whether it is part of the header
of a bug, source text, or the underline of a secondary region.  Choosing colors, or none, is left
to whoever shows it.
-/

namespace SourceDiagnostics

open Text

/-- What a piece of rendered text is. -/
inductive Style
  /-- Header of a diagnostic of each severity. -/
  | bug
  | error
  | warning
  | note
  | help
  /-- Message in a header. -/
  | message
  /-- Line numbers, borders, lanes and source names. -/
  | gutter
  /-- Source text and the text of notes. -/
  | source
  /-- Underlines and brackets of each emphasis. -/
  | primary
  | secondary
  | tertiary
  | quaternary
deriving DecidableEq, Repr

instance : Vocabulary Style where
  noun := "Style"
  members :=
    [.bug, .error, .warning, .note, .help, .message, .gutter, .source, .primary, .secondary,
     .tertiary, .quaternary]
  word
    | .bug => "bug"
    | .error => "error"
    | .warning => "warning"
    | .note => "note"
    | .help => "help"
    | .message => "message"
    | .gutter => "gutter"
    | .source => "source"
    | .primary => "primary"
    | .secondary => "secondary"
    | .tertiary => "tertiary"
    | .quaternary => "quaternary"
  mem_members a := by cases a <;> decide
  word_inj a b := by cases a <;> cases b <;> decide

namespace Style

def ofSeverity : Severity → Style
  | .bug => .bug
  | .error => .error
  | .warning => .warning
  | .note => .note
  | .help => .help

def ofEmphasis : Emphasis → Style
  | .primary => .primary
  | .secondary => .secondary
  | .tertiary => .tertiary
  | .quaternary => .quaternary

/-- An emphasis and its style go by the same word. -/
theorem word_ofEmphasis (emphasis : Emphasis) : word (ofEmphasis emphasis) = word emphasis := by
  cases emphasis <;> rfl

end Style

end SourceDiagnostics
