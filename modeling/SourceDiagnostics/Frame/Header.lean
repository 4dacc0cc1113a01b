import SourceDiagnostics.Diagnostic.Basic
import SourceDiagnostics.Display.Row
import SourceDiagnostics.Text.Padding

/-!
# The header of a diagnostic

The first row of a frame: a token for the severity, the code if there is one, and the message.
Tokens are aligned to one width and codes are filled with zeros, so the headers of a list of
diagnostics line up; a code too long for its field is shown whole.
-/

namespace SourceDiagnostics

open Text

def tokenWidth : Nat := 5

/-- Digits a code is filled up to. -/
def codeWidth : Nat := 6

/-- The word a header uses for a severity. -/
def Severity.headerWord : Severity → String
  | .bug => "bug"
  | .error => "error"
  | .warning => "warn"
  | .note => "note"
  | .help => "help"

def Severity.token (severity : Severity) : String := alignRight tokenWidth severity.headerWord

/-- A code in brackets, filled with zeros. -/
def codeToken (code : Int) : String := "[" ++ zeroPadded codeWidth code ++ "]"

namespace Diagnostic

/-- The code of a diagnostic as its header shows it; nothing for a diagnostic without one. -/
def codeText (d : Diagnostic) : String :=
  match d.code with
  | some code => codeToken code
  | none => ""

def headerRow (d : Diagnostic) : Row :=
  let style := Style.ofSeverity d.severity
  Row.ofPieces
    [(d.severity.token, style), (d.codeText, style), (": " ++ d.message, .message)]

theorem plain_headerRow (d : Diagnostic) :
    d.headerRow.plain = d.severity.token ++ d.codeText ++ ": " ++ d.message := by
  rw [headerRow, Row.plain_ofPieces]
  simp [String.append_assoc]

end Diagnostic

theorem Severity.length_token (severity : Severity) : severity.token.length = tokenWidth := by
  rw [token, length_alignRight]
  cases severity <;> decide

end SourceDiagnostics
