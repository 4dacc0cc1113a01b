import SourceDiagnostics.Diagnostic.Severity
import SourceDiagnostics.Diagnostic.Label

/-!
# Diagnostics

A diagnostic is a severity with a message, an optional numeric code, notes and labels.  It is a
plain value: every change makes a new one, so a diagnostic that is being rendered cannot change
under the renderer.  Notes and labels keep the order in which they were added.
-/

namespace SourceDiagnostics

/-- A code below zero, which no diagnostic can have. -/
structure NegativeCode where
  code : Int
deriving DecidableEq, Repr

def NegativeCode.message (fault : NegativeCode) : String :=
  "Diagnostic.code must be >= 0, got " ++ toString fault.code

/-- A report about source text. -/
structure Diagnostic where
  severity : Severity
  message : String
  code : Option Nat := none
  notes : List String := []
  labels : List Label := []
deriving DecidableEq, Repr

namespace Diagnostic

/-- A code read from a number. -/
def code? (code : Int) : Except NegativeCode Nat :=
  if code < 0 then .error ⟨code⟩ else .ok code.toNat

/-- A diagnostic without notes or labels. -/
def of? (severity : Severity) (message : String) (code : Option Int) :
    Except NegativeCode Diagnostic := do
  let code ← code.mapM code?
  return { severity, message, code }

def withSeverity (d : Diagnostic) (severity : Severity) : Diagnostic := { d with severity }

def withMessage (d : Diagnostic) (message : String) : Diagnostic := { d with message }

def withCode? (d : Diagnostic) (code : Option Int) : Except NegativeCode Diagnostic := do
  let code ← code.mapM code?
  return { d with code }

def withNote (d : Diagnostic) (note : String) : Diagnostic :=
  { d with notes := d.notes ++ [note] }

def withLabels (d : Diagnostic) (labels : List Label) : Diagnostic :=
  { d with labels := d.labels ++ labels }

def withLabel (d : Diagnostic) (label : Label) : Diagnostic := d.withLabels [label]

/-- The highlighted regions of all labels, in the order the labels were added. -/
def highlights (d : Diagnostic) : List Highlight := d.labels.flatMap Label.highlights

/-! ### Highlights are flattened label by label -/

theorem highlights_withLabels (d : Diagnostic) (labels : List Label) :
    (d.withLabels labels).highlights = d.highlights ++ labels.flatMap Label.highlights := by
  simp [highlights, withLabels]

theorem highlights_withLabel (d : Diagnostic) (label : Label) :
    (d.withLabel label).highlights = d.highlights ++ label.highlights := by
  simp [withLabel, highlights_withLabels]

theorem code?_eq_ok_iff (code : Int) (n : Nat) : code? code = .ok n ↔ (n : Int) = code := by
  unfold code?
  constructor
  · intro h
    split at h
    · cases h
    · cases h
      omega
  · rintro rfl
    rw [if_neg (by omega)]
    rfl

end Diagnostic

end SourceDiagnostics
