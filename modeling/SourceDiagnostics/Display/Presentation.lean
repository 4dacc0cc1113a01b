import SourceDiagnostics.Display.Glyphs
import SourceDiagnostics.Text.DisplayWidth
import SourceDiagnostics.Text.Vocabulary

/-!
# Presentation settings

How rendered diagnostics look: whether they are colored, which glyphs draw them, and how wide a
tab and every other character is.  None of it depends on the diagnostic.  Whether an automatic
choice means color is decided where the output goes is known.
-/

namespace SourceDiagnostics

open Text

inductive ColorMode
  | always
  | never
  | auto
deriving DecidableEq, Repr

instance : Vocabulary ColorMode where
  noun := "ColorChoice"
  members := [.always, .never, .auto]
  word
    | .always => "always"
    | .never => "never"
    | .auto => "auto"
  mem_members a := by cases a <;> decide
  word_inj a b := by cases a <;> cases b <;> decide

/-- A tab width below zero, which no presentation can have. -/
structure NegativeTabWidth where
  tabWidth : Int
deriving DecidableEq, Repr

def NegativeTabWidth.message (_ : NegativeTabWidth) : String := "tab_width must be >= 0"

def defaultTabWidth : Nat := 4

/-- Settings that decide how rendered diagnostics look. -/
structure Presentation where
  color : ColorMode := .never
  ascii : Bool := false
  tabWidth : Nat := defaultTabWidth
  widths : CharWidths := .unicode

namespace Presentation

def of? (color : ColorMode) (ascii : Bool) (tabWidth : Int) :
    Except NegativeTabWidth Presentation :=
  if tabWidth < 0 then .error ⟨tabWidth⟩
  else .ok { color, ascii, tabWidth := tabWidth.toNat }

/-- The settings of a terminal that were left open: color if it can show it. -/
def terminalDefault : Presentation := { color := .auto }

def glyphs (p : Presentation) : Glyphs := if p.ascii then .ascii else .boxDrawing

/-- Whether output is colored.  The automatic choice colors only what goes to a terminal, and not
if the environment asks for no color; `isTerminal` is absent for output that cannot tell. -/
def useColor (p : Presentation) (noColor : Option String) (isTerminal : Option Bool) : Bool :=
  match p.color with
  | .always => true
  | .never => false
  | .auto => (noColor.all (· == "")) && isTerminal == some true

theorem glyphs_eq (p : Presentation) : p.glyphs = .ascii ∨ p.glyphs = .boxDrawing := by
  rw [glyphs]
  split
  · exact Or.inl rfl
  · exact Or.inr rfl

/-- Output that is not a terminal is colored only on demand. -/
theorem useColor_none (p : Presentation) (noColor : Option String) :
    p.useColor noColor none = decide (p.color = .always) := by
  unfold useColor
  cases p.color <;> simp

/-- The set of glyphs does not decide about color. -/
theorem useColor_ascii (p : Presentation) (ascii : Bool) (noColor : Option String)
    (isTerminal : Option Bool) :
    { p with ascii }.useColor noColor isTerminal = p.useColor noColor isTerminal := rfl

end Presentation

end SourceDiagnostics
