import SourceDiagnostics.Text.Vocabulary

/-!
# Pipeline stages

A stage is the part of a compiler pipeline that reports a diagnostic: a phase, and a free name
such as the format being parsed.  Filters compare stages, and listings sort them by phase word
and then by name.
-/

namespace SourceDiagnostics

open Text

inductive Phase
  | parsing
  | semantic
  | codegen
  | custom
deriving DecidableEq, Repr

instance : Vocabulary Phase where
  noun := "StageKind"
  members := [.parsing, .semantic, .codegen, .custom]
  word
    | .parsing => "parsing"
    | .semantic => "semantic"
    | .codegen => "codegen"
    | .custom => "custom"
  mem_members a := by cases a <;> decide
  word_inj a b := by cases a <;> cases b <;> decide

/-- A phase and the free name of what it works on, empty if there is none. -/
structure Stage where
  phase : Phase
  name : String := ""
deriving DecidableEq, Repr

namespace Stage

/-- A stage as messages show it: the phase, with the name in parentheses if there is one. -/
def describe (stage : Stage) : String :=
  if stage.name = "" then word stage.phase
  else word stage.phase ++ "(" ++ stage.name ++ ")"

/-- The order of listings: by the phase's word, then by name. -/
def before (a b : Stage) : Bool :=
  if word a.phase = word b.phase then decide (a.name ≤ b.name)
  else decide (word a.phase < word b.phase)

end Stage

end SourceDiagnostics
