import SourceDiagnostics.Diagnostic.Severity
import SourceDiagnostics.Diagnostic.Stage

/-!
# Filters

A filter decides which diagnostics are reported: those at least as severe as its threshold, from
the stages it lists.  A filter that lists no stages is different from one whose list is empty: the
first admits every stage, the second none.  Restricting a filter to a stage starts a list, or adds
to the one there is.
-/

namespace SourceDiagnostics

structure Filter where
  threshold : Severity := .help
  stages : Option (List Stage) := none
deriving DecidableEq, Repr

namespace Filter

def everything : Filter := {}

def admitsStage (filter : Filter) (stage : Stage) : Bool :=
  match filter.stages with
  | none => true
  | some stages => stages.contains stage

def allows (filter : Filter) (stage : Stage) (severity : Severity) : Bool :=
  filter.threshold.reaches severity && filter.admitsStage stage

def withThreshold (filter : Filter) (threshold : Severity) : Filter := { filter with threshold }

/-- The filter restricted to a stage and those it lists already. -/
def withStage (filter : Filter) (stage : Stage) : Filter :=
  { filter with stages := some ((filter.stages.getD []).insert stage) }

/-- The stages a filter lists, each once and in listing order. -/
def listing (filter : Filter) : Option (List Stage) :=
  filter.stages.map fun stages => stages.eraseDups.mergeSort Stage.before

/-! ### Chains of changes -/

@[simp] theorem admitsStage_withThreshold (filter : Filter) (threshold : Severity)
    (stage : Stage) : (filter.withThreshold threshold).admitsStage stage =
      filter.admitsStage stage := rfl

@[simp] theorem threshold_withStage (filter : Filter) (stage : Stage) :
    (filter.withStage stage).threshold = filter.threshold := rfl

/-- A stage added is admitted, next to those listed before; a filter without a list forgets that
it admitted everything. -/
theorem admitsStage_withStage (filter : Filter) (added stage : Stage) :
    (filter.withStage added).admitsStage stage =
      (decide (stage = added) || (filter.stages.getD []).contains stage) := by
  apply Bool.eq_iff_iff.mpr
  simp [admitsStage, withStage]

theorem allows_iff (filter : Filter) (stage : Stage) (severity : Severity) :
    filter.allows stage severity = true ↔
      severity.rank ≤ filter.threshold.rank ∧ filter.admitsStage stage = true := by
  simp [allows, Severity.reaches]

end Filter

end SourceDiagnostics
