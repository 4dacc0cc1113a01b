import SourceDiagnostics.Reporting.Filter

/-!
# Filters made by chains of changes

A filter is configured step by step: a change sets the threshold or adds a stage.  What the result
allows is told without going through the steps.  Of the thresholds only the last one counts.  Of
the stages all count, and those listed from the start; but a filter that admits every stage does
so only as long as none is added.  So changes of the two kinds do not interfere, and the order of
the stages does not matter.
-/

namespace SourceDiagnostics

inductive FilterChange
  | threshold (severity : Severity)
  | stage (added : Stage)
deriving DecidableEq, Repr

namespace FilterChange

def threshold? : FilterChange → Option Severity
  | .threshold severity => some severity
  | .stage _ => none

def stage? : FilterChange → Option Stage
  | .threshold _ => none
  | .stage added => some added

end FilterChange

def Filter.change (filter : Filter) : FilterChange → Filter
  | .threshold severity => filter.withThreshold severity
  | .stage added => filter.withStage added

/-- A filter to start with and what is changed about it, in order. -/
structure FilterChain where
  initial : Filter
  changes : List FilterChange := []
deriving DecidableEq, Repr

namespace FilterChain

def filter (chain : FilterChain) : Filter := chain.changes.foldl Filter.change chain.initial

/-- The threshold set last. -/
def threshold (chain : FilterChain) : Severity :=
  (chain.changes.filterMap FilterChange.threshold?).getLastD chain.initial.threshold

def stagesAdded (chain : FilterChain) : List Stage := chain.changes.filterMap FilterChange.stage?

/-- Whether a stage is admitted: every one is if none was ever named. -/
def AdmitsStage (chain : FilterChain) (stage : Stage) : Prop :=
  (chain.initial.stages = none ∧ chain.stagesAdded = []) ∨
    stage ∈ chain.initial.stages.getD [] ∨ stage ∈ chain.stagesAdded

/-- What the filter at the end of a chain allows. -/
def Allows (chain : FilterChain) (stage : Stage) (severity : Severity) : Prop :=
  severity.rank ≤ chain.threshold.rank ∧ chain.AdmitsStage stage

instance (chain : FilterChain) (stage : Stage) (severity : Severity) :
    Decidable (chain.Allows stage severity) :=
  inferInstanceAs (Decidable (_ ∧ (_ ∨ _)))

theorem threshold_filter (chain : FilterChain) : chain.filter.threshold = chain.threshold := by
  obtain ⟨initial, changes⟩ := chain
  induction changes generalizing initial with
  | nil => rfl
  | cons change rest ih =>
      show (FilterChain.mk (initial.change change) rest).filter.threshold = _
      rw [ih]
      cases change with
      | threshold severity => exact List.getLastD_cons.symm
      | stage added => rfl

theorem admitsStage_filter (chain : FilterChain) (stage : Stage) :
    chain.filter.admitsStage stage = true ↔ chain.AdmitsStage stage := by
  obtain ⟨initial, changes⟩ := chain
  induction changes generalizing initial with
  | nil =>
      rw [filter, List.foldl_nil, Filter.admitsStage, AdmitsStage, stagesAdded]
      cases initial.stages with
      | none => simp
      | some stages => simp
  | cons change rest ih =>
      show (FilterChain.mk (initial.change change) rest).filter.admitsStage stage = true ↔ _
      rw [ih]
      cases change with
      | threshold severity => rfl
      | stage added =>
          simp [AdmitsStage, stagesAdded, Filter.change, Filter.withStage, FilterChange.stage?,
            or_left_comm, or_assoc]

/-- **Chains.**  The filter at the end allows what the chain as a whole says. -/
theorem allows_filter (chain : FilterChain) (stage : Stage) (severity : Severity) :
    chain.filter.allows stage severity = true ↔ chain.Allows stage severity := by
  rw [Filter.allows_iff, threshold_filter, admitsStage_filter, Allows]

end FilterChain

end SourceDiagnostics
