import SourceDiagnostics.Text.Vocabulary

/-!
# Severities

The five severities in order, from a bug in the tool itself down to a hint.  The smaller rank is
the more severe one, so a filter admits a severity when its rank does not exceed the threshold.

A severity is named by a constant; one of them has two names.
-/

namespace SourceDiagnostics

open Text

inductive Severity
  | bug
  | error
  | warning
  | note
  | help
deriving DecidableEq, Repr

namespace Severity

/-- The severities from most to least severe. -/
def all : List Severity := [.bug, .error, .warning, .note, .help]

/-- The place of a severity in that order. -/
def rank : Severity → Nat
  | bug => 0
  | error => 1
  | warning => 2
  | note => 3
  | help => 4

/-- Every name of a severity; of two names for one severity the first is the usual one. -/
def names : List (String × Severity) :=
  [("BUG", bug), ("ERROR", error), ("WARNING", warning), ("WARN", warning), ("NOTE", note),
   ("HELP", help)]

def name : Severity → String
  | bug => "BUG"
  | error => "ERROR"
  | warning => "WARNING"
  | note => "NOTE"
  | help => "HELP"

def ofName? (text : String) : Except UnknownMember Severity :=
  match names.lookup text with
  | some severity => .ok severity
  | none => .error (.name text)

def ofRank? (n : Int) : Except UnknownMember Severity :=
  match all.find? (fun severity => (severity.rank : Int) == n) with
  | some severity => .ok severity
  | none => .error (.number "Level" n)

/-- What is said about text given where a rank is expected. -/
def rankExpected (text : String) : UnknownMember := .word "Level" text

/-- Whether a severity is at least as severe as a threshold. -/
def reaches (threshold severity : Severity) : Bool := severity.rank ≤ threshold.rank

/-! ### Ranks and names tell severities apart -/

theorem mem_all (severity : Severity) : severity ∈ all := by
  cases severity <;> decide

theorem rank_injective {a b : Severity} (h : a.rank = b.rank) : a = b := by
  revert h
  cases a <;> cases b <;> decide

theorem ofName?_name (severity : Severity) : ofName? severity.name = .ok severity := by
  cases severity <;> rfl

theorem ofRank?_rank (severity : Severity) : ofRank? severity.rank = .ok severity := by
  cases severity <;> rfl

end Severity

end SourceDiagnostics
