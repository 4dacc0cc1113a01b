import SourceDiagnostics.Diagnostic.Basic
import SourceDiagnostics.Journal
import SourceDiagnostics.Reporting.Filter

/-!
# Bounded queues of diagnostics

A queue keeps reported diagnostics for later, oldest first.  It has a fixed capacity, and once it
is full it turns new diagnostics away and says so in the journal; what it holds is never evicted.
A diagnostic the filter rejects leaves no trace.

Draining takes everything out.  It can also be done one entry at a time: a `Drain` counts what it
has taken and is finished, for good, when it first finds the queue empty.
-/

namespace SourceDiagnostics

/-- A diagnostic with the stage and severity it was reported at. -/
structure Report where
  stage : Stage
  severity : Severity
  diagnostic : Diagnostic
deriving DecidableEq, Repr

/-- A capacity that leaves no room. -/
structure NoCapacity where
  capacity : Int
deriving DecidableEq, Repr

def NoCapacity.message (_ : NoCapacity) : String := "max_length must be positive"

/-- Reports a queue holds unless told otherwise. -/
def defaultCapacity : Nat := 1000

/-- A bounded queue of reports, oldest first. -/
structure Queue where
  capacity : Nat
  filter : Filter
  entries : List Report
  capacity_pos : 0 < capacity
deriving DecidableEq, Repr

namespace Queue

def of? (capacity : Int) (filter : Filter) : Except NoCapacity Queue :=
  if _ : capacity ≤ 0 then .error ⟨capacity⟩
  else .ok { capacity := capacity.toNat, filter, entries := [], capacity_pos := by omega }

def length (q : Queue) : Nat := q.entries.length

/-- Whether there is no room for another report. -/
def isFull (q : Queue) : Bool := q.capacity ≤ q.length

def allows (q : Queue) (stage : Stage) (severity : Severity) : Bool :=
  q.filter.allows stage severity

/-- Offers a report.  It is queued if the filter allows it and there is room; if there is none,
the journal says so. -/
def offer (q : Queue) (r : Report) : Queue × List JournalEntry :=
  if q.allows r.stage r.severity then
    if q.isFull then (q, [.queueFull q.length r.severity r.diagnostic.message])
    else ({ q with entries := q.entries ++ [r] }, [])
  else (q, [])

def pop (q : Queue) : Option Report × Queue :=
  match q.entries with
  | [] => (none, q)
  | r :: rest => (some r, { q with entries := rest })

/-- Takes out every report, oldest first, with the entry this makes in the journal. -/
def drain (q : Queue) : List Report × Queue × List JournalEntry :=
  (q.entries, { q with entries := [] }, [.queueDrained q.length])

end Queue

/-! ### Draining entry by entry -/

/-- A drain under way. -/
structure Drain where
  taken : Nat := 0
  finished : Bool := false
deriving DecidableEq, Repr

/-- The next report of a drain, or nothing once it is finished. -/
def Drain.next (drain : Drain) (q : Queue) :
    Option Report × Drain × Queue × List JournalEntry :=
  if drain.finished then (none, drain, q, [])
  else
    match q.pop with
    | (some r, rest) => (some r, { drain with taken := drain.taken + 1 }, rest, [])
    | (none, _) => (none, { drain with finished := true }, q, [.queueDrained drain.taken])

/-! ### What a queue holds -/

namespace Queue

theorem entries_of? {capacity : Int} {filter : Filter} {q : Queue}
    (h : of? capacity filter = .ok q) : q.entries = [] := by
  unfold of? at h
  split at h
  · cases h
  · cases h
    rfl

theorem isFull_eq_false_iff {q : Queue} : q.isFull = false ↔ q.length < q.capacity := by
  rw [isFull, decide_eq_false_iff_not, Nat.not_le]

theorem offer_of_not_allows {q : Queue} {r : Report} (h : q.allows r.stage r.severity = false) :
    q.offer r = (q, []) := by
  rw [offer, h]
  rfl

theorem offer_of_isFull {q : Queue} {r : Report} (h : q.allows r.stage r.severity = true)
    (full : q.isFull = true) :
    q.offer r = (q, [.queueFull q.length r.severity r.diagnostic.message]) := by
  rw [offer, h, full]
  rfl

theorem offer_of_room {q : Queue} {r : Report} (h : q.allows r.stage r.severity = true)
    (room : q.isFull = false) : q.offer r = ({ q with entries := q.entries ++ [r] }, []) := by
  rw [offer, h, room]
  rfl

/-- **Offering.**  A report that is allowed and finds room comes last. -/
theorem entries_offer (q : Queue) (r : Report) :
    (q.offer r).1.entries =
      if q.allows r.stage r.severity && !q.isFull then q.entries ++ [r] else q.entries := by
  unfold offer
  by_cases hallowed : q.allows r.stage r.severity
  · by_cases hfull : q.isFull
    · simp [hallowed, hfull]
    · simp [hallowed, hfull]
  · simp [hallowed]

theorem length_offer_le (q : Queue) (r : Report) (h : q.length ≤ q.capacity) :
    (q.offer r).1.length ≤ q.capacity := by
  unfold length at h ⊢
  rw [entries_offer]
  split
  · rename_i hroom
    have hnotFull : q.isFull = false := by
      simpa using (Bool.and_eq_true_iff.mp hroom).2
    rw [List.length_append, List.length_singleton]
    exact Nat.lt_of_not_le (of_decide_eq_false hnotFull)
  · exact h

theorem pop_eq_none_iff (q : Queue) : q.pop.1 = none ↔ q.entries = [] := by
  unfold pop
  cases q.entries <;> simp

/-- Popping takes the oldest report and leaves the others. -/
theorem pop_of_entries_eq_cons {q : Queue} {r : Report} {rest : List Report}
    (h : q.entries = r :: rest) : q.pop = (some r, { q with entries := rest }) := by
  unfold pop
  rw [h]

end Queue

end SourceDiagnostics
