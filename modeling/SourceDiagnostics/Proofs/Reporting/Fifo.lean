import SourceDiagnostics.Reporting.Queue

/-!
# Queues are first in, first out

A queue is called by those who report and by those who take reports out, in any order.  What has
come out of it, followed by what is still in it, is what it accepted, in order: `Queue.run_fifo`.
A report is accepted if the filter allows it and there is room when it is offered, so whether it is
depends on all calls before.

Nothing is lost or gained in one call (`Queue.entries_append_accepted`), and a run is made of
calls.  Draining entry by entry to the end comes to taking out everything at once,
`Drain.exhaust_eq`.
-/

namespace SourceDiagnostics

/-! ### Draining to the end -/

namespace Drain

theorem next_of_entries_eq_nil {drain : Drain} (hopen : drain.finished = false) {q : Queue}
    (h : q.entries = []) :
    drain.next q = (none, { drain with finished := true }, q, [.queueDrained drain.taken]) := by
  rw [next, hopen, Queue.pop, h]
  rfl

theorem next_of_entries_eq_cons {drain : Drain} (hopen : drain.finished = false) {q : Queue}
    {r : Report} {rest : List Report} (h : q.entries = r :: rest) :
    drain.next q =
      (some r, { drain with taken := drain.taken + 1 }, { q with entries := rest }, []) := by
  rw [next, hopen, Queue.pop_of_entries_eq_cons h]
  rfl

theorem length_entries_next {drain further : Drain} {q rest : Queue} {r : Report}
    {journal : List JournalEntry} (h : drain.next q = (some r, further, rest, journal)) :
    rest.entries.length < q.entries.length := by
  cases hopen : drain.finished with
  | true =>
      rw [next, hopen] at h
      cases h
  | false =>
      cases hentries : q.entries with
      | nil =>
          rw [next_of_entries_eq_nil hopen hentries] at h
          cases h
      | cons first others =>
          rw [next_of_entries_eq_cons hopen hentries] at h
          cases h
          exact Nat.lt_succ_self _

/-- Takes reports out until there is none: what comes out, what is left and the journal. -/
def exhaust (drain : Drain) (q : Queue) : List Report × Queue × List JournalEntry :=
  match _h : drain.next q with
  | (none, _, rest, journal) => ([], rest, journal)
  | (some r, further, rest, journal) =>
      let (reports, left, others) := further.exhaust rest
      (r :: reports, left, journal ++ others)
termination_by q.entries.length
decreasing_by exact length_entries_next _h

/-- **Draining.**  To the end it takes out what there is, and the journal has the number. -/
theorem exhaust_eq (drain : Drain) (hopen : drain.finished = false) (q : Queue) :
    drain.exhaust q =
      (q.entries, { q with entries := [] }, [.queueDrained (drain.taken + q.length)]) := by
  obtain ⟨capacity, filter, entries, hpos⟩ := q
  induction entries generalizing drain with
  | nil =>
      rw [exhaust]
      split
      · rename_i h
        rw [next_of_entries_eq_nil hopen rfl] at h
        cases h
        rfl
      · rename_i h
        rw [next_of_entries_eq_nil hopen rfl] at h
        cases h
  | cons r rest ih =>
      rw [exhaust]
      split
      · rename_i h
        rw [next_of_entries_eq_cons hopen rfl] at h
        cases h
      · rename_i h
        rw [next_of_entries_eq_cons hopen rfl] at h
        cases h
        rw [ih]
        · simp [Queue.length, Nat.add_assoc, Nat.add_comm 1]
        · exact hopen

theorem exhaust_new (q : Queue) : exhaust {} q = q.drain := by
  rw [exhaust_eq {} rfl, Nat.zero_add]
  rfl

end Drain

/-! ### Calls -/

inductive QueueCall
  | offer (r : Report)
  | pop
  /-- Drains to the end. -/
  | drain
  | length
deriving DecidableEq, Repr

inductive QueueAnswer
  | nothing
  | report (r : Option Report)
  | reports (rs : List Report)
  | number (n : Nat)
deriving DecidableEq, Repr

/-- The reports that an answer hands out. -/
def QueueAnswer.handedOut : QueueAnswer → List Report
  | nothing => []
  | report r => r.toList
  | reports rs => rs
  | number _ => []

/-- The report that a call adds to a queue with a capacity and a filter, if it is one of those
allowed and there are few enough reports in the queue. -/
def QueueCall.accepted (capacity : Nat) (filter : Filter) (queued : Nat) : QueueCall → List Report
  | offer r => if filter.allows r.stage r.severity = true ∧ queued < capacity then [r] else []
  | _ => []

namespace Queue

/-- What a call answers, the queue afterwards and what the journal says. -/
def call (q : Queue) : QueueCall → QueueAnswer × Queue × List JournalEntry
  | .offer r => (.nothing, q.offer r)
  | .pop => (.report q.pop.1, q.pop.2, [])
  | .drain =>
      let (reports, rest, journal) := Drain.exhaust {} q
      (.reports reports, rest, journal)
  | .length => (.number q.length, q, [])

/-- The queue after some calls. -/
def after (q : Queue) (calls : List QueueCall) : Queue :=
  calls.foldl (fun q call => (q.call call).2.1) q

/-- All reports that calls hand out, in order. -/
def handedOut (q : Queue) : List QueueCall → List Report
  | [] => []
  | call :: rest => (q.call call).1.handedOut ++ (q.call call).2.1.handedOut rest

/-- All reports that calls add, in order. -/
def accepted (capacity : Nat) (filter : Filter) (q : Queue) : List QueueCall → List Report
  | [] => []
  | call :: rest =>
      call.accepted capacity filter q.length ++ accepted capacity filter (q.call call).2.1 rest

/-! ### One call -/

theorem call_drain (q : Queue) :
    q.call .drain = (.reports q.entries, { q with entries := [] }, [.queueDrained q.length]) := by
  rw [call, Drain.exhaust_new]
  rfl

/-- Capacity and filter are settled when the queue is made. -/
theorem settings_call (q : Queue) (call : QueueCall) :
    (q.call call).2.1.capacity = q.capacity ∧ (q.call call).2.1.filter = q.filter := by
  cases call with
  | offer r =>
      rw [Queue.call, offer]
      split
      · split <;> exact ⟨rfl, rfl⟩
      · exact ⟨rfl, rfl⟩
  | pop =>
      rw [Queue.call, pop]
      split <;> exact ⟨rfl, rfl⟩
  | drain =>
      rw [call_drain]
      exact ⟨rfl, rfl⟩
  | length => exact ⟨rfl, rfl⟩

/-- **One call.**  What was in the queue and what the call adds are what it hands out and what is in
the queue afterwards. -/
theorem entries_append_accepted (q : Queue) (call : QueueCall) :
    q.entries ++ call.accepted q.capacity q.filter q.length =
      (q.call call).1.handedOut ++ (q.call call).2.1.entries := by
  cases call with
  | offer r =>
      show q.entries ++ (if _ then [r] else []) = [] ++ (q.offer r).1.entries
      rw [List.nil_append]
      cases hallowed : q.filter.allows r.stage r.severity with
      | false =>
          rw [offer_of_not_allows hallowed, if_neg fun h => Bool.false_ne_true h.1,
            List.append_nil]
      | true =>
          by_cases hroom : q.length < q.capacity
          · rw [offer_of_room hallowed (isFull_eq_false_iff.mpr hroom), if_pos ⟨rfl, hroom⟩]
          · have hfull : q.isFull = true := decide_eq_true (Nat.le_of_not_lt hroom)
            rw [offer_of_isFull hallowed hfull, if_neg fun h => hroom h.2, List.append_nil]
  | pop =>
      show q.entries ++ [] = q.pop.1.toList ++ q.pop.2.entries
      rw [List.append_nil, pop]
      cases hentries : q.entries with
      | nil => exact hentries.symm
      | cons r rest => rfl
  | drain =>
      rw [call_drain]
      rfl
  | length => exact List.append_nil _

theorem length_call_le {q : Queue} (h : q.length ≤ q.capacity) (call : QueueCall) :
    (q.call call).2.1.length ≤ q.capacity := by
  cases call with
  | offer r => exact length_offer_le q r h
  | pop =>
      rw [Queue.call, pop, length] at *
      split
      · exact h
      · rename_i r rest hentries
        rw [hentries, List.length_cons] at h
        exact Nat.le_of_succ_le h
  | drain =>
      rw [call_drain]
      exact Nat.zero_le _
  | length => exact h

/-! ### Runs -/

theorem settings_after (q : Queue) (calls : List QueueCall) :
    (q.after calls).capacity = q.capacity ∧ (q.after calls).filter = q.filter := by
  induction calls generalizing q with
  | nil => exact ⟨rfl, rfl⟩
  | cons call rest ih =>
      obtain ⟨hcapacity, hfilter⟩ := ih (q.call call).2.1
      obtain ⟨hcapacity', hfilter'⟩ := q.settings_call call
      exact ⟨hcapacity.trans hcapacity', hfilter.trans hfilter'⟩

theorem length_after_le {q : Queue} (h : q.length ≤ q.capacity) (calls : List QueueCall) :
    (q.after calls).length ≤ q.capacity := by
  induction calls generalizing q with
  | nil => exact h
  | cons call rest ih =>
      have hcall := length_call_le h call
      obtain ⟨hcapacity, _⟩ := q.settings_call call
      rw [← hcapacity] at hcall ⊢
      exact ih hcall

/-- **Runs.**  Nothing is lost, gained or reordered between calls. -/
theorem entries_append_accepted_run (q : Queue) (calls : List QueueCall) :
    q.entries ++ accepted q.capacity q.filter q calls =
      q.handedOut calls ++ (q.after calls).entries := by
  induction calls generalizing q with
  | nil => exact List.append_nil _
  | cons call rest ih =>
      have hrest := ih (q.call call).2.1
      obtain ⟨hcapacity, hfilter⟩ := q.settings_call call
      rw [hcapacity, hfilter] at hrest
      calc q.entries ++ (call.accepted q.capacity q.filter q.length ++
            accepted q.capacity q.filter (q.call call).2.1 rest)
        _ = (q.call call).1.handedOut ++ ((q.call call).2.1.entries ++
              accepted q.capacity q.filter (q.call call).2.1 rest) := by
            rw [← List.append_assoc, entries_append_accepted, List.append_assoc]
        _ = (q.call call).1.handedOut ++ ((q.call call).2.1.handedOut rest ++
              ((q.call call).2.1.after rest).entries) := by rw [hrest]
        _ = _ := (List.append_assoc ..).symm

/-- What the next call comes to on a queue with a capacity and a filter. -/
structure AnswersCalls (capacity : Nat) (filter : Filter) (q : Queue) : Prop where
  rejected (r : Report) : filter.allows r.stage r.severity = false →
    q.call (.offer r) = (.nothing, q, [])
  /-- The one warning names the number of reports there is room for. -/
  turnedAway (r : Report) : filter.allows r.stage r.severity = true → q.length = capacity →
    ∃ warning, q.call (.offer r) = (.nothing, q, [warning]) ∧ warning.importance = .warning ∧
      warning.text = "In-memory diagnostic cache is full (" ++ toString capacity ++
        "); dropping " ++ r.severity.name.toLower ++ " diagnostic: " ++ r.diagnostic.message
  added (r : Report) : filter.allows r.stage r.severity = true → q.length < capacity →
    q.call (.offer r) = (.nothing, { q with entries := q.entries ++ [r] }, [])
  popped (r : Report) (rest : List Report) : q.entries = r :: rest →
    q.call .pop = (.report (some r), { q with entries := rest }, [])
  pop_eq_none_iff : (q.call .pop).1 = .report none ↔ q.entries = []
  drained : q.call .drain =
    (.reports q.entries, { q with entries := [] }, [.queueDrained q.length])
  counted : q.call .length = (.number q.length, q, [])

theorem answersCalls (q : Queue) : q.AnswersCalls q.capacity q.filter where
  rejected r hrejected := by rw [call, offer_of_not_allows hrejected]
  turnedAway r hallowed hlength := by
    have hfull : q.isFull = true := decide_eq_true (Nat.le_of_eq hlength.symm)
    refine ⟨.queueFull q.length r.severity r.diagnostic.message, ?_, rfl, ?_⟩
    · rw [call, offer_of_isFull hallowed hfull]
    · rw [← hlength]
      rfl
  added r hallowed hroom := by
    rw [call, offer_of_room hallowed (isFull_eq_false_iff.mpr hroom)]
  popped r rest hentries := by rw [call, pop_of_entries_eq_cons hentries]
  pop_eq_none_iff := by
    rw [← q.pop_eq_none_iff]
    exact ⟨QueueAnswer.report.inj, congrArg QueueAnswer.report⟩
  drained := q.call_drain
  counted := rfl

/-- **First in, first out.**  Let a queue have room for at least one report, and let it be offered
reports, popped, drained and counted in any order.  It never has more reports than there is room
for.  Those that have come out, followed by those still in it, are the reports that were allowed
when there was room, in the order they were offered.  The next call is answered as
`AnswersCalls` says. -/
theorem run_fifo {capacity : Int} (h : 1 ≤ capacity) (filter : Filter) :
    ∃ new, of? capacity filter = .ok new ∧ ∀ calls : List QueueCall,
      ((new.after calls).length : Int) ≤ capacity ∧
      new.handedOut calls ++ (new.after calls).entries =
        accepted capacity.toNat filter new calls ∧
      (new.after calls).AnswersCalls capacity.toNat filter := by
  have hpos : ¬ capacity ≤ 0 := by omega
  refine ⟨_, dif_neg hpos, fun calls => ?_⟩
  generalize hnew : Queue.mk capacity.toNat filter [] _ = new
  have hcapacity : new.capacity = capacity.toNat := by rw [← hnew]
  have hfilter : new.filter = filter := by rw [← hnew]
  have hempty : new.entries = [] := by rw [← hnew]
  refine ⟨?_, ?_, ?_⟩
  · have hle : new.length ≤ new.capacity := by
      rw [length, hempty]
      exact Nat.zero_le _
    have hafter := length_after_le hle calls
    omega
  · have hrun := entries_append_accepted_run new calls
    rw [hempty, List.nil_append, hcapacity, hfilter] at hrun
    exact hrun.symm
  · obtain ⟨hcapacity', hfilter'⟩ := new.settings_after calls
    have hanswers := (new.after calls).answersCalls
    rwa [hcapacity', hfilter', hcapacity, hfilter] at hanswers

/-- A run in which room is used up and comes back. -/
def refill : List QueueCall :=
  [.offer ⟨⟨.parsing, "SVG"⟩, .error, { severity := .error, message := "bad path" }⟩,
    .offer ⟨⟨.parsing, "SVG"⟩, .note, { severity := .note, message := "not allowed" }⟩,
    .offer ⟨⟨.codegen, ""⟩, .warning, { severity := .warning, message := "unused" }⟩,
    .offer ⟨⟨.codegen, ""⟩, .error, { severity := .error, message := "no room" }⟩,
    .pop,
    .length,
    .offer ⟨⟨.semantic, ""⟩, .bug, { severity := .bug, message := "room again" }⟩]

theorem run_fifo_refill :
    ∃ new, of? 2 { threshold := .warning } = .ok new ∧
      (new.handedOut refill).map (fun r => r.diagnostic.message) = ["bad path"] ∧
      (new.after refill).entries.map (fun r => r.diagnostic.message) = ["unused", "room again"] ∧
      new.handedOut refill ++ (new.after refill).entries =
        accepted 2 { threshold := .warning } new refill ∧
      (new.after refill).call .drain =
        (.reports (new.after refill).entries, { new.after refill with entries := [] },
          [.queueDrained 2]) := by
  obtain ⟨new, hnew, hruns⟩ :=
    run_fifo (show (1 : Int) ≤ 2 by decide) { threshold := .warning }
  obtain ⟨_, hkept, hanswers⟩ := hruns refill
  refine ⟨new, hnew, ?_, ?_, hkept, ?_⟩
  · cases hnew
    rfl
  · cases hnew
    rfl
  · have hdrained := hanswers.drained
    cases hnew
    exact hdrained

end Queue

end SourceDiagnostics
