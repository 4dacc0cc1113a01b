import Mathlib.Data.List.Basic
import SourceDiagnostics.Reporting.Session
import SourceDiagnostics.Proofs.Reporting.Streams

/-!
# What sinks receive

Of the sinks of a session the queues and the terminals show what they are given.  They do not
remember that they were asked, and what their filter lets through when they are asked it lets
through when they are given it.  Giving such a sink reports one after another is told at once by
`Session.receiving`: a queue keeps as many as there is room for, a terminal writes their frames,
and nothing else in the session changes.
-/

namespace SourceDiagnostics

theorem set_of_getElem? {α : Type} {items : List α} {i : Nat} {item : α}
    (h : items[i]? = some item) : items.set i item = items := by
  obtain ⟨hi, rfl⟩ := List.getElem?_eq_some_iff.mp h
  exact List.set_getElem_self hi

namespace Session

/-! ### Queues and terminals -/

/-- A sink is a queue with a filter, or a terminal with one whose stream exists. -/
inductive HasSink (s : Session) (sink : Nat) (filter : Filter) : Prop
  | queue (q : Queue) (found : s.sinks[sink]? = some (.queue q)) (filtered : q.filter = filter)
  | terminal (stream : Nat) (p : Presentation) (target : Stream)
      (found : s.sinks[sink]? = some (.terminal stream p filter))
      (target_found : s.streams[stream]? = some target)

/-- What receiving a report comes to if the filter allows it: a queue takes it or, if it is full,
says so in the journal; a terminal writes it to its stream. -/
inductive Received (s : Session) (sink : Nat) (r : Report) :
    Except OutputFault Unit → Session → List JournalEntry → Prop
  | queued {q : Queue} (found : s.sinks[sink]? = some (.queue q)) (room : q.length < q.capacity) :
      Received s sink r (.ok ()) (s.setQueue sink { q with entries := q.entries ++ [r] }) []
  | turnedAway {q : Queue} (found : s.sinks[sink]? = some (.queue q))
      (full : q.capacity ≤ q.length) :
      Received s sink r (.ok ()) s [.queueFull q.length r.severity r.diagnostic.message]
  | written {stream : Nat} {p : Presentation} {filter : Filter} {target : Stream}
      (found : s.sinks[sink]? = some (.terminal stream p filter))
      (target_found : s.streams[stream]? = some target) :
      Received s sink r (writeFrame s.sources p s.noColor r.diagnostic target).1
        { s with
          streams := s.streams.set stream
            (writeFrame s.sources p s.noColor r.diagnostic target).2 } []

/-- The session after a sink received reports that its filter allows.  A queue has as many of them
as there was room for, and a terminal has written their frames. -/
def receiving (s : Session) (sink : Nat) (reports : List Report) : Session :=
  match s.sinks[sink]? with
  | some (.queue q) =>
      s.setQueue sink { q with entries := q.entries ++ reports.take (q.capacity - q.length) }
  | some (.terminal stream p _) =>
      { s with
        streams := s.streams.modify stream
          (writeFrames p s.noColor (reports.map fun r => (s.sources, r.diagnostic))) }
  | _ => s

theorem setQueue_of_found {s : Session} {sink : Nat} {q : Queue}
    (found : s.sinks[sink]? = some (.queue q)) : s.setQueue sink q = s := by
  rw [setQueue, set_of_getElem? found]

theorem receiving_queue {s : Session} {sink : Nat} {q : Queue}
    (found : s.sinks[sink]? = some (.queue q)) (reports : List Report) :
    s.receiving sink reports =
      s.setQueue sink { q with entries := q.entries ++ reports.take (q.capacity - q.length) } := by
  rw [receiving, found]

theorem receiving_terminal {s : Session} {sink stream : Nat} {p : Presentation} {filter : Filter}
    (found : s.sinks[sink]? = some (.terminal stream p filter)) (reports : List Report) :
    s.receiving sink reports =
      { s with
        streams := s.streams.modify stream
          (writeFrames p s.noColor (reports.map fun r => (s.sources, r.diagnostic))) } := by
  rw [receiving, found]

/-! ### One report -/

section OneReport

variable {s : Session} {sink : Nat} {filter : Filter}

theorem ask_of_hasSink (h : s.HasSink sink filter) (stage : Stage) (severity : Severity) :
    s.ask sink stage severity = (filter.allows stage severity, s) := by
  cases h with
  | queue q found filtered =>
      rw [ask, found, ← filtered]
      show (_, { s with sinks := s.sinks.set sink (.queue q) }) = _
      rw [set_of_getElem? found]
      rfl
  | terminal stream p target found target_found =>
      rw [ask, found]
      show (_, { s with sinks := s.sinks.set sink (.terminal stream p filter) }) = _
      rw [set_of_getElem? found]
      rfl

theorem received_give (h : s.HasSink sink filter) {r : Report}
    (hallowed : filter.allows r.stage r.severity = true) :
    s.Received sink r (s.give sink r).1 (s.give sink r).2.1 (s.give sink r).2.2 := by
  cases h with
  | queue q found filtered =>
      have hallows : q.allows r.stage r.severity = true := by rw [Queue.allows, filtered, hallowed]
      rw [give, found]
      cases hfull : q.isFull with
      | true =>
          simp only [Queue.offer_of_isFull hallows hfull]
          rw [← setQueue, setQueue_of_found found]
          exact .turnedAway found (of_decide_eq_true hfull)
      | false =>
          simp only [Queue.offer_of_room hallows hfull]
          exact .queued found (Queue.isFull_eq_false_iff.mp hfull)
  | terminal stream p target found target_found =>
      simp only [give, found, hallowed, target_found, if_true]
      exact .written found target_found

theorem Received.session_eq {r : Report} {result : Except OutputFault Unit} {after : Session}
    {journal : List JournalEntry} (h : s.Received sink r result after journal) :
    after = s.receiving sink [r] := by
  cases h with
  | queued found room =>
      have hroom : 0 < _ := Nat.sub_pos_of_lt room
      rw [receiving_queue found, List.take_of_length_le hroom]
  | turnedAway found full =>
      rw [receiving_queue found, Nat.sub_eq_zero_of_le full, List.take_zero, List.append_nil,
        setQueue_of_found found]
  | written found target_found =>
      rw [receiving_terminal found, List.modify_eq_set_getElem?, target_found]
      rfl

end OneReport

/-! ### Reports one after another -/

section Receiving

variable {s : Session} {sink : Nat} {filter : Filter}

theorem receiving_nil (h : s.HasSink sink filter) : s.receiving sink [] = s := by
  cases h with
  | queue q found filtered =>
      rw [receiving_queue found, List.take_nil, List.append_nil, setQueue_of_found found]
  | terminal stream p target found target_found =>
      rw [receiving_terminal found]
      show { s with streams := s.streams.modify stream id } = s
      rw [List.modify_id]

/-- What one batch of reports leaves of the room of a queue is there for the next. -/
theorem receiving_append (h : s.HasSink sink filter) (reports others : List Report) :
    (s.receiving sink reports).receiving sink others = s.receiving sink (reports ++ others) := by
  cases h with
  | queue q found filtered =>
      have hlt : sink < s.sinks.length := (List.getElem?_eq_some_iff.mp found).1
      have hroom : q.capacity - (q.entries ++ reports.take (q.capacity - q.length)).length =
          q.capacity - q.length - reports.length := by
        rw [List.length_append, List.length_take, Queue.length]
        omega
      rw [receiving_queue found, receiving_queue (List.getElem?_set_self hlt),
        receiving_queue found, setQueue, setQueue, setQueue, List.set_set, List.take_append,
        ← List.append_assoc, ← hroom]
      rfl
  | terminal stream p target found target_found =>
      have hlater : (s.receiving sink reports).sinks[sink]? = some (.terminal stream p filter) := by
        rw [receiving_terminal found]
        exact found
      rw [receiving_terminal hlater, receiving_terminal found, receiving_terminal found,
        List.modify_modify_eq, List.map_append]
      refine congrArg (fun f => { s with streams := s.streams.modify stream f }) ?_
      exact funext fun target => (List.foldl_append ..).symm

theorem hasSink_receiving (h : s.HasSink sink filter) (reports : List Report) :
    (s.receiving sink reports).HasSink sink filter := by
  cases h with
  | queue q found filtered =>
      have hlt : sink < s.sinks.length := (List.getElem?_eq_some_iff.mp found).1
      rw [receiving_queue found]
      exact .queue _ (List.getElem?_set_self hlt) filtered
  | terminal stream p target found target_found =>
      rw [receiving_terminal found]
      refine .terminal stream p
        (writeFrames p s.noColor (reports.map fun r => (s.sources, r.diagnostic)) target) found ?_
      simp [target_found]

theorem registries_receiving (s : Session) (sink : Nat) (reports : List Report) :
    (s.receiving sink reports).registries = s.registries := by
  unfold receiving
  split <;> rfl

theorem installed?_receiving (s : Session) (sink : Nat) (reports : List Report) (registry : Nat) :
    (s.receiving sink reports).installed? registry = s.installed? registry := by
  rw [installed?, registries_receiving, installed?]

theorem sinks_receiving_of_ne {other : Nat} (h : sink ≠ other) (s : Session)
    (reports : List Report) : (s.receiving sink reports).sinks[other]? = s.sinks[other]? := by
  unfold receiving
  split
  · exact List.getElem?_set_ne h
  · rfl
  · rfl

end Receiving

end Session

end SourceDiagnostics
