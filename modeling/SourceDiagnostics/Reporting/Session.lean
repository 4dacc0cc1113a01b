import SourceDiagnostics.Reporting.Queue
import SourceDiagnostics.Reporting.Stream

/-!
# Reporting sessions

A session is the shared state that reporting works on: the registered sources, the streams, the
sinks diagnostics can go to, and the registries through which components report.  Sinks and
registries are shared, so they are addressed by handles, numbered in the order they were made.

A registry is given its sink once.  Reporting through it is lazy: the sink is asked whether it
would take a diagnostic of a stage and severity, and only then is the diagnostic built.  Building
is an action of any monad, so a caller can observe whether it ran.  The reported severity is
authoritative, whatever the built diagnostic says.
-/

namespace SourceDiagnostics

/-! ### Sinks -/

/-- A call made to a sink. -/
inductive SinkCall
  /-- It was asked whether it would take a diagnostic. -/
  | asked (stage : Stage) (severity : Severity)
  /-- It was given one. -/
  | given (r : Report)
deriving DecidableEq, Repr

/-- Where reported diagnostics go. -/
inductive Sink
  /-- They are queued for later. -/
  | queue (q : Queue)
  /-- They are written to a stream right away. -/
  | terminal (stream : Nat) (p : Presentation) (filter : Filter)
  /-- Nothing happens to them, but calls are kept; the sink always gives the same answer. -/
  | recorder (answer : Bool) (calls : List SinkCall)

def Sink.kind : Sink → String
  | queue _ => "InMemoryCache"
  | terminal .. => "TerminalSink"
  | recorder .. => "RecordingSink"

def Sink.accepts (stage : Stage) (severity : Severity) : Sink → Bool
  | queue q => q.allows stage severity
  | terminal _ _ filter => filter.allows stage severity
  | recorder answer _ => answer

/-- The sink after being asked; only a recorder remembers it. -/
def Sink.afterAsked (stage : Stage) (severity : Severity) : Sink → Sink
  | recorder answer calls => recorder answer (calls ++ [.asked stage severity])
  | sink => sink

/-! ### Sessions -/

/-- Why a registry cannot do what it is asked. -/
inductive RegistryFault
  | alreadyInstalled
  | nothingInstalled
deriving DecidableEq, Repr

def RegistryFault.message : RegistryFault → String
  | alreadyInstalled => "Diagnostic sink already installed"
  | nothingInstalled => "No diagnostic sink installed; call install() first"

def RegistryFault.kind (_ : RegistryFault) : FaultKind := .registry

/-- The shared state of reporting. -/
structure Session where
  sources : Sources := .empty
  /-- The environment's request for no color, if it makes one. -/
  noColor : Option String := none
  streams : List Stream := []
  sinks : List Sink := []
  /-- The sink of each registry, once it has one. -/
  registries : List (Option Nat) := []

/-- Why a report failed.  Building may fail for reasons of its own. -/
inductive ReportFault (ε : Type)
  | registry (fault : RegistryFault)
  | building (fault : ε)
  | output (fault : OutputFault)

/-- What a report came to: whether the diagnostic was handed to the sink, the session afterwards
and what the journal says. -/
structure Outcome (ε : Type) where
  result : Except (ReportFault ε) Bool
  session : Session
  journal : List JournalEntry := []

namespace Session

def addStream (s : Session) (stream : Stream) : Session × Nat :=
  ({ s with streams := s.streams ++ [stream] }, s.streams.length)

def addSink (s : Session) (sink : Sink) : Session × Nat :=
  ({ s with sinks := s.sinks ++ [sink] }, s.sinks.length)

def addRegistry (s : Session) : Session × Nat :=
  ({ s with registries := s.registries ++ [none] }, s.registries.length)

/-- Asks a sink whether it takes diagnostics of a stage and severity.  A sink that was never made
takes none. -/
def ask (s : Session) (sink : Nat) (stage : Stage) (severity : Severity) : Bool × Session :=
  match s.sinks[sink]? with
  | none => (false, s)
  | some found =>
      (found.accepts stage severity,
        { s with sinks := s.sinks.set sink (found.afterAsked stage severity) })

def give (s : Session) (sink : Nat) (r : Report) :
    Except OutputFault Unit × Session × List JournalEntry :=
  match s.sinks[sink]? with
  | none => (.ok (), s, [])
  | some (.queue q) =>
      let (q, journal) := q.offer r
      (.ok (), { s with sinks := s.sinks.set sink (.queue q) }, journal)
  | some (.recorder answer calls) =>
      (.ok (), { s with sinks := s.sinks.set sink (.recorder answer (calls ++ [.given r])) }, [])
  | some (.terminal stream p filter) =>
      if filter.allows r.stage r.severity then
        match s.streams[stream]? with
        | none => (.ok (), s, [])
        | some target =>
            let (result, target) := writeFrame s.sources p s.noColor r.diagnostic target
            (result, { s with streams := s.streams.set stream target }, [])
      else (.ok (), s, [])

def installed? (s : Session) (registry : Nat) : Option Nat := (s.registries[registry]?).join

/-- The sink of a registry, which must have one. -/
def sinkOf (s : Session) (registry : Nat) : Except RegistryFault Nat :=
  match s.installed? registry with
  | some sink => .ok sink
  | none => .error .nothingInstalled

/-- Installs the sink of a registry that has none yet. -/
def install (s : Session) (registry sink : Nat) :
    Except RegistryFault (Session × List JournalEntry) :=
  match s.installed? registry with
  | some _ => .error .alreadyInstalled
  | none =>
      .ok ({ s with registries := s.registries.set registry (some sink) },
        (s.sinks[sink]?).toList.map fun found => .sinkInstalled found.kind)

/-! ### Reporting -/

/-- Reports through a registry.  The diagnostic is built only if the sink takes it, and takes on
the reported severity. -/
def report {m : Type → Type} [Monad m] {ε : Type} (s : Session) (registry : Nat) (stage : Stage)
    (severity : Severity) (build : m (Except ε Diagnostic)) : m (Outcome ε) :=
  match s.sinkOf registry with
  | .error fault => pure { result := .error (.registry fault), session := s }
  | .ok sink =>
      match s.ask sink stage severity with
      | (false, s) => pure { result := .ok false, session := s }
      | (true, s) => do
          match ← build with
          | .error fault => pure { result := .error (.building fault), session := s }
          | .ok d =>
              let (result, s, journal) :=
                s.give sink { stage, severity, diagnostic := d.withSeverity severity }
              pure { result := (result.map fun _ => true).mapError .output, session := s, journal }

/-! ### Queues of a session -/

/-- The queue behind a sink, if the sink is one. -/
def queue? (s : Session) (sink : Nat) : Option Queue :=
  match s.sinks[sink]? with
  | some (.queue q) => some q
  | _ => none

def setQueue (s : Session) (sink : Nat) (q : Queue) : Session :=
  { s with sinks := s.sinks.set sink (.queue q) }

/-! ### One sink at a time -/

/-- Asking a sink leaves every other sink as it was. -/
theorem sinks_ask_of_ne (s : Session) {sink other : Nat} (h : sink ≠ other) (stage : Stage)
    (severity : Severity) : (s.ask sink stage severity).2.sinks[other]? = s.sinks[other]? := by
  unfold ask
  split
  · rfl
  · exact List.getElem?_set_ne h

/-- Giving a report to a sink leaves every other sink as it was. -/
theorem sinks_give_of_ne (s : Session) {sink other : Nat} (h : sink ≠ other) (r : Report) :
    (s.give sink r).2.1.sinks[other]? = s.sinks[other]? := by
  unfold give
  split
  · rfl
  · exact List.getElem?_set_ne h
  · exact List.getElem?_set_ne h
  · split
    · split
      · rfl
      · rfl
    · rfl

/-- A registry keeps its first sink. -/
theorem install_of_installed {s : Session} {registry first : Nat}
    (h : s.installed? registry = some first) (sink : Nat) :
    s.install registry sink = .error .alreadyInstalled := by
  unfold install
  rw [h]

/-- Without a sink nothing is built. -/
theorem report_of_not_installed {m : Type → Type} [Monad m] {ε : Type} {s : Session}
    {registry : Nat} (h : s.installed? registry = none) (stage : Stage) (severity : Severity)
    (build : m (Except ε Diagnostic)) :
    s.report registry stage severity build =
      pure { result := .error (.registry .nothingInstalled), session := s } := by
  unfold report sinkOf
  rw [h]

/-- What the sink does not take is not built. -/
theorem report_of_refused {m : Type → Type} [Monad m] {ε : Type} {s : Session}
    {registry sink : Nat} (h : s.installed? registry = some sink) {stage : Stage}
    {severity : Severity} (refused : (s.ask sink stage severity).1 = false)
    (build : m (Except ε Diagnostic)) :
    s.report registry stage severity build =
      pure { result := .ok false, session := (s.ask sink stage severity).2 } := by
  unfold report sinkOf
  rw [h]
  cases hask : s.ask sink stage severity with
  | mk answer after =>
      rw [hask] at refused
      cases refused
      simp only [hask]

end Session

end SourceDiagnostics
