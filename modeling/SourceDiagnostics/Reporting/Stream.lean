import SourceDiagnostics.Frame.Basic

/-!
# Streams

A terminal writes a frame to a stream row by row.  A stream keeps what was written to it and may
be closed by whoever reads it: from some write on, every further one is refused and leaves nothing
behind.  A frame is written only if all of it can be rendered, and it is flushed only if all of it
was written.
-/

namespace SourceDiagnostics

/-- An output stream with what was written to it. -/
structure Stream where
  /-- Whether it is a terminal, if it can tell. -/
  isTerminal : Option Bool := none
  /-- The first write that is refused, counted from one. -/
  refusedFrom : Option Nat := none
  attempts : Nat := 0
  writes : List String := []
  flushes : Nat := 0
deriving DecidableEq, Repr

/-- Why a frame did not reach its stream. -/
inductive OutputFault
  | frame (fault : RenderFault)
  | closed
deriving DecidableEq, Repr

def OutputFault.message : OutputFault → String
  | frame fault => fault.message
  | closed => "stream closed by peer"

def OutputFault.kind : OutputFault → FaultKind
  | frame fault => fault.kind
  | closed => .system

namespace Stream

def refuses (s : Stream) : Bool :=
  match s.refusedFrom with
  | none => false
  | some first => first ≤ s.attempts + 1

/-- The stream after an attempt to write. -/
def write (s : Stream) (text : String) : Stream :=
  if s.refuses then { s with attempts := s.attempts + 1 }
  else { s with attempts := s.attempts + 1, writes := s.writes ++ [text] }

def flush (s : Stream) : Stream := { s with flushes := s.flushes + 1 }

/-- Writes texts until one is refused; flushes if none is. -/
def writeAll (s : Stream) : List String → Except OutputFault Unit × Stream
  | [] => (.ok (), s.flush)
  | text :: rest => if s.refuses then (.error .closed, s.write text) else (s.write text).writeAll rest

end Stream

/-- Writes the frame of a diagnostic to a stream, each row ended by a line feed. -/
def writeFrame (sources : Sources) (p : Presentation) (noColor : Option String) (d : Diagnostic)
    (s : Stream) : Except OutputFault Unit × Stream :=
  match d.render sources p with
  | .error fault => (.error (.frame fault), s)
  | .ok rows =>
      s.writeAll (rows.map fun row => row.text (p.useColor noColor s.isTerminal) ++ "\n")

/-! ### What reaches a stream -/

namespace Stream

/-- A stream once closed stays closed and keeps what it has. -/
theorem write_of_refuses {s : Stream} (h : s.refuses = true) (text : String) :
    (s.write text).writes = s.writes ∧ (s.write text).refuses = true := by
  unfold refuses at h
  split at h
  · cases h
  · rename_i first hfirst
    have hle : first ≤ s.attempts + 1 := by simpa using h
    constructor
    · simp [write, refuses, hfirst, hle]
    · have : first ≤ s.attempts + 1 + 1 := Nat.le_succ_of_le hle
      simp [write, refuses, hfirst, hle, this]

end Stream

/-- A diagnostic that cannot be rendered leaves the stream as it was. -/
theorem writeFrame_of_error {sources : Sources} {p : Presentation} {d : Diagnostic}
    {fault : RenderFault} (h : d.render sources p = .error fault) (noColor : Option String)
    (s : Stream) : writeFrame sources p noColor d s = (.error (.frame fault), s) := by
  unfold writeFrame
  rw [h]

end SourceDiagnostics
