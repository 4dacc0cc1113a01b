import SourceDiagnostics.Journal
import SourceDiagnostics.Source.LineIndex

/-!
# Registered sources

Sources are numbered in the order they are registered, from zero, and keep their number.  Each is
indexed once, when it is registered; everything that renders text goes through these lookups.

Registering only ever adds at the end: `get?_add_of_lt` says that no earlier source is disturbed.
-/

namespace SourceDiagnostics

/-- A named text with its line index. -/
structure Source where
  name : String
  index : LineIndex

def Source.content (source : Source) : String := source.index.content

/-- The sources registered so far, by id. -/
structure Sources where
  entries : Array Source

namespace Sources

def empty : Sources := ⟨#[]⟩

/-- The number of sources, which is also the next id. -/
def size (sources : Sources) : Nat := sources.entries.size

/-- Registers a text under the next id, with the entry this makes in the journal. -/
def register (sources : Sources) (name content : String) : Sources × JournalEntry :=
  let source : Source := { name, index := LineIndex.ofContent content }
  (⟨sources.entries.push source⟩,
    .sourceRegistered sources.size name source.index.lineCount)

def add (sources : Sources) (name content : String) : Sources :=
  (sources.register name content).1

def ofList (texts : List (String × String)) : Sources :=
  texts.foldl (fun sources text => sources.add text.1 text.2) empty

/-- The source with an id, if there is one. -/
def get? (sources : Sources) (id : Int) : Option Source :=
  if id < 0 then none else sources.entries[id.toNat]?

def find (sources : Sources) (id : Int) : Except LookupFault Source :=
  match sources.get? id with
  | some source => .ok source
  | none => .error (.unknownSource id sources.size)

def name (sources : Sources) (id : Int) : Except LookupFault String :=
  (sources.find id).map Source.name

def index (sources : Sources) (id : Int) : Except LookupFault LineIndex :=
  (sources.find id).map Source.index

/-- The locations of both ends of a byte range of a source. -/
def toLocations (sources : Sources) (id start stop : Int) :
    Except LookupFault (Location × Location) := do
  let index ← sources.index id
  let first ← index.toLocation start
  let last ← index.toLocation stop
  return (first, last)

def lineText (sources : Sources) (id line : Int) : Except LookupFault String := do
  let index ← sources.index id
  index.lineText line

/-! ### Registering keeps what was registered -/

@[simp] theorem size_add (sources : Sources) (name content : String) :
    (sources.add name content).size = sources.size + 1 := by
  simp [size, add, register]

@[simp] theorem get?_natCast (sources : Sources) (n : Nat) :
    sources.get? n = sources.entries[n]? := by
  rw [get?, if_neg (by omega), Int.toNat_natCast]

theorem get?_add_size (sources : Sources) (name content : String) :
    (sources.add name content).get? sources.size =
      some { name, index := LineIndex.ofContent content } := by
  rw [get?_natCast]
  simp [size, add, register]

/-- The earlier sources are found as before. -/
theorem get?_add_of_lt (sources : Sources) (name content : String) {id : Int}
    (h : id < sources.size) : (sources.add name content).get? id = sources.get? id := by
  unfold get? add register
  split
  · rfl
  · unfold size at h
    rw [Array.getElem?_push, if_neg (by omega)]

/-- A source is found exactly under the ids given so far. -/
theorem get?_isSome_iff (sources : Sources) (id : Int) :
    (sources.get? id).isSome ↔ 0 ≤ id ∧ id < sources.size := by
  unfold get? size
  split
  · simp
    omega
  · simp
    omega

end Sources

end SourceDiagnostics
