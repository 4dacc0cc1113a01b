import SourceDiagnostics.Diagnostic.Severity

/-!
# The journal

What the library reports about its own working, as opposed to the source text it is used on.
Operations with something to record hand back the entries they made; whoever calls them decides
where those go.
-/

namespace SourceDiagnostics

/-- How much an entry matters to someone who watches the library at work. -/
inductive Importance
  | debug
  | warning
deriving DecidableEq, Repr

/-- Something the library records about its own working. -/
inductive JournalEntry
  | sourceRegistered (source : Nat) (name : String) (lineCount : Nat)
  | sinkInstalled (kind : String)
  | queueDrained (taken : Nat)
  /-- A full queue turned a diagnostic away. -/
  | queueFull (queued : Nat) (severity : Severity) (message : String)
deriving DecidableEq, Repr

namespace JournalEntry

/-- Only turning a diagnostic away is worth a warning. -/
def importance : JournalEntry → Importance
  | queueFull .. => .warning
  | _ => .debug

def text : JournalEntry → String
  | sourceRegistered source name lineCount =>
      "Registered source " ++ toString source ++ ": " ++ name ++
        " (" ++ toString lineCount ++ " lines)"
  | sinkInstalled kind => "Installed diagnostic sink: " ++ kind
  | queueDrained taken => "Drained " ++ toString taken ++ " queued diagnostics"
  | queueFull queued severity message =>
      "In-memory diagnostic cache is full (" ++ toString queued ++ "); dropping " ++
        severity.name.toLower ++ " diagnostic: " ++ message

end JournalEntry

end SourceDiagnostics
