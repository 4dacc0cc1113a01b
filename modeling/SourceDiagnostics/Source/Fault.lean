import SourceDiagnostics.FaultKind

/-!
# Positions that do not exist

A wrong position silently points at unrelated code, so a lookup never clamps or guesses: it
answers with the reason why the position does not exist.  Each reason carries what was asked for
and the limit it broke.
-/

namespace SourceDiagnostics

/-- Why a lookup in registered source text has no answer. -/
inductive LookupFault
  /-- The offset is negative or past the end. -/
  | offsetOutside (offset : Int) (limit : Nat)
  | offsetInsideCharacter (offset : Int) (limit : Nat)
  /-- The column lies past the end of its line. -/
  | columnOutside (line column lineBytes offset limit : Nat)
  | lineOutside (line : Int) (lineCount : Nat)
  | notText (start stop : Nat)
  | unknownSource (source : Int) (registered : Nat)
deriving DecidableEq, Repr

def LookupFault.message : LookupFault → String
  | offsetOutside offset limit =>
      "Offset " ++ toString offset ++ " out of range (source has " ++ toString limit ++ " bytes)"
  | offsetInsideCharacter offset _ =>
      "Offset " ++ toString offset ++ " falls inside a multi-byte character"
  | columnOutside line column lineBytes _ _ =>
      "Column " ++ toString column ++ " out of range for line " ++ toString line ++
        " (" ++ toString lineBytes ++ " bytes)"
  | lineOutside line lineCount =>
      "Line " ++ toString line ++ " out of range (source has " ++ toString lineCount ++ " lines)"
  | notText start stop =>
      "Bytes " ++ toString start ++ " to " ++ toString stop ++ " are not text"
  | unknownSource source registered =>
      "Source id " ++ toString source ++ " out of range (" ++ toString registered ++
        " sources registered)"

namespace LookupFault

def kind : LookupFault → FaultKind
  | offsetOutside .. | offsetInsideCharacter .. | columnOutside .. => .offset
  | lineOutside .. => .line
  | notText .. => .decoding
  | unknownSource .. => .unknownSource

/-- A lookup that fails violates a contract, unless it is a text cut inside a character. -/
theorem kind_isA_contract_iff {fault : LookupFault} :
    fault.kind.IsA .contract ↔ ∀ start stop, fault ≠ .notText start stop := by
  constructor
  · rintro h start stop rfl
    have hmem : FaultKind.contract ∈ [.decoding, .encoding, .value, .ordinary, .any] :=
      h.mem_of_closed (by decide) (List.mem_cons_self ..)
    exact absurd hmem (by decide)
  · intro h
    cases fault with
    | notText start stop => exact absurd rfl (h start stop)
    | offsetOutside | offsetInsideCharacter | columnOutside | lineOutside | unknownSource =>
        exact .of_mem_parents (List.mem_cons_self ..)

end LookupFault

end SourceDiagnostics
