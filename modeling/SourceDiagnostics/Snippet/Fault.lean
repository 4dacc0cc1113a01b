import SourceDiagnostics.Source.Fault

/-!
# Snippets that cannot be rendered

Rendering stops at the first thing it cannot do.  Regions laid out from a diagnostic can only fail
a lookup; the other reasons need a region handed to the wrong layout, or a layout written by hand.
-/

namespace SourceDiagnostics

/-- Why a snippet cannot be rendered. -/
inductive RenderFault
  /-- A position does not exist. -/
  | lookup (fault : LookupFault)
  /-- A region of one source was laid out with those of another. -/
  | foreignRegion (found expected : Int)
  /-- A bracket closes in a lane in which none is open. -/
  | laneNotOpen (lane : Nat)
  /-- A bracket is open in a lane outside the lane area. -/
  | laneOutsideArea (lane : Nat)
deriving DecidableEq, Repr

def RenderFault.message : RenderFault → String
  | lookup fault => fault.message
  | foreignRegion found expected =>
      "Region of source " ++ toString found ++ " planned as source " ++ toString expected
  | laneNotOpen _ => "list.remove(x): x not in list"
  | laneOutsideArea _ => "list assignment index out of range"

def RenderFault.kind : RenderFault → FaultKind
  | lookup fault => fault.kind
  | foreignRegion .. => .contract
  | laneNotOpen _ => .value
  | laneOutsideArea _ => .index

/-- A lookup made while rendering. -/
def rendering {α : Type} (result : Except LookupFault α) : Except RenderFault α :=
  result.mapError .lookup

theorem rendering_eq_ok_iff {α : Type} (result : Except LookupFault α) (a : α) :
    rendering result = .ok a ↔ result = .ok a := by
  cases result with
  | error fault =>
      constructor
      · intro h
        cases h
      · intro h
        cases h
  | ok value =>
      constructor
      · intro h
        cases h
        rfl
      · intro h
        cases h
        rfl

end SourceDiagnostics
