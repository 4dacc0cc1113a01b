import SourceDiagnostics.Text.Vocabulary

/-!
# Labels

A label points at byte ranges of one source.  It has a main region with a chosen emphasis, and
any number of supporting regions, which are drawn as secondary ones.  Laying a snippet out needs
only the flat list of highlighted regions, `Label.highlights`.

A region knows that it does not end before it starts.  Whether it lies within its source can only
be decided where the source is known.
-/

namespace SourceDiagnostics

open Text

inductive Emphasis
  | primary
  | secondary
  | tertiary
  | quaternary
deriving DecidableEq, Repr

instance : Vocabulary Emphasis where
  noun := "LabelStyle"
  members := [.primary, .secondary, .tertiary, .quaternary]
  word
    | .primary => "primary"
    | .secondary => "secondary"
    | .tertiary => "tertiary"
    | .quaternary => "quaternary"
  mem_members a := by cases a <;> decide
  word_inj a b := by cases a <;> cases b <;> decide

/-! ### Regions -/

/-- Why two offsets bound no region.  The bearer is what was to be made of them. -/
inductive RangeFault
  | negativeStart (bearer : String) (start : Int)
  | stopBeforeStart (bearer : String) (start stop : Int)
deriving DecidableEq, Repr

def RangeFault.message : RangeFault → String
  | negativeStart bearer start => bearer ++ ".start must be >= 0, got " ++ toString start
  | stopBeforeStart bearer start stop =>
      bearer ++ ".end (" ++ toString stop ++ ") must be >= start (" ++ toString start ++ ")"

/-- A byte range with the text shown beside it. -/
structure Region where
  start : Nat
  stop : Nat
  message : String := ""
  start_le_stop : start ≤ stop := by omega
deriving DecidableEq, Repr

def Region.between? (bearer : String) (start stop : Int) (message : String) :
    Except RangeFault Region :=
  if _ : start < 0 then .error (.negativeStart bearer start)
  else if _ : stop < start then .error (.stopBeforeStart bearer start stop)
  else .ok { start := start.toNat, stop := stop.toNat, message }

def Region.of? (start stop : Int) (message : String) : Except RangeFault Region :=
  Region.between? "LabelRegion" start stop message

/-- A region of a known source with its emphasis: what a snippet is laid out from. -/
structure Highlight where
  source : Int
  region : Region
  emphasis : Emphasis
deriving DecidableEq, Repr

namespace Highlight

def of? (source start stop : Int) (message : String) (emphasis : Emphasis) :
    Except RangeFault Highlight :=
  (Region.between? "StyledRegion" start stop message).map fun region =>
    { source, region, emphasis }

def isPrimary (highlight : Highlight) : Bool := highlight.emphasis = .primary

end Highlight

/-! ### Labels -/

/-- A main region and its supporting regions, all in one source. -/
structure Label where
  source : Int
  region : Region
  emphasis : Emphasis := .primary
  supporting : List Region := []
deriving DecidableEq, Repr

namespace Label

def of? (source start stop : Int) (message : String) (emphasis : Emphasis) :
    Except RangeFault Label :=
  (Region.of? start stop message).map fun region => { source, region, emphasis }

def withSupporting (label : Label) (region : Region) : Label :=
  { label with supporting := label.supporting ++ [region] }

/-- The regions of a label, the main one first. -/
def highlights (label : Label) : List Highlight :=
  { source := label.source, region := label.region, emphasis := label.emphasis } ::
    label.supporting.map fun region => { source := label.source, region, emphasis := .secondary }

/-! ### A label stays in its source -/

theorem source_of_mem_highlights {label : Label} {highlight : Highlight}
    (h : highlight ∈ label.highlights) : highlight.source = label.source := by
  simp only [highlights, List.mem_cons, List.mem_map] at h
  rcases h with rfl | ⟨region, _, rfl⟩
  · rfl
  · rfl

/-- A supporting region comes last and takes the secondary emphasis. -/
theorem highlights_withSupporting (label : Label) (region : Region) :
    (label.withSupporting region).highlights =
      label.highlights ++ [{ source := label.source, region, emphasis := .secondary }] := by
  simp [highlights, withSupporting]

end Label

theorem Region.between?_eq_ok_iff (bearer : String) (start stop : Int) (message : String)
    (region : Region) :
    Region.between? bearer start stop message = .ok region ↔
      (region.start : Int) = start ∧ (region.stop : Int) = stop ∧ region.message = message := by
  unfold Region.between?
  constructor
  · intro h
    split at h
    · cases h
    · split at h
      · cases h
      · cases h
        refine ⟨?_, ?_, rfl⟩ <;> simp <;> omega
  · rintro ⟨rfl, rfl, rfl⟩
    have := region.start_le_stop
    rw [dif_neg (by omega), dif_neg (by omega)]
    rfl

end SourceDiagnostics
