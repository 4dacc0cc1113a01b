/-!
# Kinds of faults

Whoever handles faults names a kind and takes every fault of a kind below it.  The kinds form a
hierarchy, told by the parents of each.  A kind may have more than one: a source that was never
registered is a violated contract and a failed lookup.  `FaultKind.ancestors` collects all that a
fault can be taken as; `mem_ancestors_iff` says that it follows the parents as far as they go.
-/

namespace SourceDiagnostics

inductive FaultKind
  /-- Every fault. -/
  | any
  /-- Every fault but a request to stop. -/
  | ordinary
  /-- Faults of the values that were given. -/
  | value
  | encoding
  | decoding
  /-- Faults of searching something by what it goes by. -/
  | lookup
  | key
  | index
  /-- Faults of the system that output goes to. -/
  | system
  /-- Faults of this library. -/
  | report
  | contract
  | offset
  | line
  | unknownSource
  | registry
deriving DecidableEq, Repr

namespace FaultKind

def all : List FaultKind :=
  [.any, .ordinary, .value, .encoding, .decoding, .lookup, .key, .index, .system, .report,
   .contract, .offset, .line, .unknownSource, .registry]

/-- The kinds right above a kind. -/
def parents : FaultKind → List FaultKind
  | any => []
  | ordinary => [any]
  | value => [ordinary]
  | encoding => [value]
  | decoding => [encoding]
  | lookup => [ordinary]
  | key => [lookup]
  | index => [lookup]
  | system => [ordinary]
  | report => [ordinary]
  | contract => [report]
  | offset => [contract]
  | line => [contract]
  | unknownSource => [contract, lookup]
  | registry => [report]

/-- The number of steps up to the kind above all others, at most. -/
def depth : FaultKind → Nat
  | any => 0
  | ordinary => 1
  | value | lookup | system | report => 2
  | encoding | key | index | contract | registry => 3
  | decoding | offset | line | unknownSource => 4

theorem mem_all (kind : FaultKind) : kind ∈ all := by
  cases kind <;> decide

theorem depth_lt_of_mem_parents {kind parent : FaultKind} (h : parent ∈ kind.parents) :
    parent.depth < kind.depth := by
  revert h
  cases kind <;> cases parent <;> decide

/-! ### What a fault can be taken as -/

/-- A fault of the first kind is one of the second. -/
inductive IsA : FaultKind → FaultKind → Prop
  | refl (kind : FaultKind) : IsA kind kind
  | above {kind parent other : FaultKind} (h : parent ∈ kind.parents) (habove : IsA parent other) :
      IsA kind other

/-- A kind and all kinds above it. -/
def ancestors (kind : FaultKind) : List FaultKind :=
  kind :: (kind.parents.attach.flatMap fun parent => parent.1.ancestors).eraseDups
termination_by kind.depth
decreasing_by exact depth_lt_of_mem_parents parent.2

theorem mem_ancestors_iff_parents {kind other : FaultKind} :
    other ∈ kind.ancestors ↔ other = kind ∨ ∃ parent ∈ kind.parents, other ∈ parent.ancestors := by
  rw [ancestors, List.mem_cons, List.mem_eraseDups, List.mem_flatMap]
  simp only [List.mem_attach, true_and, Subtype.exists, exists_prop]

theorem mem_ancestors_iff {kind other : FaultKind} : other ∈ kind.ancestors ↔ kind.IsA other := by
  constructor
  · intro h
    -- along the recursion of the list: parents are less deep
    induction kind using ancestors.induct with
    | case1 kind ih =>
        rcases mem_ancestors_iff_parents.mp h with rfl | ⟨parent, hparent, hother⟩
        · exact .refl _
        · exact .above hparent (ih ⟨parent, hparent⟩ hother)
  · intro h
    induction h with
    | refl kind => exact mem_ancestors_iff_parents.mpr (Or.inl rfl)
    | above hparent _ ih => exact mem_ancestors_iff_parents.mpr (Or.inr ⟨_, hparent, ih⟩)

instance (kind other : FaultKind) : Decidable (kind.IsA other) :=
  decidable_of_iff (other ∈ kind.ancestors) mem_ancestors_iff

namespace IsA

variable {a b c : FaultKind}

theorem of_mem_parents (h : b ∈ a.parents) : a.IsA b := .above h (.refl b)

/-- What is above a kind of some kinds that have all their parents is one of them. -/
theorem mem_of_closed {kinds : List FaultKind}
    (hclosed : ∀ kind ∈ kinds, ∀ parent ∈ kind.parents, parent ∈ kinds) (hab : a.IsA b)
    (ha : a ∈ kinds) : b ∈ kinds := by
  induction hab with
  | refl => exact ha
  | above h _ ih => exact ih (hclosed _ ha _ h)

theorem trans (hab : a.IsA b) (hbc : b.IsA c) : a.IsA c := by
  induction hab with
  | refl => exact hbc
  | above h _ ih => exact .above h (ih hbc)

theorem eq_or_depth_lt (h : a.IsA b) : a = b ∨ b.depth < a.depth := by
  induction h with
  | refl => exact Or.inl rfl
  | above h _ ih =>
      have hparent := depth_lt_of_mem_parents h
      rcases ih with rfl | hlt
      · exact Or.inr hparent
      · exact Or.inr (Nat.lt_trans hlt hparent)

theorem antisymm (hab : a.IsA b) (hba : b.IsA a) : a = b := by
  rcases hab.eq_or_depth_lt with heq | hlt
  · exact heq
  · rcases hba.eq_or_depth_lt with heq | hlt'
    · exact heq.symm
    · omega

end IsA

/-- The kinds of this library's own faults. -/
def own : List FaultKind := all.filter fun kind => kind.IsA .report

theorem mem_own_iff {kind : FaultKind} : kind ∈ own ↔ kind.IsA .report := by
  rw [own, List.mem_filter, decide_eq_true_iff]
  exact and_iff_right (mem_all kind)

end FaultKind

end SourceDiagnostics
