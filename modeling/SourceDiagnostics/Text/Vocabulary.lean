import SourceDiagnostics.FaultKind
import SourceDiagnostics.Text.Quoted

/-!
# Closed vocabularies

Several types here are short lists of alternatives that settings and input name by a word:
severities, label emphases, pipeline stages, color modes, styles.  A `Vocabulary` says which
alternatives there are and which word each goes by; reading a word back is then the same search
everywhere, and so is the complaint about a word that names nothing.
-/

namespace SourceDiagnostics.Text

/-- A finite type whose values are known by words. -/
class Vocabulary (α : Type) where
  /-- What a message calls a value of the type. -/
  noun : String
  /-- The values, in the order they are listed. -/
  members : List α
  /-- The word of a value. -/
  word : α → String
  mem_members : ∀ a, a ∈ members
  word_inj : ∀ a b, word a = word b → a = b

export Vocabulary (word)

/-- What was given in place of a member of a vocabulary. -/
inductive UnknownMember
  | word (noun text : String)
  | number (noun : String) (value : Int)
  | name (text : String)
deriving DecidableEq, Repr

def UnknownMember.message : UnknownMember → String
  | .word noun text => quoted text ++ " is not a valid " ++ noun
  | .number noun value => toString value ++ " is not a valid " ++ noun
  | .name text => quoted text

def UnknownMember.kind : UnknownMember → FaultKind
  | .word .. | .number .. => .value
  | .name _ => .key

/-- The value that goes by a word. -/
def ofWord? {α : Type} [Vocabulary α] (text : String) : Except UnknownMember α :=
  match (Vocabulary.members (α := α)).find? (fun a => word a == text) with
  | some a => .ok a
  | none => .error (.word (Vocabulary.noun α) text)

/-- The name of the constant that stands for a value: its word in capitals. -/
def constantName {α : Type} [Vocabulary α] (a : α) : String := (word a).toUpper

/-- The value whose constant has a name. -/
def ofConstantName? {α : Type} [Vocabulary α] (text : String) : Except UnknownMember α :=
  match (Vocabulary.members (α := α)).find? (fun a => constantName a == text) with
  | some a => .ok a
  | none => .error (.name text)

/-- **Words read back.**  Every value is found under its own word and under no other. -/
theorem ofWord?_eq_ok_iff {α : Type} [Vocabulary α] (text : String) (a : α) :
    ofWord? text = .ok a ↔ text = word a := by
  unfold ofWord?
  constructor
  · intro h
    split at h
    · rename_i b hfind
      have hb : word b = text := by simpa using List.find?_some hfind
      cases h
      exact hb.symm
    · cases h
  · rintro rfl
    split
    · rename_i b hfind
      have hb : word b = word a := by simpa using List.find?_some hfind
      rw [Vocabulary.word_inj b a hb]
    · rename_i hfind
      have := List.find?_eq_none.mp hfind a (Vocabulary.mem_members a)
      simp at this

end SourceDiagnostics.Text
