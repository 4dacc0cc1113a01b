import Mathlib.Data.List.Basic

/-!
# Color escapes in text

A terminal takes an escape character, a bracket, any number of digits and semicolons, and a final
`m` as one sequence, which sets the color of what follows and shows nothing.  `withoutEscapes` is
the text without its sequences: a scan from the left that steps over each sequence it meets and
keeps every other character, an escape that opens no sequence among them.

The scan has no state, but what it does with an escape depends on what follows.  Facts about parts
of a text are therefore stated for any rest behind them: `Becomes`.
-/

namespace SourceDiagnostics.Text

def escape : Char := '\x1b'

/-- A character that may stand between the bracket and the end of a sequence. -/
def isParameter (c : Char) : Bool := c.isDigit || c == ';'

/-- One whole color escape. -/
def IsSequence (text : List Char) : Prop :=
  ∃ parameters, (∀ c ∈ parameters, isParameter c = true) ∧
    text = escape :: '[' :: parameters ++ ['m']

/-- What follows the sequence that a text starts with, or nothing if it starts with none. -/
def afterSequence? : List Char → Option (List Char)
  | first :: second :: rest =>
      if first = escape ∧ second = '[' then
        match rest.dropWhile isParameter with
        | 'm' :: after => some after
        | _ => none
      else none
  | _ => none

/-! ### Sequences at the start of a text -/

theorem dropWhile_isParameter {parameters : List Char}
    (h : ∀ c ∈ parameters, isParameter c = true) (after : List Char) :
    (parameters ++ 'm' :: after).dropWhile isParameter = 'm' :: after := by
  rw [List.dropWhile_append_of_pos h, List.dropWhile_cons_of_neg (by decide)]

/-- **Sequences.**  A text starts with at most one sequence, and it is found. -/
theorem afterSequence?_eq_some_iff {text after : List Char} :
    afterSequence? text = some after ↔
      ∃ sequence, IsSequence sequence ∧ text = sequence ++ after := by
  constructor
  · intro h
    unfold afterSequence? at h
    split at h
    · rename_i first second rest
      split at h
      · rename_i hopens
        obtain ⟨rfl, rfl⟩ := hopens
        split at h
        · rename_i found hdrop
          cases h
          refine ⟨_, ⟨rest.takeWhile isParameter, ?_, rfl⟩, ?_⟩
          · exact List.all_eq_true.mp List.all_takeWhile
          · rw [List.append_assoc, List.singleton_append, List.cons_append, List.cons_append,
              ← hdrop, List.takeWhile_append_dropWhile]
        · cases h
      · cases h
    · cases h
  · rintro ⟨_, ⟨parameters, hparameters, rfl⟩, rfl⟩
    rw [List.append_assoc, List.singleton_append, List.cons_append, List.cons_append,
      afterSequence?, if_pos ⟨rfl, rfl⟩, dropWhile_isParameter hparameters]
    rfl

theorem isSequence_iff {text : List Char} : IsSequence text ↔ afterSequence? text = some [] := by
  rw [afterSequence?_eq_some_iff]
  constructor
  · intro h
    exact ⟨text, h, (List.append_nil text).symm⟩
  · rintro ⟨sequence, h, rfl⟩
    rwa [List.append_nil]

instance (text : List Char) : Decidable (IsSequence text) := decidable_of_iff _ isSequence_iff.symm

theorem afterSequence?_cons_of_ne {c : Char} (h : c ≠ escape) (rest : List Char) :
    afterSequence? (c :: rest) = none := by
  cases rest with
  | nil => rfl
  | cons second rest => exact if_neg fun hopens => h hopens.1

theorem length_lt_of_afterSequence? {text after : List Char}
    (h : afterSequence? text = some after) : after.length < text.length := by
  obtain ⟨sequence, ⟨parameters, _, rfl⟩, rfl⟩ := afterSequence?_eq_some_iff.mp h
  rw [List.length_append, List.length_append, List.length_singleton]
  omega

/-! ### Texts without their sequences -/

def stripSequences : List Char → List Char
  | [] => []
  | c :: rest =>
      match _ : afterSequence? (c :: rest) with
      | some after => stripSequences after
      | none => c :: stripSequences rest
termination_by text => text.length
decreasing_by
  · rename_i h
    exact length_lt_of_afterSequence? h
  · exact Nat.lt_succ_self _

/-- A text without its color escapes. -/
def withoutEscapes (text : String) : String := String.ofList (stripSequences text.toList)

theorem stripSequences_of_some {text after : List Char} (h : afterSequence? text = some after) :
    stripSequences text = stripSequences after := by
  cases text with
  | nil => cases h
  | cons c rest =>
      rw [stripSequences]
      split
      · rename_i other hother
        rw [Option.some.inj (hother.symm.trans h)]
      · rename_i hnone
        cases hnone.symm.trans h

theorem stripSequences_cons_of_none {c : Char} {rest : List Char}
    (h : afterSequence? (c :: rest) = none) :
    stripSequences (c :: rest) = c :: stripSequences rest := by
  rw [stripSequences]
  split
  · rename_i after hsome
    cases hsome.symm.trans h
  · rfl

/-- A text that is another one once its sequences are gone, whatever follows. -/
def Becomes (text bare : List Char) : Prop :=
  ∀ rest, stripSequences (text ++ rest) = bare ++ stripSequences rest

theorem becomes_nil : Becomes [] [] := fun _ => rfl

theorem Becomes.append {text text' bare bare' : List Char} (h : Becomes text bare)
    (h' : Becomes text' bare') : Becomes (text ++ text') (bare ++ bare') := by
  intro rest
  rw [List.append_assoc, h, h', List.append_assoc]

theorem IsSequence.becomes_nil {sequence : List Char} (h : IsSequence sequence) :
    Becomes sequence [] := by
  intro rest
  exact stripSequences_of_some (afterSequence?_eq_some_iff.mpr ⟨sequence, h, rfl⟩)

/-- Nothing is lost of a text with no escape, brackets and digits included. -/
theorem becomes_self {text : List Char} (h : escape ∉ text) : Becomes text text := by
  induction text with
  | nil => exact becomes_nil
  | cons c rest ih =>
      rw [List.mem_cons, not_or] at h
      intro more
      rw [List.cons_append, List.cons_append,
        stripSequences_cons_of_none (afterSequence?_cons_of_ne (Ne.symm h.1) _), ih h.2]

theorem becomes_flatMap {α : Type} {f g : α → List Char} {as : List α}
    (h : ∀ a ∈ as, Becomes (f a) (g a)) : Becomes (as.flatMap f) (as.flatMap g) := by
  induction as with
  | nil => exact becomes_nil
  | cons a rest ih =>
      rw [List.forall_mem_cons] at h
      rw [List.flatMap_cons, List.flatMap_cons]
      exact h.1.append (ih h.2)

/-- Parts may be stripped one by one if they are joined by something without escapes. -/
theorem becomes_intercalate {separator : List Char} (h : escape ∉ separator)
    {texts bares : List (List Char)} (hbecomes : List.Forall₂ Becomes texts bares) :
    Becomes (separator.intercalate texts) (separator.intercalate bares) := by
  induction hbecomes with
  | nil => exact becomes_nil
  | cons hfirst hrest ih =>
      cases hrest with
      | nil =>
          rw [List.intercalate_singleton, List.intercalate_singleton]
          exact hfirst
      | cons _ _ =>
          rw [List.intercalate_cons_cons, List.intercalate_cons_cons]
          exact (hfirst.append (becomes_self h)).append ih

theorem Becomes.stripSequences_eq {text bare : List Char} (h : Becomes text bare) :
    stripSequences text = bare := by
  have hstripped := h []
  rwa [List.append_nil, stripSequences, List.append_nil] at hstripped

/-- An escape that opens no sequence stays, and so does what looks like the rest of one. -/
example : withoutEscapes "\x1b[1;3xm \x1b[31mred\x1b[0m [0m" = "\x1b[1;3xm red [0m" := by
  cbv

end SourceDiagnostics.Text
