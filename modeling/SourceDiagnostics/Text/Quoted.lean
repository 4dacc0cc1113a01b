import SourceDiagnostics.Text.InvisibleTable
import SourceDiagnostics.Text.UnassignedTable

/-!
# Words in quotes

An error message shows a word it could not use in quotes, with everything invisible spelled out,
so that a reader sees exactly which characters were given.  Single quotes are used unless the
word holds one and no double quote.
-/

namespace SourceDiagnostics.Text

/-- Whether a character is spelled out by its code in a quoted word. -/
def isInvisible (c : Char) : Bool :=
  covers c.toNat invisibleRanges || covers c.toNat unassignedRanges

theorem isInvisible_iff (c : Char) :
    isInvisible c = true ↔
      ∃ r ∈ invisibleRanges ++ unassignedRanges, r.1 ≤ c.toNat ∧ c.toNat ≤ r.2 := by
  simp only [isInvisible, Bool.or_eq_true, covers_iff invisibleRanges_ascending,
    covers_iff unassignedRanges_ascending, List.mem_append, or_and_right, exists_or]

/-- A code in lowercase hexadecimal of at least `width` digits. -/
def hexadecimal (width code : Nat) : List Char := (Nat.toDigits 16 code).leftpad width '0'

/-- One character of a word between the given quotes. -/
def quoteChar (quote c : Char) : List Char :=
  if c = quote ∨ c = '\\' then ['\\', c]
  else if c = '\n' then ['\\', 'n']
  else if c = '\r' then ['\\', 'r']
  else if c = '\t' then ['\\', 't']
  else if isInvisible c then
    if c.toNat < 0x100 then '\\' :: 'x' :: hexadecimal 2 c.toNat
    else if c.toNat < 0x10000 then '\\' :: 'u' :: hexadecimal 4 c.toNat
    else '\\' :: 'U' :: hexadecimal 8 c.toNat
  else [c]

/-- The quote character a word is put in. -/
def quoteFor (word : List Char) : Char :=
  if word.contains '\'' && !word.contains '"' then '"' else '\''

def quoted (word : String) : String :=
  let quote := quoteFor word.toList
  String.ofList (quote :: word.toList.flatMap (quoteChar quote) ++ [quote])

/-- A word of visible characters without quotes or backslashes is shown as it is. -/
theorem quoted_of_plain {word : String}
    (h : ∀ c ∈ word.toList, c ≠ '\'' ∧ c ≠ '\\' ∧ isInvisible c = false) :
    quoted word = "'" ++ word ++ "'" := by
  have hquote : quoteFor word.toList = '\'' := by
    have : '\'' ∉ word.toList := fun hmem => (h _ hmem).1 rfl
    simp [quoteFor, this]
  have hchars : ∀ cs : List Char, (∀ c ∈ cs, c ≠ '\'' ∧ c ≠ '\\' ∧ isInvisible c = false) →
      cs.flatMap (quoteChar '\'') = cs := by
    intro cs hcs
    induction cs with
    | nil => rfl
    | cons c rest ih =>
        obtain ⟨hq, hb, hv⟩ := hcs c (List.mem_cons_self ..)
        have hrest := ih fun x hx => hcs x (List.mem_cons_of_mem _ hx)
        have hn : c ≠ '\n' := by
          rintro rfl
          exact absurd hv (by decide)
        have hr : c ≠ '\r' := by
          rintro rfl
          exact absurd hv (by decide)
        have ht : c ≠ '\t' := by
          rintro rfl
          exact absurd hv (by decide)
        simp [quoteChar, hq, hb, hn, hr, ht, hv, hrest]
  apply String.toList_inj.mp
  simp [quoted, hquote, hchars _ h]

end SourceDiagnostics.Text
