import SourceDiagnostics.Frame.Header
import Mathlib.Data.List.TakeWhile

/-!
# A header tells whose header it is

The header of a diagnostic can be read back from left to right: `readHeader?` returns the severity,
the code and the message it was made of, so diagnostics that differ in any of these have different
headers (`Diagnostic.headerRow_identifies`).

Two things make this work for every message and every code.  The token of a severity has a fixed
number of characters, and what follows it is a bracket exactly if there is a code; a message that
starts with a bracket of its own comes behind the colon.  And a code ends at the first character
that is no digit, however many digits it has: filling with zeros does not change its value.
-/

namespace SourceDiagnostics

/-! ### Numerals filled with zeros -/

namespace Text

/-- A number other than zero is written without a zero in front. -/
theorem head?_toDigits_ne_zero {n : Nat} (h : 0 < n) : (Nat.toDigits 10 n).head? ≠ some '0' := by
  induction n using Nat.strong_induction_on with
  | _ n ih =>
      by_cases hsmall : n < 10
      · rw [Nat.toDigits_of_lt_base hsmall]
        have hall : ∀ digit < 10, 0 < digit → [Nat.digitChar digit].head? ≠ some '0' := by decide
        exact hall n hsmall h
      · have hfront := ih (n / 10) (by omega) (by omega)
        rw [Nat.toDigits_of_base_le (by decide) (by omega)]
        cases hdigits : Nat.toDigits 10 (n / 10) with
        | nil => exact absurd hdigits Nat.toDigits_ne_nil
        | cons first rest =>
            rw [hdigits] at hfront
            exact hfront

theorem toList_zeroPadded (width n : Nat) :
    (zeroPadded width n).toList =
      List.replicate (width - (Nat.toDigits 10 n).length) '0' ++ Nat.toDigits 10 n := by
  simp [zeroPadded_natCast, ← String.length_toList]

variable {width n : Nat}

theorem isDigit_of_mem_zeroPadded {c : Char} (h : c ∈ (zeroPadded width n).toList) :
    c.isDigit = true := by
  rw [toList_zeroPadded] at h
  rcases List.mem_append.mp h with hzero | hdigit
  · rw [(List.mem_replicate.mp hzero).2]
    rfl
  · exact Nat.isDigit_of_mem_toDigits (by decide) (by decide) hdigit

/-- Zeros in front do not count. -/
theorem ofDigitChars_zeroPadded (width n : Nat) :
    Nat.ofDigitChars 10 (zeroPadded width n).toList 0 = n := by
  simp [toList_zeroPadded, Nat.ofDigitChars_append, Nat.ofDigitChars_replicate_zero]

theorem length_zeroPadded (width n : Nat) :
    (zeroPadded width n).toList.length = max width (Nat.toDigits 10 n).length := by
  simp only [toList_zeroPadded, List.length_append, List.length_replicate]
  omega

/-- A numeral longer than its field is not filled. -/
theorem head?_zeroPadded_ne_zero (hwidth : 0 < width)
    (h : width < (zeroPadded width n).toList.length) :
    (zeroPadded width n).toList.head? ≠ some '0' := by
  have hlong : width < (Nat.toDigits 10 n).length := by
    rw [length_zeroPadded] at h
    omega
  have hpos : 0 < n := by
    apply Nat.pos_of_ne_zero
    rintro rfl
    rw [Nat.toDigits_zero, List.length_singleton] at hlong
    omega
  rw [toList_zeroPadded, Nat.sub_eq_zero_of_le (Nat.le_of_lt hlong)]
  exact head?_toDigits_ne_zero hpos

end Text

open Text

/-! ### The field of a code -/

/-- The digits of a code. -/
structure IsCodeNumeral (digits : List Char) : Prop where
  decimal : ∀ c ∈ digits, c.isDigit = true
  enough : 6 ≤ digits.length
  /-- Zeros only fill a field that would be too short. -/
  filled : 6 < digits.length → digits.head? ≠ some '0'

/-- What a header holds between its token and its colon: nothing, or a code in brackets. -/
inductive CodeField : Option Nat → List Char → Prop
  | absent : CodeField none []
  | code {digits : List Char} (h : IsCodeNumeral digits) :
      CodeField (some (Nat.ofDigitChars 10 digits 0)) ('[' :: digits ++ [']'])

theorem isCodeNumeral_zeroPadded (code : Nat) :
    IsCodeNumeral (zeroPadded codeWidth code).toList where
  decimal _ hc := isDigit_of_mem_zeroPadded hc
  enough := by
    rw [length_zeroPadded]
    exact Nat.le_max_left ..
  filled := head?_zeroPadded_ne_zero (by decide)

theorem toList_codeToken (code : Nat) :
    (codeToken code).toList = '[' :: (zeroPadded codeWidth code).toList ++ [']'] := by
  simp [codeToken]

theorem Diagnostic.codeField_codeText (d : Diagnostic) : CodeField d.code d.codeText.toList := by
  rw [codeText]
  cases d.code with
  | none => exact .absent
  | some code =>
      have hfield := CodeField.code (isCodeNumeral_zeroPadded code)
      rw [ofDigitChars_zeroPadded] at hfield
      exact (toList_codeToken code).symm ▸ hfield

/-! ### Reading -/

/-- The severity whose token the text starts with, and the text behind it. -/
def readToken? (text : List Char) : Option (Severity × List Char) :=
  (Severity.all.find? fun severity => severity.token.toList == text.take tokenWidth).map
    fun severity => (severity, text.drop tokenWidth)

/-- A code, if the text starts with a bracket, and the text behind it. -/
def readCode? : List Char → Option (Option Nat × List Char)
  | '[' :: rest =>
      match rest.dropWhile Char.isDigit with
      | ']' :: behind => some (some (Nat.ofDigitChars 10 (rest.takeWhile Char.isDigit) 0), behind)
      | _ => none
  | text => some (none, text)

/-- What a header was made of. -/
def readHeader? (text : String) : Option (Severity × Option Nat × String) := do
  let (severity, rest) ← readToken? text.toList
  let (code, rest) ← readCode? rest
  match rest with
  | ':' :: ' ' :: message => some (severity, code, String.ofList message)
  | _ => none

/-- No token is the token of two severities. -/
theorem readToken?_append (severity : Severity) (rest : List Char) :
    readToken? (severity.token.toList ++ rest) = some (severity, rest) := by
  have hlength : severity.token.toList.length = tokenWidth := severity.length_token
  have hfind : Severity.all.find? (fun other => other.token.toList == severity.token.toList) =
      some severity := by
    cases severity <;> decide
  rw [readToken?, List.take_left' hlength, List.drop_left' hlength, hfind]
  rfl

theorem readCode?_append {code : Option Nat} {field : List Char} (h : CodeField code field)
    (message : List Char) :
    readCode? (field ++ ':' :: message) = some (code, ':' :: message) := by
  cases h with
  | absent => rfl
  | @code digits hnumeral =>
      have htext : '[' :: digits ++ [']'] ++ ':' :: message =
          '[' :: (digits ++ ']' :: ':' :: message) := by simp
      have hdigits : (digits ++ ']' :: ':' :: message).takeWhile Char.isDigit = digits := by
        rw [List.takeWhile_append_of_pos hnumeral.decimal, List.takeWhile_cons_of_neg (by decide),
          List.append_nil]
      have hbehind : (digits ++ ']' :: ':' :: message).dropWhile Char.isDigit =
          ']' :: ':' :: message := by
        rw [List.dropWhile_append_of_pos hnumeral.decimal, List.dropWhile_cons_of_neg (by decide)]
      rw [htext, readCode?, hbehind, hdigits]
      rfl

namespace Diagnostic

variable (d : Diagnostic)

theorem toList_plain_headerRow :
    d.headerRow.plain.toList =
      d.severity.token.toList ++ (d.codeText.toList ++ ':' :: ' ' :: d.message.toList) := by
  rw [plain_headerRow]
  simp

/-- **Reading back.**  Nothing of the header is lost. -/
theorem readHeader?_plain_headerRow :
    readHeader? d.headerRow.plain = some (d.severity, d.code, d.message) := by
  rw [readHeader?, toList_plain_headerRow, readToken?_append]
  show (readCode? (d.codeText.toList ++ ':' :: ' ' :: d.message.toList) >>= _) = _
  rw [readCode?_append d.codeField_codeText]
  simp

/-- **Identity.**  A header is the token of the severity in its fixed width, the code in brackets
if there is one, filled with zeros but never cut, a colon, and the whole message.  It can be read
back, so two diagnostics have the same header exactly if they agree in all three. -/
theorem headerRow_identifies :
    d.severity.token.length = 5 ∧
    (∃ field, CodeField d.code field ∧ d.headerRow.plain.toList =
      d.severity.token.toList ++ field ++ [':', ' '] ++ d.message.toList) ∧
    readHeader? d.headerRow.plain = some (d.severity, d.code, d.message) ∧
    ∀ other : Diagnostic, d.headerRow.plain = other.headerRow.plain ↔
      d.severity = other.severity ∧ d.code = other.code ∧ d.message = other.message := by
  refine ⟨d.severity.length_token, ⟨_, d.codeField_codeText, ?_⟩,
    d.readHeader?_plain_headerRow, ?_⟩
  · rw [toList_plain_headerRow]
    simp
  · intro other
    constructor
    · intro hsame
      have hread := d.readHeader?_plain_headerRow
      rw [hsame, other.readHeader?_plain_headerRow] at hread
      simp only [Option.some.injEq, Prod.mk.injEq] at hread
      obtain ⟨hseverity, hcode, hmessage⟩ := hread
      exact ⟨hseverity.symm, hcode.symm, hmessage.symm⟩
    · rintro ⟨hseverity, hcode, hmessage⟩
      simp only [plain_headerRow, codeText, hseverity, hcode, hmessage]

end Diagnostic

/-- A message that looks like a code is kept apart from a code. -/
example :
    readHeader? " warn: [000010]: late" = some (.warning, none, "[000010]: late") ∧
    readHeader? " warn[000010]: late" = some (.warning, some 10, "late") := by
  decide +kernel

end SourceDiagnostics
