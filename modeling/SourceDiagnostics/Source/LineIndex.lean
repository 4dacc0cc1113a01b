import SourceDiagnostics.Search.LowerBound
import SourceDiagnostics.Source.Fault
import SourceDiagnostics.Source.Location
import SourceDiagnostics.Text.Encoding

/-!
# The line index of a text

An index holds the encoded bytes of a text and the offsets of all line breaks among them, found in
one pass, and answers every question about the lines of the text from these: where a byte offset
lies, where a line begins and ends, which text it holds.  Only a line feed breaks a line, and the
break itself belongs to the line it ends.

Bytes and table are part of the type, `bytes_eq` and `breaks_eq`, so an index is determined by its
text.  Lookups are partial: they answer with a `LookupFault` where a position does not exist, and
they look at bytes only.  What they mean for characters is proved: `toList_breaks` for the table,
`checkOffset_eq_ok_iff` for offsets, `textBetween_of_between` for text that is cut out.
-/

namespace SourceDiagnostics

open Text Search

def lineBreak : Char := '\n'

/-- The one byte that a line break is encoded in. -/
def lineBreakByte : UInt8 := 0x0A

/-- The byte offsets of the line breaks of characters that begin at byte `offset`. -/
def breakOffsets (offset : Nat) : List Char → List Nat
  | [] => []
  | c :: rest =>
      if c = lineBreak then offset :: breakOffsets (offset + c.utf8Size) rest
      else breakOffsets (offset + c.utf8Size) rest

theorem lineBreakByte_mem_utf8EncodeChar {c : Char} :
    lineBreakByte ∈ String.utf8EncodeChar c ↔ c = lineBreak := by
  constructor
  · intro h
    exact Char.toNat_inj.mp (toNat_eq_of_mem_utf8EncodeChar h (by decide))
  · rintro rfl
    decide

/-- The bytes searched for are the breaks among the characters. -/
theorem filter_zipIdx_eq_breakOffsets (offset : Nat) (cs : List Char) :
    (((cs.flatMap String.utf8EncodeChar).zipIdx offset).filter
      fun entry => entry.1 == lineBreakByte).map Prod.snd = breakOffsets offset cs := by
  induction cs generalizing offset with
  | nil => rfl
  | cons c rest ih =>
      rw [List.flatMap_cons, List.zipIdx_append, List.filter_append, List.map_append,
        String.length_utf8EncodeChar, ih, breakOffsets]
      split
      · subst c
        rfl
      · rename_i hc
        have hnone : ((String.utf8EncodeChar c).zipIdx offset).filter
            (fun entry => entry.1 == lineBreakByte) = [] := by
          rw [List.filter_eq_nil_iff]
          rintro ⟨b, position⟩ hmem hb
          rw [beq_iff_eq] at hb
          subst hb
          exact hc (lineBreakByte_mem_utf8EncodeChar.mp (List.fst_mem_of_mem_zipIdx hmem))
        rw [hnone, List.map_nil, List.nil_append]

/-- No break lies before the characters it is a break of. -/
theorem le_of_mem_breakOffsets {offset b : Nat} {cs : List Char}
    (h : b ∈ breakOffsets offset cs) : offset ≤ b := by
  induction cs generalizing offset with
  | nil => cases h
  | cons c rest ih =>
      have hrest : b ∈ breakOffsets (offset + c.utf8Size) rest → offset ≤ b := fun hb =>
        Nat.le_trans (Nat.le_add_right ..) (ih hb)
      unfold breakOffsets at h
      split at h
      · rcases List.mem_cons.mp h with rfl | hb
        · exact Nat.le_refl _
        · exact hrest hb
      · exact hrest h

theorem breakOffsets_pairwise (offset : Nat) (cs : List Char) :
    (breakOffsets offset cs).Pairwise (· < ·) := by
  induction cs generalizing offset with
  | nil => exact List.Pairwise.nil
  | cons c rest ih =>
      unfold breakOffsets
      split
      · refine List.Pairwise.cons ?_ (ih _)
        intro b hb
        exact Nat.lt_of_lt_of_le (Nat.lt_add_of_pos_right c.utf8Size_pos)
          (le_of_mem_breakOffsets hb)
      · exact ih _

/-- A text with its bytes and the offsets of its line breaks. -/
structure LineIndex where
  content : String
  bytes : ByteArray
  breaks : Array Nat
  bytes_eq : bytes = content.toByteArray
  breaks_eq : breaks = offsetsOf lineBreakByte bytes

namespace LineIndex

def ofContent (content : String) : LineIndex where
  content := content
  bytes := content.toByteArray
  breaks := offsetsOf lineBreakByte content.toByteArray
  bytes_eq := rfl
  breaks_eq := rfl

/-- The number of lines; what follows the last break counts, even if it is empty. -/
def lineCount (x : LineIndex) : Nat := x.breaks.size + 1

def byteLength (x : LineIndex) : Nat := x.content.utf8ByteSize

/-! ### Lines by number from zero -/

/-- The byte where a line begins: behind the break that ends the line before. -/
def startOf (x : LineIndex) : Nat → Nat
  | 0 => 0
  | line + 1 => x.breaks.getD line x.byteLength + 1

/-- The byte where a line ends: at its break, or at the end of the text for the last line. -/
def endOf (x : LineIndex) (line : Nat) : Nat := x.breaks.getD line x.byteLength

/-! ### Checked lookups -/

/-- The byte offset, if it lies within the text and not inside a character. -/
def checkOffset (x : LineIndex) (offset : Int) : Except LookupFault Nat :=
  if offset < 0 ∨ x.byteLength < offset then .error (.offsetOutside offset x.byteLength)
  else if continuesAt x.bytes offset.toNat then
    .error (.offsetInsideCharacter offset x.byteLength)
  else .ok offset.toNat

/-- The number of a line from zero, if the text has that line. -/
def checkLine (x : LineIndex) (line : Int) : Except LookupFault Nat :=
  if line < 1 ∨ x.lineCount < line then .error (.lineOutside line x.lineCount)
  else .ok (line.toNat - 1)

/-- The location of a byte: its line is found among the breaks, its column counts from the start
of that line. -/
def locate (x : LineIndex) (byte : Nat) : Location where
  line := lowerBound x.breaks byte + 1
  column := byte - x.startOf (lowerBound x.breaks byte) + 1

/-- The location of an offset.  The offset of a line break is the end of the line it breaks. -/
def toLocation (x : LineIndex) (offset : Int) : Except LookupFault Location :=
  (x.checkOffset offset).map x.locate

/-- The byte offset of a location whose column does not pass the end of its line. -/
def toOffset (x : LineIndex) (l : Location) : Except LookupFault Nat := do
  let line ← x.checkLine l.line
  let offset := x.startOf line + (l.column - 1)
  if x.endOf line < offset then
    .error (.columnOutside l.line l.column (x.endOf line - x.startOf line) offset x.byteLength)
  else .ok offset

def lineStart (x : LineIndex) (line : Int) : Except LookupFault Nat :=
  (x.checkLine line).map x.startOf

/-- The text that the bytes between two offsets encode. -/
def textBetween (x : LineIndex) (start stop : Nat) : Except LookupFault String :=
  match String.fromUTF8? (x.bytes.extract start stop) with
  | some text => .ok text
  | none => .error (.notText start stop)

/-- The text of a line without its break. -/
def lineText (x : LineIndex) (line : Int) : Except LookupFault String := do
  let n ← x.checkLine line
  x.textBetween (x.startOf n) (x.endOf n)

/-- The text between two offsets, empty if they are in the wrong order. -/
def slice (x : LineIndex) (start stop : Int) : Except LookupFault String := do
  let first ← x.checkOffset start
  let last ← x.checkOffset stop
  x.textBetween first last

/-! ### An index is determined by its text -/

theorem ext {x y : LineIndex} (h : x.content = y.content) : x = y := by
  obtain ⟨content, bytes, breaks, hbytes, hbreaks⟩ := x
  obtain ⟨content', bytes', breaks', hbytes', hbreaks'⟩ := y
  cases h
  subst hbytes hbytes' hbreaks hbreaks'
  rfl

@[simp] theorem content_ofContent (content : String) : (ofContent content).content = content := rfl

theorem eq_ofContent (x : LineIndex) : x = ofContent x.content := ext rfl

/-! ### The break table -/

/-- **Breaks.**  The table holds the offsets of the line breaks among the characters. -/
theorem toList_breaks (x : LineIndex) : x.breaks.toList = breakOffsets 0 x.content.toList := by
  rw [x.breaks_eq, x.bytes_eq, toList_offsetsOf, filter_zipIdx_eq_breakOffsets]

/-- The breaks are strictly increasing, which is what the search relies on. -/
theorem breaks_pairwise (x : LineIndex) : x.breaks.toList.Pairwise (· < ·) := by
  rw [toList_breaks]
  exact breakOffsets_pairwise 0 _

/-! ### When the checks pass -/

theorem continuesAt_bytes {x : LineIndex} {byte : Nat} (hle : byte ≤ x.content.utf8ByteSize) :
    continuesAt x.bytes byte = false ↔ IsBoundary x.content byte := by
  rw [x.bytes_eq, isBoundary_iff_not_continuesAt hle]

/-- **Offsets.**  An offset is accepted exactly when it is a boundary of the text. -/
theorem checkOffset_eq_ok_iff (x : LineIndex) (offset : Int) (byte : Nat) :
    x.checkOffset offset = .ok byte ↔ (byte : Int) = offset ∧ IsBoundary x.content byte := by
  unfold checkOffset byteLength
  constructor
  · intro h
    split at h
    · cases h
    · split at h
      · cases h
      · rename_i hrange hcontinues
        cases h
        exact ⟨by omega, (continuesAt_bytes (by omega)).mp (by simpa using hcontinues)⟩
  · rintro ⟨rfl, hboundary⟩
    have hle := hboundary.le
    have hrange : ¬ ((byte : Int) < 0 ∨ (x.content.utf8ByteSize : Int) < byte) := by omega
    have hcontinues := (continuesAt_bytes hle).mpr hboundary
    rw [if_neg hrange, Int.toNat_natCast, if_neg (by simp [hcontinues])]

/-- **Lines.**  A line number is accepted exactly when the text has that line. -/
theorem checkLine_eq_ok_iff (x : LineIndex) (line : Int) (n : Nat) :
    x.checkLine line = .ok n ↔ line = n + 1 ∧ n < x.lineCount := by
  unfold checkLine
  constructor
  · intro h
    split at h
    · cases h
    · cases h
      omega
  · rintro ⟨rfl, hlt⟩
    rw [if_neg (by omega)]
    congr 1

/-- **Text.**  What two boundaries cut out is decoded as it stands in the text. -/
theorem textBetween_of_between {x : LineIndex} {start stop : Nat} {text : String}
    (h : between x.content start stop = some text) : x.textBetween start stop = .ok text := by
  rw [textBetween, x.bytes_eq, fromUTF8?_extract_of_between h]

end LineIndex

end SourceDiagnostics
