import SourceDiagnostics.Text.Bytes

/-!
# Text as bytes

Text is indexed by the bytes of its UTF-8 encoding, so two questions about characters are asked of
single bytes: whether an offset lies inside a character, and where a given character stands.  The
encoding answers both.  A byte continues a character exactly if its leading bits are `10`, so the
offsets on no such byte are the boundaries, `isBoundary_iff_not_continuesAt`; and a byte below
`0x80` is only ever a character of its own, `toNat_eq_of_mem_utf8EncodeChar`, so it can be searched
for without decoding anything.
-/

namespace SourceDiagnostics.Text

/-- Whether a byte continues a character: its leading bits are `10`. -/
def isContinuation (b : UInt8) : Bool := b &&& 0xC0 == 0x80

/-- Whether the byte at an offset continues a character.  There is none at the end. -/
def continuesAt (bytes : ByteArray) (offset : Nat) : Bool :=
  if h : offset < bytes.size then isContinuation bytes[offset] else false

/-- The offsets at which a byte occurs, in order. -/
def offsetsOf (b : UInt8) (bytes : ByteArray) : Array Nat :=
  (bytes.data.zipIdx.filter fun entry => entry.1 == b).map Prod.snd

/-! ### The bytes of one character -/

private theorem forall_byte {P : UInt8 → Prop} (h : ∀ n, n < 256 → P (UInt8.ofNat n)) (b : UInt8) :
    P b := by
  have hb := h b.toNat b.toNat_lt
  rwa [UInt8.ofNat_toNat] at hb

private theorem isContinuation_low_bits : ∀ b : UInt8, isContinuation (b &&& 0x3F ||| 0x80) := by
  apply forall_byte
  decide +kernel

private theorem not_isContinuation_of_isUTF8FirstByte :
    ∀ b : UInt8, b.IsUTF8FirstByte → isContinuation b = false := by
  apply forall_byte
  decide +kernel

private theorem le_of_marked : ∀ b : UInt8, 0x80 ≤ b &&& 0x3F ||| 0x80 ∧
    0x80 ≤ b &&& 0x1F ||| 0xC0 ∧ 0x80 ≤ b &&& 0x0F ||| 0xE0 ∧ 0x80 ≤ b &&& 0x07 ||| 0xF0 := by
  apply forall_byte
  decide +kernel

theorem isContinuation_of_mem_tail {c : Char} :
    ∀ b ∈ (String.utf8EncodeChar c).tail, isContinuation b := by
  rcases c.utf8Size_eq with h | h | h | h
  · simp [String.utf8EncodeChar_eq_singleton h]
  · simp [String.utf8EncodeChar_eq_cons_cons h, isContinuation_low_bits]
  · simp [String.utf8EncodeChar_eq_cons_cons_cons h, isContinuation_low_bits]
  · simp [String.utf8EncodeChar_eq_cons_cons_cons_cons h, isContinuation_low_bits]

/-- A byte of a character either begins or continues it. -/
theorem isUTF8FirstByte_iff_of_mem {c : Char} {b : UInt8} (h : b ∈ String.utf8EncodeChar c) :
    b.IsUTF8FirstByte ↔ isContinuation b = false := by
  refine ⟨not_isContinuation_of_isUTF8FirstByte b, fun hb => ?_⟩
  obtain ⟨i, hi, rfl⟩ := List.getElem_of_mem h
  rw [UInt8.isUTF8FirstByte_getElem_utf8EncodeChar]
  cases i with
  | zero => rfl
  | succ i =>
      have htail : (String.utf8EncodeChar c)[i + 1] ∈ (String.utf8EncodeChar c).tail := by
        rw [← List.getElem_tail (by rw [List.length_tail]; omega)]
        exact List.getElem_mem _
      rw [isContinuation_of_mem_tail _ htail] at hb
      cases hb

theorem le_of_mem_utf8EncodeChar {c : Char} (hc : c.utf8Size ≠ 1) :
    ∀ b ∈ String.utf8EncodeChar c, 0x80 ≤ b := by
  rcases c.utf8Size_eq with h | h | h | h
  · exact absurd h hc
  · simp [String.utf8EncodeChar_eq_cons_cons h, le_of_marked]
  · simp [String.utf8EncodeChar_eq_cons_cons_cons h, le_of_marked]
  · simp [String.utf8EncodeChar_eq_cons_cons_cons_cons h, le_of_marked]

/-- **ASCII.**  A byte below `0x80` occurs in no character but the one it is the code of. -/
theorem toNat_eq_of_mem_utf8EncodeChar {c : Char} {b : UInt8} (h : b ∈ String.utf8EncodeChar c)
    (hb : b < 0x80) : c.toNat = b.toNat := by
  by_cases hc : c.utf8Size = 1
  · have hsmall : c.toNat < 256 := by
      have hle := UInt32.le_iff_toNat_le.mp (Char.utf8Size_eq_one_iff.mp hc)
      exact Nat.lt_of_le_of_lt hle (by decide)
    rw [String.utf8EncodeChar_eq_singleton hc, List.mem_singleton] at h
    rw [h, UInt32.toNat_toUInt8]
    exact (Nat.mod_eq_of_lt hsmall).symm
  · have hlarge := le_of_mem_utf8EncodeChar hc b h
    exact absurd hb (UInt8.not_lt.mpr hlarge)

/-! ### The bytes of a text -/

/-- The bytes of a text are those of its characters, in order. -/
theorem toList_bytes (text : String) :
    text.toByteArray.data.toList = text.toList.flatMap String.utf8EncodeChar := by
  conv => lhs; rw [← String.ofList_toList (s := text)]
  rw [String.toByteArray_ofList, List.utf8Encode, List.toList_data_toByteArray]

/-- **Boundaries.**  The boundaries of a text are the offsets within it that lie on no byte which
continues a character. -/
theorem isBoundary_iff_not_continuesAt {text : String} {offset : Nat}
    (hle : offset ≤ text.utf8ByteSize) :
    IsBoundary text offset ↔ continuesAt text.toByteArray offset = false := by
  rcases Nat.lt_or_eq_of_le hle with hlt | rfl
  · have hsize : offset < text.toByteArray.size := hlt
    have hmem : text.toByteArray[offset] ∈ text.toList.flatMap String.utf8EncodeChar := by
      rw [← toList_bytes, Array.mem_toList_iff]
      exact Array.getElem_mem _
    obtain ⟨c, _, hc⟩ := List.mem_flatMap.mp hmem
    rw [continuesAt, dif_pos hsize, ← isUTF8FirstByte_iff_of_mem hc, IsBoundary,
      String.Pos.Raw.isValid_iff_isUTF8FirstByte]
    constructor
    · rintro (hend | ⟨_, hfirst⟩)
      · rw [String.Pos.Raw.ext_iff] at hend
        exact absurd hend (Nat.ne_of_lt hlt)
      · exact hfirst
    · intro hfirst
      exact Or.inr ⟨hlt, hfirst⟩
  · have hend : continuesAt text.toByteArray text.utf8ByteSize = false :=
      dif_neg (Nat.lt_irrefl _)
    simp [hend, isBoundary_utf8ByteSize]

/-- Decoding the bytes of a text gives the text back. -/
theorem fromUTF8?_toByteArray (text : String) : String.fromUTF8? text.toByteArray = some text := by
  rw [String.fromUTF8?, dif_pos text.isValidUTF8]
  rfl

/-- **Decoding.**  The bytes between two boundaries decode to the text between them. -/
theorem fromUTF8?_extract_of_between {text middle : String} {start stop : Nat}
    (h : between text start stop = some middle) :
    String.fromUTF8? (text.toByteArray.extract start stop) = some middle := by
  obtain ⟨hstart, hstop, rfl⟩ := between_eq_some_iff.mp h
  rw [← fromUTF8?_toByteArray, String.toByteArray_extract]

theorem toList_offsetsOf (b : UInt8) (text : String) :
    (offsetsOf b text.toByteArray).toList =
      ((text.toList.flatMap String.utf8EncodeChar).zipIdx.filter fun entry => entry.1 == b).map
        Prod.snd := by
  rw [offsetsOf, Array.toList_map, Array.toList_filter, Array.toList_zipIdx, toList_bytes]

end SourceDiagnostics.Text
