import SourceDiagnostics.Text.Terminators

/-!
# What the lines of free text are

A direct description of how free text is cut: it is one line behind the other, each with what ends
it, and the last one may lack an end if it is not empty.  A carriage return with a line feed behind
it is one end, never two.  Every text can be cut like this in exactly one way, and
`terminatedLines` finds it (`terminatedLines_eq_iff`).
-/

namespace SourceDiagnostics.Text

/-- The code points that end a line: line feed, vertical tab, form feed, carriage return, the
three information separators, next line, and the separators of lines and paragraphs. -/
def EndsLine (c : Char) : Prop :=
  c.toNat ∈ [0x0A, 0x0B, 0x0C, 0x0D, 0x1C, 0x1D, 0x1E, 0x85, 0x2028, 0x2029]

instance (c : Char) : Decidable (EndsLine c) := inferInstanceAs (Decidable (_ ∈ _))

inductive LineEnd : List Char → Prop
  | pair : LineEnd ['\r', '\n']
  | single {c : Char} (h : EndsLine c) : LineEnd [c]

/-- A text with its lines. -/
inductive CutInto : List Char → List (List Char) → Prop
  | nil : CutInto [] []
  | last {line : List Char} (hne : line ≠ []) (hline : ∀ c ∈ line, ¬ EndsLine c) :
      CutInto line [line]
  | ended {line ending rest : List Char} {lines : List (List Char)}
      (hline : ∀ c ∈ line, ¬ EndsLine c) (hending : LineEnd ending)
      (hpair : ending = ['\r'] → rest.head? ≠ some '\n') (hrest : CutInto rest lines) :
      CutInto (line ++ ending ++ rest) (line :: lines)

/-- A paragraph with its lines; it has one even if it is empty. -/
inductive IsParagraph : String → List String → Prop
  | empty : IsParagraph "" [""]
  | cut {text : String} {lines : List (List Char)} (hne : text ≠ "")
      (h : CutInto text.toList lines) : IsParagraph text (lines.map String.ofList)

theorem isTerminator_iff {c : Char} : isTerminator c = true ↔ EndsLine c := by
  simp only [isTerminator, terminators, EndsLine, List.contains_iff_mem, List.mem_cons,
    List.not_mem_nil, or_false, ← Char.toNat_inj]
  constructor
  · intro h
    rcases h with h | h | h | h | h | h | h | h | h | h <;> simp [h]
  · intro h
    rcases h with h | h | h | h | h | h | h | h | h | h <;> simp [h]

/-! ### One step -/

theorem terminatedLines_cons_of_not {c : Char} (h : ¬ EndsLine c) (rest : List Char) :
    terminatedLines (c :: rest) = extendFirst c (terminatedLines rest) := by
  have hc : c ≠ '\r' := by
    rintro rfl
    exact h (by decide)
  have hnot : ¬ isTerminator c = true := fun hend => h (isTerminator_iff.mp hend)
  rw [terminatedLines, if_neg hnot]
  rintro _ rfl
  exact absurd rfl hc

theorem terminatedLines_ending {ending rest : List Char} (h : LineEnd ending)
    (hpair : ending = ['\r'] → rest.head? ≠ some '\n') :
    terminatedLines (ending ++ rest) = [] :: terminatedLines rest := by
  cases h with
  | pair => rfl
  | @single c hend =>
      rw [List.singleton_append, terminatedLines, if_pos (isTerminator_iff.mpr hend)]
      rintro behind rfl rfl
      exact hpair rfl rfl

theorem terminatedLines_append {line ending rest : List Char}
    (hline : ∀ c ∈ line, ¬ EndsLine c) (hending : LineEnd ending)
    (hpair : ending = ['\r'] → rest.head? ≠ some '\n') :
    terminatedLines (line ++ ending ++ rest) = line :: terminatedLines rest := by
  induction line with
  | nil => exact terminatedLines_ending hending hpair
  | cons c more ih =>
      rw [List.forall_mem_cons] at hline
      rw [List.cons_append, List.cons_append, terminatedLines_cons_of_not hline.1, ih hline.2]
      rfl

theorem terminatedLines_last {line : List Char} (hne : line ≠ [])
    (hline : ∀ c ∈ line, ¬ EndsLine c) : terminatedLines line = [line] := by
  induction line with
  | nil => exact absurd rfl hne
  | cons c more ih =>
      rw [List.forall_mem_cons] at hline
      rw [terminatedLines_cons_of_not hline.1]
      cases more with
      | nil => rfl
      | cons next others =>
          rw [ih (List.cons_ne_nil _ _) hline.2]
          rfl

/-! ### All lines -/

theorem CutInto.cons {c : Char} (hc : ¬ EndsLine c) {text : List Char} {lines : List (List Char)}
    (h : CutInto text lines) : CutInto (c :: text) (extendFirst c lines) := by
  cases h with
  | nil => exact .last (List.cons_ne_nil _ _) (by simpa using hc)
  | last hne hline =>
      exact .last (List.cons_ne_nil _ _) (List.forall_mem_cons.mpr ⟨hc, hline⟩)
  | @ended line ending rest others hline hending hpair hrest =>
      exact @ended (c :: line) _ _ _ (List.forall_mem_cons.mpr ⟨hc, hline⟩) hending hpair hrest

theorem cutInto_terminatedLines (text : List Char) : CutInto text (terminatedLines text) := by
  fun_induction terminatedLines text with
  | case1 => exact .nil
  | case2 rest ih => exact @CutInto.ended [] _ _ _ (by simp) .pair (by simp) ih
  | case3 c rest hpair hc ih =>
      refine @CutInto.ended [] _ _ _ (by simp) (.single (isTerminator_iff.mp hc)) ?_ ih
      intro hreturn hfeed
      cases rest with
      | nil => cases hfeed
      | cons next others =>
          cases hreturn
          cases hfeed
          exact hpair others rfl rfl
  | case4 c rest _ hc ih => exact ih.cons fun hend => hc (isTerminator_iff.mpr hend)

/-- **Lines.**  There is one way to cut a text. -/
theorem terminatedLines_eq_iff {text : List Char} {lines : List (List Char)} :
    terminatedLines text = lines ↔ CutInto text lines := by
  constructor
  · rintro rfl
    exact cutInto_terminatedLines text
  · intro h
    induction h with
    | nil => rfl
    | last hne hline => exact terminatedLines_last hne hline
    | ended hline hending hpair _ ih => rw [terminatedLines_append hline hending hpair, ih]

theorem paragraphLines_of_ne_empty {text : String} (h : text ≠ "") :
    paragraphLines text = (terminatedLines text.toList).map String.ofList := by
  have hne : terminatedLines text.toList ≠ [] := by
    rw [ne_eq, terminatedLines_eq_nil_iff]
    exact mt String.toList_eq_nil_iff.mp h
  rw [paragraphLines]
  split
  · rename_i hnil
    exact absurd hnil hne
  · rfl

/-- **Paragraphs.**  Their lines are those of free text, or an empty one. -/
theorem paragraphLines_eq_iff {text : String} {lines : List String} :
    paragraphLines text = lines ↔ IsParagraph text lines := by
  constructor
  · rintro rfl
    by_cases hempty : text = ""
    · rw [hempty]
      exact .empty
    · rw [paragraphLines_of_ne_empty hempty]
      exact .cut hempty (cutInto_terminatedLines _)
  · intro h
    cases h with
    | empty => rfl
    | cut hne h => rw [paragraphLines_of_ne_empty hne, terminatedLines_eq_iff.mpr h]

theorem length_paragraphLines (text : String) :
    (paragraphLines text).length = max 1 (terminatedLines text.toList).length := by
  by_cases hempty : text = ""
  · rw [hempty]
    rfl
  · have hpos : 0 < (paragraphLines text).length :=
      List.length_pos_iff.mpr (paragraphLines_ne_nil text)
    rw [paragraphLines_of_ne_empty hempty, List.length_map] at *
    omega

/-- A pair is one end, two line feeds are two, and the last end opens no line. -/
example : paragraphLines "a\r\nb\n\n\rc\r" = ["a", "b", "", "", "c"] := by decide +kernel

end SourceDiagnostics.Text
