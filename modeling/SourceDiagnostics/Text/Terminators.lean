/-!
# Lines ended by any terminator

Free text such as a note is cut at every line terminator it may carry: line feed, carriage return
(the pair of both is one terminator), vertical tab, form feed, the three information separators,
next line, and the two Unicode separators.  A terminator ends a line rather than separating two,
so one at the very end adds no empty line, and empty text has no lines at all.

Source text is cut differently, at line feeds only; see the line index.
-/

namespace SourceDiagnostics.Text

/-- The characters that end a line of free text. -/
def terminators : List Char :=
  ['\n', '\r', '\x0b', '\x0c', '\x1c', '\x1d', '\x1e', '\x85', '\u2028', '\u2029']

def isTerminator (c : Char) : Bool := terminators.contains c

/-- Puts a character in front of the first line, opening one if there is none. -/
def extendFirst (c : Char) : List (List Char) → List (List Char)
  | [] => [[c]]
  | line :: lines => (c :: line) :: lines

/-- The lines of free text, without their terminators. -/
def terminatedLines : List Char → List (List Char)
  | [] => []
  | '\r' :: '\n' :: rest => [] :: terminatedLines rest
  | c :: rest =>
      if isTerminator c then [] :: terminatedLines rest
      else extendFirst c (terminatedLines rest)

/-- The lines of a paragraph: those of free text, or one empty line for empty text. -/
def paragraphLines (text : String) : List String :=
  match terminatedLines text.toList with
  | [] => [""]
  | lines => lines.map String.ofList

/-! ### Lines hold no terminator -/

theorem extendFirst_ne_nil (c : Char) (lines : List (List Char)) : extendFirst c lines ≠ [] := by
  cases lines <;> simp [extendFirst]

private theorem forall_mem_extendFirst {P : Char → Prop} {c : Char} {lines : List (List Char)}
    (hc : P c) (h : ∀ line ∈ lines, ∀ x ∈ line, P x) :
    ∀ line ∈ extendFirst c lines, ∀ x ∈ line, P x := by
  cases lines with
  | nil => simpa [extendFirst] using hc
  | cons first rest =>
      intro line hline x hx
      simp only [extendFirst, List.mem_cons] at hline
      rcases hline with rfl | hline
      · rcases List.mem_cons.mp hx with rfl | hx
        · exact hc
        · exact h first (List.mem_cons_self ..) x hx
      · exact h line (List.mem_cons_of_mem _ hline) x hx

/-- No line of free text contains a terminator. -/
theorem not_isTerminator_of_mem (text : List Char) :
    ∀ line ∈ terminatedLines text, ∀ c ∈ line, isTerminator c = false := by
  fun_induction terminatedLines text with
  | case1 => simp
  | case2 rest ih => simpa using ih
  | case3 c rest _ hc ih => simpa using ih
  | case4 c rest _ hc ih =>
      exact forall_mem_extendFirst (by simpa using hc) ih

theorem paragraphLines_ne_nil (text : String) : paragraphLines text ≠ [] := by
  unfold paragraphLines
  split <;> simp_all

/-! ### Lines hold nothing else than the text -/

theorem flatten_extendFirst (c : Char) (lines : List (List Char)) :
    (extendFirst c lines).flatten = c :: lines.flatten := by
  cases lines <;> rfl

/-- Only terminators are lost. -/
theorem flatten_terminatedLines_sublist (text : List Char) :
    (terminatedLines text).flatten.Sublist text := by
  fun_induction terminatedLines text with
  | case1 => exact List.Sublist.refl _
  | case2 rest ih => exact (ih.cons _).cons _
  | case3 c rest _ _ ih => exact ih.cons _
  | case4 c rest _ _ ih =>
      rw [flatten_extendFirst]
      exact ih.cons_cons _

theorem mem_paragraphLines {text line : String} (h : line ∈ paragraphLines text) {c : Char}
    (hc : c ∈ line.toList) : c ∈ text.toList ∧ isTerminator c = false := by
  rw [paragraphLines] at h
  split at h
  · rw [List.mem_singleton.mp h] at hc
    cases hc
  · obtain ⟨cs, hcs, rfl⟩ := List.mem_map.mp h
    rw [String.toList_ofList] at hc
    exact ⟨(flatten_terminatedLines_sublist _).mem (List.mem_flatten.mpr ⟨cs, hcs, hc⟩),
      not_isTerminator_of_mem _ cs hcs c hc⟩

theorem terminatedLines_eq_nil_iff (text : List Char) : terminatedLines text = [] ↔ text = [] := by
  fun_cases terminatedLines text <;> simp_all [extendFirst_ne_nil]

end SourceDiagnostics.Text
