/-!
# Chains of steps that may fail

Lookups, layouts and frames are chains of steps in `Except`, each of which may end the chain with
a fault.  These lemmas take a finished chain apart: it succeeds exactly when every step does.
-/

namespace SourceDiagnostics.Result

variable {ε α β : Type}

/-- A chain succeeds exactly when its first step does and the rest succeeds from there. -/
theorem bind_eq_ok_iff {first : Except ε α} {next : α → Except ε β} {b : β} :
    first >>= next = .ok b ↔ ∃ a, first = .ok a ∧ next a = .ok b := by
  cases first with
  | error fault =>
      constructor
      · intro h
        cases h
      · rintro ⟨a, h, _⟩
        cases h
  | ok a =>
      constructor
      · intro h
        exact ⟨a, rfl, h⟩
      · rintro ⟨a', h, hnext⟩
        cases h
        exact hnext

/-- Steps over a list succeed exactly when each does, and give their results in order. -/
theorem mapM_eq_ok_iff {step : α → Except ε β} {items : List α} {results : List β} :
    items.mapM step = .ok results ↔ items.map step = results.map .ok := by
  induction items generalizing results with
  | nil =>
      cases results with
      | nil => exact ⟨fun _ => rfl, fun _ => rfl⟩
      | cons b bs =>
          constructor
          · intro h
            cases h
          · intro h
            cases h
  | cons item rest ih =>
      rw [List.mapM_cons, bind_eq_ok_iff]
      constructor
      · rintro ⟨b, hitem, h⟩
        obtain ⟨bs, hrest, h⟩ := bind_eq_ok_iff.mp h
        cases h
        rw [List.map_cons, List.map_cons, hitem, ih.mp hrest]
      · intro h
        cases results with
        | nil => cases h
        | cons b bs =>
            rw [List.map_cons, List.map_cons] at h
            obtain ⟨hitem, hrest⟩ := List.cons.inj h
            exact ⟨b, hitem, bind_eq_ok_iff.mpr ⟨bs, ih.mpr hrest, rfl⟩⟩

theorem exists_mapM_of_forall {step : α → Except ε β} {items : List α}
    (h : ∀ item ∈ items, ∃ b, step item = .ok b) : ∃ results, items.mapM step = .ok results := by
  induction items with
  | nil => exact ⟨[], rfl⟩
  | cons item rest ih =>
      obtain ⟨b, hitem⟩ := h item (List.mem_cons_self ..)
      obtain ⟨bs, hrest⟩ := ih fun other hother => h other (List.mem_cons_of_mem _ hother)
      refine ⟨b :: bs, ?_⟩
      rw [List.mapM_cons, hitem, hrest]
      rfl

end SourceDiagnostics.Result
