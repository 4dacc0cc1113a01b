import SourceDiagnostics.Frame.Basic
import SourceDiagnostics.Proofs.Snippet.Rendering

/-!
# What rendering a diagnostic comes to

A frame is rendered, or it is not, for a reason that can be told beforehand.  Everything that has to
hold is a list of checks: source by source, in the order in which the sources first appear, that
the source is registered, and then that its regions start and end at boundaries of its text.  If
all of them pass there is a frame, and otherwise the first one that fails gives the error.

That nothing else can fail is the point of the modules on snippets: what has been planned is drawn,
`Layout.Shows.render_eq_rows`.
-/

namespace SourceDiagnostics

open Text

/-! ### Checks -/

/-- Something that has to hold for a diagnostic to be rendered. -/
inductive Check
  | registered (source : Int)
  | boundary (source : Int) (offset : Nat)
deriving DecidableEq, Repr

/-- The error of a check that fails.  The text of a source that is not registered cannot be looked
into, and the check that it is comes first. -/
def Check.fault? (sources : Sources) : Check → Option LookupFault
  | registered source =>
      match sources.get? source with
      | some _ => none
      | none => some (.unknownSource source sources.size)
  | boundary source offset =>
      match sources.get? source with
      | some found =>
          if found.content.utf8ByteSize < offset then
            some (.offsetOutside offset found.content.utf8ByteSize)
          else if IsBoundary found.content offset then none
          else some (.offsetInsideCharacter offset found.content.utf8ByteSize)
      | none => none

/-- Regions grouped by source, the groups in the order of their first regions. -/
def groups : List Highlight → List (Int × List Highlight)
  | [] => []
  | h :: rest =>
      (h.source, h :: rest.filter fun other => other.source = h.source) ::
        groups (rest.filter fun other => other.source ≠ h.source)
termination_by highlights => highlights.length
decreasing_by
  rw [List.length_unattach]
  apply Nat.lt_succ_of_le
  exact Nat.le_trans (List.length_filter_le _ _) (Nat.le_of_eq List.length_attach)

def Highlight.checks (h : Highlight) : List Check :=
  [.boundary h.source h.region.start, .boundary h.source h.region.stop]

def groupChecks (group : Int × List Highlight) : List Check :=
  .registered group.1 :: group.2.flatMap Highlight.checks

/-- All checks of a diagnostic, in order. -/
def Diagnostic.checks (d : Diagnostic) : List Check := (groups d.highlights).flatMap groupChecks

/-- The error of the first check that fails. -/
def firstFault (sources : Sources) (checks : List Check) : Option LookupFault :=
  checks.findSome? (Check.fault? sources)

/-- Laying out takes the regions in the same groups. -/
theorem bySource_eq_groups (highlights : List Highlight) :
    bySource highlights = groups highlights := by
  -- each group takes regions away from the list, so the induction is on its length
  induction hlength : highlights.length using Nat.strong_induction_on generalizing highlights with
  | _ n ih =>
      cases highlights with
      | nil => rw [groups]; rfl
      | cons h rest =>
          have hrest := ih (rest.filter fun other => other.source ≠ h.source).length
            (by rw [← hlength]; exact Nat.lt_succ_of_le (List.length_filter_le _ _)) _ rfl
          have hsources : ((rest.map Highlight.source).filter fun source => !source == h.source) =
              (rest.filter fun other => other.source ≠ h.source).map Highlight.source := by
            rw [List.filter_map]
            congr 1
            apply List.filter_congr
            intro other _
            by_cases heq : other.source = h.source
            · simp [heq]
            · simp [heq]
          rw [groups, ← hrest, bySource, List.map_cons, List.eraseDups_cons, hsources,
            List.map_cons, bySource]
          congr 1
          · simp
          · apply List.map_congr_left
            intro source hmem
            rw [List.mem_eraseDups, List.mem_map] at hmem
            obtain ⟨other, hother, rfl⟩ := hmem
            have hne : other.source ≠ h.source := by
              simpa using (List.mem_filter.mp hother).2
            rw [List.filter_cons_of_neg (by simpa using hne.symm), List.filter_filter]
            congr 1
            apply List.filter_congr
            intro region _
            by_cases heq : region.source = other.source
            · simp [heq, hne]
            · simp [heq]

/-! ### Steps that fail with the first failed check -/

/-- A step succeeds if no check fails, and otherwise fails with the error of the first. -/
def Decides {α : Type} (first : Option LookupFault) (result : Except RenderFault α) : Prop :=
  match first with
  | none => ∃ a, result = .ok a
  | some fault => result = .error (.lookup fault)

theorem firstFault_cons (sources : Sources) (check : Check) (rest : List Check) :
    firstFault sources (check :: rest) =
      (check.fault? sources).or (firstFault sources rest) := by
  rw [firstFault, List.findSome?_cons]
  cases check.fault? sources <;> rfl

theorem firstFault_append (sources : Sources) (checks rest : List Check) :
    firstFault sources (checks ++ rest) =
      (firstFault sources checks).or (firstFault sources rest) :=
  List.findSome?_append

namespace Decides

variable {α β : Type} {first second : Option LookupFault}

theorem of_ok {result : Except RenderFault α} {a : α} (h : result = .ok a) :
    Decides none result := ⟨a, h⟩

theorem bind {x : Except RenderFault α} {f : α → Except RenderFault β} (hx : Decides first x)
    (hf : ∀ a, x = .ok a → Decides second (f a)) : Decides (first.or second) (x >>= f) := by
  cases first with
  | none =>
      obtain ⟨a, ha⟩ := hx
      rw [ha, Option.none_or]
      exact hf a ha
  | some fault =>
      have herror : x = .error (.lookup fault) := hx
      rw [herror]
      exact rfl

/-- What follows cannot fail. -/
theorem bind_ok {x : Except RenderFault α} {f : α → Except RenderFault β} (hx : Decides first x)
    (hf : ∀ a, x = .ok a → ∃ b, f a = .ok b) : Decides first (x >>= f) := by
  have hbind : Decides (first.or none) (x >>= f) := bind hx hf
  rwa [Option.or_none] at hbind

/-- Steps over a list stop at the first check that fails for any of them. -/
theorem mapM {sources : Sources} {step : α → Except RenderFault β} {checks : α → List Check}
    {items : List α}
    (h : ∀ item ∈ items, Decides (firstFault sources (checks item)) (step item)) :
    Decides (firstFault sources (items.flatMap checks)) (items.mapM step) := by
  induction items with
  | nil => exact of_ok rfl
  | cons item rest ih =>
      have hrest := ih fun other hother => h other (List.mem_cons_of_mem _ hother)
      rw [List.flatMap_cons, firstFault_append, List.mapM_cons]
      apply bind (h item (List.mem_cons_self ..))
      intro b _
      apply bind_ok hrest
      intro bs _
      exact ⟨b :: bs, rfl⟩

end Decides

/-! ### From checks to layouts -/

section Steps

variable {sources : Sources} {source : Int} {found : Source}

theorem get?_of_find (h : sources.find source = .ok found) : sources.get? source = some found := by
  rw [Sources.find] at h
  cases hget : sources.get? source with
  | none =>
      rw [hget] at h
      cases h
  | some other =>
      rw [hget] at h
      cases h
      rfl

theorem decides_find (sources : Sources) (source : Int) :
    Decides ((Check.registered source).fault? sources) (rendering (sources.find source)) := by
  rw [Sources.find, Check.fault?]
  cases sources.get? source with
  | none => exact rfl
  | some found => exact ⟨found, rfl⟩

theorem decides_toLocation (h : sources.find source = .ok found) (offset : Nat) :
    Decides ((Check.boundary source offset).fault? sources)
      (rendering (found.index.toLocation offset)) := by
  simp only [Check.fault?, get?_of_find h]
  by_cases hbeyond : found.content.utf8ByteSize < offset
  · rw [if_pos hbeyond, LineIndex.toLocation, LineIndex.checkOffset_of_lt hbeyond]
    exact rfl
  · rw [if_neg hbeyond]
    by_cases hboundary : IsBoundary found.content offset
    · rw [if_pos hboundary, LineIndex.toLocation_natCast hboundary]
      exact ⟨_, rfl⟩
    · rw [if_neg hboundary, LineIndex.toLocation,
        LineIndex.checkOffset_of_not_isBoundary hbeyond hboundary]
      exact rfl

/-- A region is placed start first. -/
theorem decides_place (hfound : sources.find source = .ok found) {h : Highlight}
    (hsource : h.source = source) :
    Decides (firstFault sources h.checks) (Placed.of? source found.index h) := by
  subst hsource
  rw [Placed.of?, if_neg (not_not_intro rfl), Highlight.checks, firstFault_cons]
  apply Decides.bind (decides_toLocation hfound _)
  intro start _
  rw [firstFault_cons]
  apply Decides.bind (decides_toLocation hfound _)
  intro stop _
  exact Decides.of_ok rfl

theorem decides_ofHighlights (sources : Sources) {group : Int × List Highlight}
    (hgroup : ∀ h ∈ group.2, h.source = group.1) :
    Decides (firstFault sources (groupChecks group))
      (Layout.ofHighlights sources group.1 group.2) := by
  rw [groupChecks, firstFault_cons, Layout.ofHighlights]
  apply Decides.bind (decides_find sources group.1)
  intro found hfound
  apply Decides.bind_ok
  · apply Decides.mapM
    intro h hmem
    exact decides_place ((rendering_eq_ok_iff _ _).mp hfound) (hgroup h hmem)
  · intro placed _
    exact ⟨_, rfl⟩

end Steps

/-! ### From layouts to a frame -/

/-- The gutter is not part of what a layout shows. -/
theorem Layout.Shows.withGutter {layout : Layout} {sources : Sources} {e : Excerpt}
    (h : layout.Shows sources e) (width : Nat) :
    ({ layout with gutterWidth := width } : Layout).Shows sources e where
  index_eq := h.index_eq
  name_eq := h.name_eq
  items_eq := h.items_eq
  laneCount_eq := h.laneCount_eq
  line_le_maxLine := h.line_le_maxLine
  fits := h.fits

namespace Diagnostic

variable (d : Diagnostic) (sources : Sources)

theorem decides_layouts : Decides (firstFault sources d.checks) (d.layouts sources) := by
  rw [checks, ← bySource_eq_groups, layouts]
  apply Decides.bind_ok
  · apply Decides.mapM
    rintro ⟨source, group⟩ hmem
    apply decides_ofHighlights
    intro h hh
    obtain ⟨_, rfl⟩ := mem_bySource.mp hmem
    simpa using (List.mem_filter.mp hh).2
  · intro planned _
    exact ⟨_, rfl⟩

/-- Each layout of a diagnostic was planned for its source, up to the gutter. -/
theorem exists_shows_of_mem_layouts {d : Diagnostic} {sources : Sources} {layouts : List Layout}
    (h : d.layouts sources = .ok layouts) {layout : Layout} (hmem : layout ∈ layouts)
    (p : Presentation) (gutter : Nat) :
    ∃ found group, layout.Shows sources (Excerpt.ofSource p gutter found group) := by
  obtain ⟨planned, hplanned, heq⟩ := Result.bind_eq_ok_iff.mp h
  rw [← Except.ok.inj heq] at hmem
  obtain ⟨original, horiginal, rfl⟩ := List.mem_map.mp hmem
  have hok : Except.ok original ∈ (bySource d.highlights).map fun group =>
      Layout.ofHighlights sources group.1 group.2 := by
    rw [Result.mapM_eq_ok_iff.mp hplanned]
    exact List.mem_map_of_mem horiginal
  obtain ⟨group, _, hgroup⟩ := List.mem_map.mp hok
  obtain ⟨found, _, hshows⟩ := Layout.exists_shows hgroup p gutter
  exact ⟨found, group.2, hshows.withGutter _⟩

/-- What has been planned is drawn. -/
theorem exists_snippets {layouts : List Layout} (h : d.layouts sources = .ok layouts)
    (p : Presentation) (gutter : Nat) :
    ∃ snippets, (layouts.mapM fun layout => layout.render sources p gutter) = .ok snippets := by
  apply Result.exists_mapM_of_forall
  intro layout hmem
  obtain ⟨found, group, hshows⟩ := exists_shows_of_mem_layouts h hmem p gutter
  exact ⟨_, hshows.render_eq_rows⟩

theorem decides_render (p : Presentation) :
    Decides (firstFault sources d.checks) (d.render sources p) := by
  rw [render]
  apply Decides.bind_ok (d.decides_layouts sources)
  intro layouts hlayouts
  obtain ⟨snippets, hsnippets⟩ := d.exists_snippets sources hlayouts p (frameGutter layouts)
  refine ⟨d.headerRow :: snippets.flatten ++ notesRows p (frameGutter layouts) d.notes, ?_⟩
  show (layouts.mapM (fun layout => layout.render sources p (frameGutter layouts)) >>= _) = _
  rw [hsnippets]
  rfl

/-- **Outcome.**  A diagnostic whose checks all pass has a frame.  Any other is reported with the
error of the first check that fails, and with no other error. -/
theorem render_outcome (p : Presentation) :
    match firstFault sources d.checks with
    | none => ∃ rows, d.render sources p = .ok rows
    | some fault => d.render sources p = .error (.lookup fault) :=
  d.decides_render sources p

end Diagnostic

/-! ### The kind of a failure -/

theorem Check.kind_isA_contract {sources : Sources} {check : Check} {fault : LookupFault}
    (h : check.fault? sources = some fault) : fault.kind.IsA .contract := by
  rw [LookupFault.kind_isA_contract_iff]
  rintro start stop rfl
  cases check with
  | registered source =>
      rw [fault?] at h
      split at h <;> cases h
  | boundary source offset =>
      rw [fault?] at h
      split at h
      · split at h
        · cases h
        · split at h <;> cases h
      · cases h

/-- Rendering a diagnostic fails only with a violated contract. -/
theorem Diagnostic.kind_isA_contract {d : Diagnostic} {sources : Sources} {p : Presentation}
    {fault : RenderFault} (h : d.render sources p = .error fault) : fault.kind.IsA .contract := by
  have hdecides := d.decides_render sources p
  cases hfirst : firstFault sources d.checks with
  | none =>
      rw [hfirst] at hdecides
      obtain ⟨rows, hrows⟩ := hdecides
      rw [h] at hrows
      cases hrows
  | some first =>
      rw [hfirst] at hdecides
      have hfault : fault = .lookup first := Except.error.inj (h.symm.trans hdecides)
      obtain ⟨check, _, hcheck⟩ := List.exists_of_findSome?_eq_some hfirst
      rw [hfault]
      exact Check.kind_isA_contract hcheck

end SourceDiagnostics
