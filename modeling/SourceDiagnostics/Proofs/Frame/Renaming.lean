import SourceDiagnostics.Proofs.Frame.Composition
import SourceDiagnostics.Proofs.Snippet.Agreement

/-!
# Source ids are only names

An id is used to find a source and to tell it from the others, and for nothing else.  If every
label of a diagnostic is given another id, different ones for different sources, and another store
has the same texts under these ids, then the checks are the same up to the ids and so is what
rendering comes to: the same rows, or the error of the same check (`Diagnostic.render_renamed`).

Neither the order of the ids nor the other sources of a store matter, so a store can grow without
any change to what it could already render.
-/

namespace SourceDiagnostics

open Text

/-! ### Renaming -/

def Label.renamed (rename : Int → Int) (label : Label) : Label :=
  { label with source := rename label.source }

def Highlight.renamed (rename : Int → Int) (h : Highlight) : Highlight :=
  { h with source := rename h.source }

/-- The diagnostic with another id in each of its labels. -/
def Diagnostic.renamed (rename : Int → Int) (d : Diagnostic) : Diagnostic :=
  { d with labels := d.labels.map (Label.renamed rename) }

/-- The source that a check is about. -/
def Check.source : Check → Int
  | .registered source => source
  | .boundary source _ => source

def Check.renamed (rename : Int → Int) : Check → Check
  | .registered source => .registered (rename source)
  | .boundary source offset => .boundary (rename source) offset

/-- The same fault in a store with so many sources.  Only a missing source is told by its id. -/
def LookupFault.renamed (rename : Int → Int) (registered : Nat) : LookupFault → LookupFault
  | .unknownSource source _ => .unknownSource (rename source) registered
  | fault => fault

def RenderFault.renamed (rename : Int → Int) (registered : Nat) : RenderFault → RenderFault
  | .lookup fault => .lookup (fault.renamed rename registered)
  | .foreignRegion found expected => .foreignRegion (rename found) (rename expected)
  | fault => fault

/-- Under an id of one store and an id of another there is a source of the same name and content,
or there is none under either. -/
def Sources.SameSource (sources sources' : Sources) (source source' : Int) : Prop :=
  (sources.get? source).map (fun found => (found.name, found.content)) =
    (sources'.get? source').map fun found => (found.name, found.content)

/-- A store with more texts registered, in order. -/
def Sources.addAll (sources : Sources) (texts : List (String × String)) : Sources :=
  texts.foldl (fun sources text => sources.add text.1 text.2) sources

namespace Sources

variable {sources sources' : Sources} {source source' : Int}

/-- Names and contents are all there is to a source. -/
theorem SameSource.get?_eq (h : SameSource sources sources' source source') :
    sources'.get? source' = sources.get? source := by
  rw [SameSource] at h
  cases hget : sources.get? source with
  | none =>
      rw [hget, Option.map_none] at h
      exact Option.map_eq_none_iff.mp h.symm
  | some found =>
      rw [hget, Option.map_some] at h
      obtain ⟨found', hget', heq⟩ := Option.map_eq_some_iff.mp h.symm
      obtain ⟨hname, hcontent⟩ := Prod.mk.inj heq
      cases found
      cases found'
      cases hname
      cases LineIndex.ext hcontent
      exact hget'

theorem get?_addAll {found : Source} (h : sources.get? source = some found)
    (texts : List (String × String)) : (sources.addAll texts).get? source = some found := by
  induction texts generalizing sources with
  | nil => exact h
  | cons text rest ih =>
      apply ih
      have hlt := ((sources.get?_isSome_iff source).mp (by rw [h]; rfl)).2
      rw [get?_add_of_lt _ _ _ hlt, h]

end Sources

/-- An excerpt does not show the ids of its regions. -/
theorem Excerpt.agrees_renamed (rename : Int → Int) (e : Excerpt) :
    e.Agrees { e with highlights := e.highlights.map (Highlight.renamed rename) } where
  glyphs_eq := rfl
  gutter_eq := rfl
  name_eq := rfl
  highlights := by
    rw [List.forall₂_map_right_iff, List.forall₂_same]
    intro h _
    exact ⟨rfl, rfl, rfl, rfl, fun _ => rfl, rfl, rfl⟩
  printed_eq _ _ := rfl

/-! ### Ids without repetition -/

theorem eraseDups_map_of_injOn {rename : Int → Int} {ids : List Int}
    (hinj : Set.InjOn rename {id | id ∈ ids}) :
    (ids.map rename).eraseDups = ids.eraseDups.map rename := by
  -- the repetitions of the first id go first, so the induction is on the length
  induction hlength : ids.length using Nat.strong_induction_on generalizing ids with
  | _ n ih =>
      cases ids with
      | nil => rfl
      | cons id rest =>
          have hothers : (rest.map rename).filter (fun other => !other == rename id) =
              (rest.filter fun other => !other == id).map rename := by
            rw [List.filter_map]
            congr 1
            refine List.filter_congr ?_
            intro other hother
            have hiff : rename other = rename id ↔ other = id :=
              hinj.eq_iff (List.mem_cons_of_mem _ hother) (List.mem_cons_self ..)
            rw [Function.comp_apply, Bool.not_inj_iff, Bool.eq_iff_iff, beq_iff_eq, beq_iff_eq,
              hiff]
          have hrest : Set.InjOn rename {other | other ∈ rest.filter fun other => !other == id} :=
            hinj.mono fun other hother => List.mem_cons_of_mem _ (List.mem_filter.mp hother).1
          rw [List.map_cons, List.eraseDups_cons, List.eraseDups_cons, List.map_cons, hothers]
          congr 1
          refine ih _ ?_ hrest rfl
          rw [← hlength]
          exact Nat.lt_succ_of_le (List.length_filter_le _ _)

namespace Diagnostic

variable {d : Diagnostic} {sources sources' : Sources} {rename : Int → Int} {source : Int}

theorem highlights_renamed (rename : Int → Int) (d : Diagnostic) :
    (d.renamed rename).highlights = d.highlights.map (Highlight.renamed rename) := by
  rw [highlights, renamed, List.flatMap_map, highlights, List.map_flatMap]
  refine List.flatMap_congr ?_
  intro label _
  rw [Label.highlights, Label.highlights, List.map_cons, List.map_map]
  rfl

theorem mem_sourceIds_of_label {label : Label} (h : label ∈ d.labels) :
    label.source ∈ d.sourceIds :=
  List.mem_eraseDups.mpr (List.mem_map_of_mem h)

section Injective

variable (hinj : Set.InjOn rename {source | source ∈ d.sourceIds})

include hinj

theorem sourceIds_renamed : (d.renamed rename).sourceIds = d.sourceIds.map rename := by
  have hlabels : Set.InjOn rename {source | source ∈ d.labels.map Label.source} :=
    hinj.mono fun source hsource => List.mem_eraseDups.mpr hsource
  rw [sourceIds, sourceIds, ← eraseDups_map_of_injOn hlabels, renamed, List.map_map, List.map_map]
  rfl

theorem restrict_renamed (hsource : source ∈ d.sourceIds) :
    (d.renamed rename).restrict (rename source) = (d.restrict source).renamed rename := by
  have hlabels : (d.labels.map (Label.renamed rename)).filter
        (fun label => label.source = rename source) =
      (d.labels.filter fun label => label.source = source).map (Label.renamed rename) := by
    rw [List.filter_map]
    congr 1
    refine List.filter_congr ?_
    intro label hlabel
    exact decide_eq_decide.mpr (hinj.eq_iff (mem_sourceIds_of_label hlabel) hsource)
  rw [restrict, renamed, hlabels]
  rfl

end Injective

/-! ### Checks -/

theorem checks_eq (d : Diagnostic) :
    d.checks = d.sourceIds.flatMap fun source =>
      groupChecks (source, (d.restrict source).highlights) := by
  rw [checks, ← bySource_eq_groups, bySource_highlights, List.flatMap_map]

theorem groupChecks_renamed (rename : Int → Int) (source : Int) (group : List Highlight) :
    groupChecks (rename source, group.map (Highlight.renamed rename)) =
      (groupChecks (source, group)).map (Check.renamed rename) := by
  rw [groupChecks, groupChecks, List.map_cons, List.flatMap_map, List.map_flatMap]
  rfl

/-- **Checks.**  The renamed diagnostic is checked in the same order. -/
theorem checks_renamed (hinj : Set.InjOn rename {source | source ∈ d.sourceIds}) :
    (d.renamed rename).checks = d.checks.map (Check.renamed rename) := by
  rw [checks_eq, checks_eq, sourceIds_renamed hinj, List.flatMap_map, List.map_flatMap]
  refine List.flatMap_congr ?_
  intro source hsource
  rw [restrict_renamed hinj hsource, highlights_renamed, groupChecks_renamed]

theorem source_mem_of_mem_checks {check : Check} (h : check ∈ d.checks) :
    check.source ∈ d.sourceIds := by
  rw [checks_eq] at h
  obtain ⟨source, hsource, hcheck⟩ := List.mem_flatMap.mp h
  rcases List.mem_cons.mp hcheck with rfl | hboundary
  · exact hsource
  · obtain ⟨region, hregion, hends⟩ := List.mem_flatMap.mp hboundary
    have heq : region.source = source := (mem_highlights_restrict.mp hregion).2
    rcases List.mem_pair.mp hends with rfl | rfl
    · exact heq ▸ hsource
    · exact heq ▸ hsource

/-! ### The same error -/

theorem fault?_renamed {check : Check}
    (hsame : sources.SameSource sources' check.source (rename check.source)) :
    (check.renamed rename).fault? sources' =
      (check.fault? sources).map (LookupFault.renamed rename sources'.size) := by
  cases check with
  | registered source =>
      have hget : sources'.get? (rename source) = sources.get? source := hsame.get?_eq
      show Check.fault? sources' (.registered (rename source)) = _
      rw [Check.fault?, Check.fault?, hget]
      cases sources.get? source <;> rfl
  | boundary source offset =>
      have hget : sources'.get? (rename source) = sources.get? source := hsame.get?_eq
      show Check.fault? sources' (.boundary (rename source) offset) = _
      rw [Check.fault?, Check.fault?, hget]
      cases sources.get? source with
      | none => rfl
      | some found =>
          dsimp only
          split
          · rfl
          · split <;> rfl

theorem firstFault_map_renamed {checks : List Check}
    (hsame : ∀ check ∈ checks, sources.SameSource sources' check.source (rename check.source)) :
    firstFault sources' (checks.map (Check.renamed rename)) =
      (firstFault sources checks).map (LookupFault.renamed rename sources'.size) := by
  induction checks with
  | nil => rfl
  | cons check rest ih =>
      rw [List.forall_mem_cons] at hsame
      rw [List.map_cons, firstFault_cons, firstFault_cons, fault?_renamed hsame.1, ih hsame.2]
      cases check.fault? sources <;> rfl

theorem render_of_layouts_eq_error {fault : RenderFault} (h : d.layouts sources = .error fault)
    (p : Presentation) : d.render sources p = .error fault := by
  rw [render, h]
  rfl

/-! ### The same rows -/

theorem rows_excerptIn_renamed {found found' : Int → Source} {source source' : Int}
    (hfound : found' source' = found source)
    (hrestrict : (d.renamed rename).restrict source' = (d.restrict source).renamed rename)
    (p : Presentation) (gutter : Nat) :
    ((d.renamed rename).excerptIn found' p gutter source').rows =
      (d.excerptIn found p gutter source).rows := by
  rw [(Excerpt.agrees_renamed rename (d.excerptIn found p gutter source)).rows_eq, excerptIn,
    hrestrict, hfound, highlights_renamed]
  rfl

section SameSources

variable (hinj : Set.InjOn rename {source | source ∈ d.sourceIds})
  (hsame : ∀ source ∈ d.sourceIds, sources.SameSource sources' source (rename source))

include hsame

theorem numberWidth_renamed :
    (d.renamed rename).numberWidth sources' = d.numberWidth sources := by
  have hlabels : (d.renamed rename).labels = [] ↔ d.labels = [] := List.map_eq_nil_iff
  have hlines : (d.renamed rename).highlights.flatMap (Highlight.endLines sources') =
      d.highlights.flatMap (Highlight.endLines sources) := by
    rw [highlights_renamed, List.flatMap_map]
    refine List.flatMap_congr ?_
    intro h hmem
    have hget : sources'.get? (h.renamed rename).source = sources.get? h.source :=
      (hsame h.source (mem_sourceIds.mpr ⟨h, hmem, rfl⟩)).get?_eq
    rw [Highlight.endLines, Highlight.endLines, hget]
    rfl
  rw [numberWidth, numberWidth, largestLine, largestLine, hlines]
  simp only [hlabels]

include hinj

theorem frameRows_renamed {found found' : Int → Source} (h : d.Resolves sources found)
    (h' : (d.renamed rename).Resolves sources' found') (p : Presentation) :
    (d.renamed rename).frameRows sources' found' p = d.frameRows sources found p := by
  have hblocks : ∀ source ∈ d.sourceIds,
      ((d.renamed rename).excerptIn found' p (d.numberWidth sources) (rename source)).rows =
        (d.excerptIn found p (d.numberWidth sources) source).rows := by
    intro source hsource
    have hsource' : rename source ∈ (d.renamed rename).sourceIds := by
      rw [sourceIds_renamed hinj]
      exact List.mem_map_of_mem hsource
    have hfound : found' (rename source) = found source := by
      have hget := (hsame source hsource).get?_eq
      rw [get?_of_find (h.find_eq source hsource),
        get?_of_find (h'.find_eq _ hsource')] at hget
      exact Option.some.inj hget
    exact rows_excerptIn_renamed hfound (restrict_renamed hinj hsource) p _
  rw [frameRows, numberWidth_renamed hsame, sourceIds_renamed hinj, List.flatMap_map,
    List.flatMap_congr hblocks]
  rfl

theorem render_renamed_eq (p : Presentation) :
    (d.renamed rename).render sources' p =
      (d.render sources p).mapError (RenderFault.renamed rename sources'.size) := by
  have hchecks : ∀ check ∈ d.checks,
      sources.SameSource sources' check.source (rename check.source) :=
    fun check hcheck => hsame _ (source_mem_of_mem_checks hcheck)
  have hdecides := d.decides_layouts sources
  have hdecides' := (d.renamed rename).decides_layouts sources'
  rw [checks_renamed hinj, firstFault_map_renamed hchecks] at hdecides'
  cases hfirst : firstFault sources d.checks with
  | none =>
      rw [hfirst] at hdecides hdecides'
      obtain ⟨layouts, hlayouts⟩ := hdecides
      obtain ⟨layouts', hlayouts'⟩ := hdecides'
      obtain ⟨found, hresolves⟩ := exists_resolves hlayouts
      obtain ⟨found', hresolves'⟩ := exists_resolves hlayouts'
      rw [hresolves.render_eq, hresolves'.render_eq,
        frameRows_renamed hinj hsame hresolves hresolves']
      rfl
  | some fault =>
      rw [hfirst] at hdecides hdecides'
      rw [render_of_layouts_eq_error hdecides, render_of_layouts_eq_error hdecides']
      rfl

end SameSources

theorem renamed_id (d : Diagnostic) : d.renamed id = d := by
  rw [renamed, show Label.renamed id = id from rfl, List.map_id]

theorem render_addAll {p : Presentation} {rows : List Row} (h : d.render sources p = .ok rows)
    (texts : List (String × String)) : d.render (sources.addAll texts) p = .ok rows := by
  obtain ⟨found, hresolves, _⟩ := exists_resolves_of_render h
  have hsame : ∀ source ∈ d.sourceIds,
      sources.SameSource (sources.addAll texts) source (id source) := by
    intro source hsource
    have hget := get?_of_find (hresolves.find_eq source hsource)
    rw [Sources.SameSource, id_eq, Sources.get?_addAll hget, hget]
  have hrender := render_renamed_eq (Set.injOn_id _) hsame p
  rwa [renamed_id, h] at hrender

/-- **Ids.**  Take another id for each source that a diagnostic points into, and any store with the
same text, or none, under the other id.  The same things are checked in the same order, each with
the same verdict, and rendering gives the same rows or the same error: only ids are renamed.  In
particular a store can be added to without changing what it renders. -/
theorem render_renamed (d : Diagnostic) (sources : Sources) (p : Presentation) :
    (∀ (sources' : Sources) (rename : Int → Int),
      Set.InjOn rename {source | source ∈ d.sourceIds} →
      (∀ source ∈ d.sourceIds, sources.SameSource sources' source (rename source)) →
      (d.renamed rename).checks = d.checks.map (Check.renamed rename) ∧
      (∀ check ∈ d.checks, (check.renamed rename).fault? sources' =
        (check.fault? sources).map (LookupFault.renamed rename sources'.size)) ∧
      (d.renamed rename).render sources' p =
        (d.render sources p).mapError (RenderFault.renamed rename sources'.size)) ∧
    ∀ (texts : List (String × String)) (rows : List Row), d.render sources p = .ok rows →
      d.render (sources.addAll texts) p = .ok rows := by
  refine ⟨?_, fun texts rows h => render_addAll h texts⟩
  intro sources' rename hinj hsame
  refine ⟨checks_renamed hinj, ?_, render_renamed_eq hinj hsame p⟩
  intro check hcheck
  exact fault?_renamed (hsame _ (source_mem_of_mem_checks hcheck))

end Diagnostic

/-! ### Two sources under other ids -/

/-- The two sources in the other order, with a third one between them. -/
def swappedSources : Sources :=
  ⟨#[farSource, ⟨"between.txt", LineIndex.ofContent "not shown"⟩, nearSource]⟩

def swappedId (source : Int) : Int := 2 - 2 * source

/-- A label into a source that is there, on an offset past its end, behind one into a source that
is not. -/
def lostDiagnostic : Diagnostic where
  severity := .bug
  message := "lost"
  labels :=
    [{ source := 5, region := { start := 0, stop := 3 } },
     { source := 0, region := { start := 0, stop := 9 } }]

theorem swappedId_injOn (ids : Set Int) : Set.InjOn swappedId ids := by
  intro a _ b _ h
  unfold swappedId at h
  omega

theorem Diagnostic.render_renamed_mixed :
    (∃ rows, mixedDiagnostic.render mixedSources {} = .ok rows ∧
      (mixedDiagnostic.renamed swappedId).render swappedSources {} = .ok rows ∧
      mixedDiagnostic.render (mixedSources.addAll [("near.txt", "again"), ("", "")]) {} =
        .ok rows) ∧
    (lostDiagnostic.renamed swappedId).render swappedSources {} =
      .error (.lookup (.unknownSource (-8) 3)) := by
  have hmixed : ∀ source ∈ mixedDiagnostic.sourceIds,
      mixedSources.SameSource swappedSources source (swappedId source) := by
    rw [mixed_sourceIds]
    intro source hsource
    rcases List.mem_pair.mp hsource with rfl | rfl
    · rfl
    · rfl
  have hlost : ∀ source ∈ lostDiagnostic.sourceIds,
      mixedSources.SameSource swappedSources source (swappedId source) := by
    have hids : lostDiagnostic.sourceIds = [5, 0] := by decide +kernel
    rw [hids]
    intro source hsource
    rcases List.mem_pair.mp hsource with rfl | rfl
    · rfl
    · rfl
  have hrender := mixed_resolves.render_eq {}
  obtain ⟨hrenamed, hadded⟩ := Diagnostic.render_renamed mixedDiagnostic mixedSources {}
  refine ⟨⟨_, hrender, ?_, hadded _ _ hrender⟩, ?_⟩
  · rw [(hrenamed swappedSources swappedId (swappedId_injOn _) hmixed).2.2, hrender]
    rfl
  · have herror : lostDiagnostic.render mixedSources {} =
        .error (.lookup (.unknownSource 5 2)) := rfl
    rw [((Diagnostic.render_renamed lostDiagnostic mixedSources {}).1 swappedSources swappedId
      (swappedId_injOn _) hlost).2.2, herror]
    rfl

end SourceDiagnostics
