import SourceDiagnostics.Proofs.Frame.Blocks

/-!
# Frames are composed of blocks

What a frame shows of a source does not depend on the other sources, but for how far it is moved
to the right: `Diagnostic.render_composes`.  A block drawn with a wider gutter is the same block
with blanks in front of each row, as long as its line numbers fit the narrower one
(`Excerpt.rows_widen`), and they do because the gutter of a source alone is as wide as its
largest line number.
-/

namespace SourceDiagnostics

open Text

/-! ### Rows moved to the right -/

/-- The row with blanks in front of its first span. -/
def Row.indent (n : Nat) (row : Row) : Row :=
  match row.spans with
  | [] => row
  | first :: rest => ⟨{ first with text := spaces n ++ first.text } :: rest⟩

theorem Text.append_ne_empty_of_right {right : String} (h : right ≠ "") (left : String) :
    left ++ right ≠ "" := by
  intro hnil
  exact h (String.append_eq_empty_iff.mp hnil).2

theorem Text.spaces_add (m n : Nat) : spaces (m + n) = spaces m ++ spaces n :=
  (run_append ' ' m n).symm

theorem Row.ofPieces_cons {first : String} (hne : first ≠ "") (style : Style)
    (rest : List (String × Style)) :
    ofPieces ((first, style) :: rest) = ⟨⟨first, style⟩ :: (ofPieces rest).spans⟩ := by
  rw [ofPieces, List.filter_cons, if_pos (decide_eq_true hne)]
  rfl

theorem Row.indent_ofPieces {first : String} (hne : first ≠ "") (n : Nat) (style : Style)
    (rest : List (String × Style)) :
    (ofPieces ((first, style) :: rest)).indent n =
      ofPieces ((spaces n ++ first, style) :: rest) := by
  rw [ofPieces_cons hne, ofPieces_cons (append_ne_empty_of_right hne _)]
  rfl

namespace Excerpt

/-- The excerpt with a wider gutter. -/
def widen (e : Excerpt) (extra : Nat) : Excerpt := { e with gutter := extra + e.gutter }

variable (e : Excerpt) (extra : Nat)

theorem margin_widen : (e.widen extra).margin = spaces extra ++ e.margin := by
  show spaces (extra + e.gutter) ++ " " ++ _ = spaces extra ++ (spaces e.gutter ++ " " ++ _)
  rw [spaces_add]
  simp only [String.append_assoc]
  rfl

theorem numbered_widen {line : Nat} (hfits : (Nat.repr line).length ≤ e.gutter) :
    (e.widen extra).numbered line = spaces extra ++ e.numbered line := by
  show alignRight (extra + e.gutter) (Nat.repr line) ++ " " ++ _ =
    spaces extra ++ (alignRight e.gutter (Nat.repr line) ++ " " ++ _)
  rw [alignRight_add extra e.gutter _ hfits]
  simp only [String.append_assoc]
  rfl

theorem ofPieces_margin_widen (rest : List (String × Style)) :
    Row.ofPieces (((e.widen extra).margin, .gutter) :: rest) =
      (Row.ofPieces ((e.margin, .gutter) :: rest)).indent extra := by
  have hne : e.margin ≠ "" := append_ne_empty_of_right String.singleton_ne_empty _
  rw [margin_widen, Row.indent_ofPieces hne]

theorem headerRow_widen : (e.widen extra).headerRow = e.headerRow.indent extra := by
  have hne : spaces e.gutter ++ " " ++ e.presentation.glyphs.file ++ " " ≠ "" :=
    append_ne_empty_of_right (by decide) _
  rw [headerRow, headerRow, Row.indent_ofPieces hne]
  show Row.ofPieces
    [(spaces (extra + e.gutter) ++ " " ++ e.presentation.glyphs.file ++ " ", _), _] = _
  rw [spaces_add]
  simp only [String.append_assoc]
  rfl

theorem sourceRow_widen {line : Nat} (hfits : (Nat.repr line).length ≤ e.gutter) :
    (e.widen extra).sourceRow line = (e.sourceRow line).indent extra := by
  have hne : e.numbered line ≠ "" := append_ne_empty_of_right String.singleton_ne_empty _
  rw [sourceRow, sourceRow, Row.indent_ofPieces hne, ← numbered_widen e extra hfits]
  rfl

theorem rowsAt_widen {line : Nat} (hfits : (Nat.repr line).length ≤ e.gutter) :
    (e.widen extra).rowsAt line = (e.rowsAt line).map (Row.indent extra) := by
  have hopening : ∀ h lane,
      (e.widen extra).openingRow h lane = (e.openingRow h lane).indent extra := by
    intro h lane
    exact ofPieces_margin_widen e extra _
  have hunderline : (e.widen extra).underlineRow = Row.indent extra ∘ e.underlineRow := by
    funext h
    exact ofPieces_margin_widen e extra _
  have hclosing : ∀ h lane,
      (e.widen extra).closingRow h lane = (e.closingRow h lane).indent extra := by
    intro h lane
    exact ofPieces_margin_widen e extra _
  simp only [rowsAt, sourceRow_widen e extra hfits, hopening, hunderline, hclosing,
    List.map_cons, List.map_append, List.map_map, List.cons_append]
  rfl

/-- **Widening.**  A wider gutter moves every row to the right and changes nothing else. -/
theorem rows_widen (hfits : ∀ line ∈ e.lines, (Nat.repr line).length ≤ e.gutter) :
    (e.widen extra).rows = e.rows.map (Row.indent extra) := by
  -- the same lines are drawn, so the rows can be compared line by line
  have hlines : (e.widen extra).lines = e.lines := rfl
  have hrows : e.lines.sort.flatMap (e.widen extra).rowsAt =
      e.lines.sort.flatMap fun line => (e.rowsAt line).map (Row.indent extra) := by
    refine List.flatMap_congr ?_
    intro line hline
    exact rowsAt_widen e extra (hfits line ((Finset.mem_sort _).mp hline))
  rw [rows, hlines, headerRow_widen, hrows, rows, List.map_cons, List.map_flatMap]

end Excerpt

/-! ### Blocks -/

namespace Diagnostic

/-- The gutter that rendering chooses for a diagnostic. -/
def DrawnWith (d : Diagnostic) (sources : Sources) (gutter : Nat) : Prop :=
  ∃ layouts, d.layouts sources = .ok layouts ∧ frameGutter layouts = gutter

/-- What the rows of one source in a frame have to be. -/
structure IsBlockOf (d : Diagnostic) (sources : Sources) (p : Presentation) (source : Int)
    (block : List Row) : Prop where
  /-- They are the excerpt of the regions in the source, and of no others. -/
  excerpt : ∃ found, sources.find source = .ok found ∧
    block = (Excerpt.ofSource p (d.numberWidth sources) found (d.restrict source).highlights).rows
  /-- With only its own labels the diagnostic has the same rows, further to the left. -/
  alone : ∃ own,
    (d.restrict source).render sources p = .ok (d.headerRow :: own ++
      notesRows p ((d.restrict source).numberWidth sources) d.notes) ∧
    block = own.map (Row.indent (d.numberWidth sources - (d.restrict source).numberWidth sources))
  gutter : (d.restrict source).DrawnWith sources ((d.restrict source).numberWidth sources)

variable {d : Diagnostic} {sources : Sources} {found : Int → Source} {source : Int}

theorem Resolves.drawnWith (h : d.Resolves sources found) :
    d.DrawnWith sources (d.numberWidth sources) :=
  ⟨_, h.layouts_eq, frameGutter_layouts d sources found⟩

theorem frameRows_restrict (hsource : source ∈ d.sourceIds) (sources : Sources)
    (found : Int → Source) (p : Presentation) :
    (d.restrict source).frameRows sources found p =
      d.headerRow ::
        (d.excerptIn found p ((d.restrict source).numberWidth sources) source).rows ++
        notesRows p ((d.restrict source).numberWidth sources) d.notes := by
  rw [frameRows, sourceIds_restrict hsource, List.flatMap_singleton, excerptIn, restrict_restrict]
  rfl

/-- The gutter of a source alone has room for its line numbers, so the wider gutter of the frame
only moves them. -/
theorem Resolves.rows_excerptIn (h : d.Resolves sources found) (hsource : source ∈ d.sourceIds)
    (p : Presentation) :
    (d.excerptIn found p (d.numberWidth sources) source).rows =
      (d.excerptIn found p ((d.restrict source).numberWidth sources) source).rows.map
        (Row.indent (d.numberWidth sources - (d.restrict source).numberWidth sources)) := by
  rw [← Excerpt.rows_widen]
  · rw [Excerpt.widen, excerptIn, excerptIn, Excerpt.ofSource, Excerpt.ofSource,
      Nat.sub_add_cancel (numberWidth_restrict_le hsource)]
  · intro line hline
    exact h.length_repr_le hsource hline

theorem Resolves.isBlockOf (h : d.Resolves sources found) (hsource : source ∈ d.sourceIds)
    (p : Presentation) :
    d.IsBlockOf sources p source (d.excerptIn found p (d.numberWidth sources) source).rows where
  excerpt := ⟨found source, h.find_eq source hsource, rfl⟩
  alone := by
    refine ⟨_, ?_, h.rows_excerptIn hsource p⟩
    rw [(h.restrict source).render_eq p, frameRows_restrict hsource]
  gutter := (h.restrict source).drawnWith

/-- **Composition.**  A frame is its header, one block for each source in the order of the first
label into it, and its notes.  The labels into other sources only move a block to the right: the
gutter of the frame is the widest that any of the sources has alone. -/
theorem render_composes {p : Presentation} {rows : List Row}
    (h : d.render sources p = .ok rows) :
    (∃ block : Int → List Row,
      rows = d.headerRow :: d.sourceIds.flatMap block ++
        notesRows p (d.numberWidth sources) d.notes ∧
      ∀ source ∈ d.sourceIds, d.IsBlockOf sources p source (block source)) ∧
    d.DrawnWith sources (d.numberWidth sources) ∧
    d.numberWidth sources =
      (d.sourceIds.map fun source => (d.restrict source).numberWidth sources).foldr max 0 ∧
    (d.labels ≠ [] → d.numberWidth sources = (Nat.repr (d.largestLine sources)).length) ∧
    d.sourceIds.Nodup ∧
    (d.sourceIds.flatMap fun source => (d.restrict source).highlights).Perm d.highlights ∧
    ∀ source, ∀ region ∈ (d.restrict source).highlights, region.source = source := by
  obtain ⟨found, hresolves, hrows⟩ := exists_resolves_of_render h
  refine ⟨⟨_, hrows, ?_⟩, hresolves.drawnWith, d.numberWidth_eq_foldr sources, ?_,
    nodup_eraseDups _, d.flatMap_restrict_perm, ?_⟩
  · intro source hsource
    exact hresolves.isBlockOf hsource p
  · intro hlabels
    exact if_neg hlabels
  · intro source region hregion
    exact (mem_highlights_restrict.mp hregion).2

end Diagnostic

/-! ### A frame of two sources -/

def farSource : Source := ⟨"far.txt", LineIndex.ofContent "1\n2\n3\n4\n5\n6\n7\n8\n9\nten\nend"⟩

def nearSource : Source := ⟨"near.txt", LineIndex.ofContent "here"⟩

def mixedSources : Sources := ⟨#[nearSource, farSource]⟩

/-- Labels that go back and forth between two sources, with a note. -/
def mixedDiagnostic : Diagnostic where
  severity := .error
  message := "mixed"
  notes := ["see both"]
  labels :=
    [{ source := 1, region := { start := 0, stop := 1, message := "from" } },
     { source := 0, region := { start := 0, stop := 4, message := "near" } },
     { source := 1, region := { start := 18, stop := 25, message := "to" }, emphasis := .tertiary,
       supporting := [{ start := 2, stop := 3 }] }]

def mixedFound (source : Int) : Source := if source = 0 then nearSource else farSource

theorem mixed_sourceIds : mixedDiagnostic.sourceIds = [1, 0] := by decide +kernel

theorem mixed_resolves : mixedDiagnostic.Resolves mixedSources mixedFound where
  find_eq := by
    rw [mixed_sourceIds]
    intro source hsource
    rcases List.mem_pair.mp hsource with rfl | rfl
    · rfl
    · rfl
  fits := by
    show ∀ h ∈ mixedDiagnostic.highlights,
      IsBoundary (mixedFound h.source).content h.region.start ∧
        IsBoundary (mixedFound h.source).content h.region.stop
    decide +kernel

/-- The block of the far source comes first, and the near one is moved by one column. -/
theorem Diagnostic.render_composes_mixed :
    ∃ rows far near, mixedDiagnostic.render mixedSources {} = .ok rows ∧
      rows = mixedDiagnostic.headerRow :: far ++ near ++ notesRows {} 2 mixedDiagnostic.notes ∧
      mixedDiagnostic.IsBlockOf mixedSources {} 1 far ∧
      mixedDiagnostic.IsBlockOf mixedSources {} 0 near ∧
      mixedDiagnostic.numberWidth mixedSources = 2 ∧
      (mixedDiagnostic.restrict 0).numberWidth mixedSources = 1 := by
  have hrender := mixed_resolves.render_eq {}
  have hwidth : mixedDiagnostic.numberWidth mixedSources = 2 := by decide +kernel
  obtain ⟨⟨block, hrows, hblock⟩, _⟩ := Diagnostic.render_composes hrender
  refine ⟨_, block 1, block 0, hrender, ?_, hblock 1 ?_, hblock 0 ?_, hwidth, by decide +kernel⟩
  · rw [hrows, mixed_sourceIds, hwidth]
    simp
  · simp [mixed_sourceIds]
  · simp [mixed_sourceIds]

end SourceDiagnostics
