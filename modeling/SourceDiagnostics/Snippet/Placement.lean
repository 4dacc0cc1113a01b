import SourceDiagnostics.Diagnostic.Basic
import SourceDiagnostics.Snippet.Fault
import SourceDiagnostics.Snippet.Layout
import SourceDiagnostics.Source.Sources

/-!
# Laying out highlighted regions

The regions of one source are first placed, which finds the locations of their ends or fails, and
then laid out, which cannot fail.  A region within one line is underlined there; of several on one
line the last one wins.  A region that crosses lines gets a bracket in a lane of its own, numbered
in the order of the regions.  Only the lines on which a region starts or ends are drawn.

A diagnostic has one layout for each source it points into, in the order in which the sources
first appear, and all of them share the widest gutter.
-/

namespace SourceDiagnostics

/-! ### Placed regions -/

/-- A highlighted region with the locations of its ends. -/
structure Placed where
  highlight : Highlight
  start : Location
  stop : Location
deriving DecidableEq, Repr

namespace Placed

/-- Places a region of a source.  It has to belong to that source, and its start is looked up
before its end. -/
def of? (source : Int) (index : LineIndex) (highlight : Highlight) :
    Except RenderFault Placed :=
  if highlight.source ≠ source then .error (.foreignRegion highlight.source source)
  else do
    let start ← rendering (index.toLocation highlight.region.start)
    let stop ← rendering (index.toLocation highlight.region.stop)
    return { highlight, start, stop }

def crossesLines (p : Placed) : Bool := p.start.line ≠ p.stop.line

def liesOn (line : Nat) (p : Placed) : Bool := p.start.line = line ∧ p.stop.line = line

def underline (p : Placed) : Underline where
  start := p.start
  stop := p.stop
  startOffset := p.highlight.region.start
  stopOffset := p.highlight.region.stop
  message := p.highlight.region.message
  emphasis := p.highlight.emphasis

/-- The marker that opens a region's bracket, without its message. -/
def opening (p : Placed) (lane : Nat) : Marker where
  bracketEnd := .opening
  location := p.start
  offset := p.highlight.region.start
  lane := lane
  emphasis := p.highlight.emphasis

/-- The marker that closes a region's bracket, with its message. -/
def closing (p : Placed) (lane : Nat) : Marker where
  bracketEnd := .closing
  location := p.stop
  offset := p.highlight.region.stop
  lane := lane
  emphasis := p.highlight.emphasis
  message := p.highlight.region.message

end Placed

/-! ### From placed regions to a layout -/

/-- Puts a line in its place among ascending lines, unless it is there already. -/
def insertLine (line : Nat) : List Nat → List Nat
  | [] => [line]
  | first :: rest =>
      if line < first then line :: first :: rest
      else if line = first then first :: rest
      else first :: insertLine line rest

/-- The lines on which regions start or end, ascending and each once. -/
def endpointLines (placed : List Placed) : List Nat :=
  (placed.flatMap fun p => [p.start.line, p.stop.line]).foldr insertLine []

/-- The region underlined on a line: the last one that lies within it. -/
def underlinedOn (placed : List Placed) (line : Nat) : Option Placed :=
  (placed.filter (Placed.liesOn line)).getLast?

/-- The regions that cross lines, each with its lane. -/
def laned (placed : List Placed) : List (Placed × Nat) :=
  (placed.filter Placed.crossesLines).zipIdx

/-- Every marker with the line it is drawn below, region by region. -/
def allMarkers (placed : List Placed) : List (Nat × Marker) :=
  (laned placed).flatMap fun entry =>
    [(entry.1.start.line, entry.1.opening entry.2), (entry.1.stop.line, entry.1.closing entry.2)]

/-- The markers drawn below a line, in the order of their regions. -/
def markersOn (placed : List Placed) (line : Nat) : List Marker :=
  ((allMarkers placed).filter fun entry => entry.1 = line).map Prod.snd

/-- The largest line on which a region ends, or zero without regions. -/
def lastLine (placed : List Placed) : Nat := (placed.map fun p => p.stop.line).foldr max 0

namespace Layout

def ofPlaced (source : Int) (name : String) (placed : List Placed) : Layout where
  source := source
  name := name
  lines := (endpointLines placed).map Int.ofNat
  underlines := (endpointLines placed).filterMap fun line =>
    (underlinedOn placed line).map fun p => (Int.ofNat line, p.underline)
  markers := (endpointLines placed).filterMap fun line =>
    match markersOn placed line with
    | [] => none
    | markers => some (Int.ofNat line, markers)
  maxLine := lastLine placed
  gutterWidth := lineNumberWidth (lastLine placed)
  laneCount := (laned placed).length

def ofHighlights (sources : Sources) (source : Int) (highlights : List Highlight) :
    Except RenderFault Layout := do
  let found ← rendering (sources.find source)
  let placed ← highlights.mapM (Placed.of? source found.index)
  return ofPlaced source found.name placed

end Layout

/-! ### The layouts of a diagnostic -/

/-- Highlights by source, in the order in which the sources first appear. -/
def bySource (highlights : List Highlight) : List (Int × List Highlight) :=
  (highlights.map Highlight.source).eraseDups.map fun source =>
    (source, highlights.filter fun h => h.source = source)

/-- The widest gutter among layouts, one column if there are none. -/
def sharedGutter : List Layout → Nat
  | [] => 1
  | layouts => (layouts.map Layout.gutterWidth).foldr max 0

/-- The layouts of all sources a diagnostic points into, with the gutter they share. -/
def Diagnostic.layouts (sources : Sources) (d : Diagnostic) : Except RenderFault (List Layout) := do
  let layouts ← (bySource d.highlights).mapM fun group =>
    Layout.ofHighlights sources group.1 group.2
  return layouts.map fun layout => { layout with gutterWidth := sharedGutter layouts }

/-! ### Lines -/

theorem mem_insertLine {line x : Nat} {lines : List Nat} :
    x ∈ insertLine line lines ↔ x = line ∨ x ∈ lines := by
  induction lines with
  | nil => simp [insertLine]
  | cons first rest ih =>
      unfold insertLine
      split
      · simp
      · split
        · rename_i heq
          subst heq
          simp
        · simp only [List.mem_cons, ih]
          constructor
          · rintro (h | h | h)
            · exact Or.inr (Or.inl h)
            · exact Or.inl h
            · exact Or.inr (Or.inr h)
          · rintro (h | h | h)
            · exact Or.inr (Or.inl h)
            · exact Or.inl h
            · exact Or.inr (Or.inr h)

theorem insertLine_pairwise {line : Nat} {lines : List Nat} (h : lines.Pairwise (· < ·)) :
    (insertLine line lines).Pairwise (· < ·) := by
  induction lines with
  | nil => simp [insertLine]
  | cons first rest ih =>
      have hpairs := List.pairwise_cons.mp h
      unfold insertLine
      split
      · rename_i hlt
        refine List.Pairwise.cons ?_ h
        intro x hx
        rcases List.mem_cons.mp hx with rfl | hx
        · exact hlt
        · exact Nat.lt_trans hlt (hpairs.1 x hx)
      · split
        · exact h
        · rename_i hge hne
          refine List.Pairwise.cons ?_ (ih hpairs.2)
          intro x hx
          rcases mem_insertLine.mp hx with rfl | hx
          · exact Nat.lt_of_le_of_ne (Nat.le_of_not_lt hge) (Ne.symm hne)
          · exact hpairs.1 x hx

private theorem foldr_insertLine_pairwise (lines : List Nat) :
    (lines.foldr insertLine []).Pairwise (· < ·) := by
  induction lines with
  | nil => exact List.Pairwise.nil
  | cons line rest ih => exact insertLine_pairwise ih

private theorem mem_foldr_insertLine {x : Nat} {lines : List Nat} :
    x ∈ lines.foldr insertLine [] ↔ x ∈ lines := by
  induction lines with
  | nil => simp
  | cons line rest ih => simp [mem_insertLine, ih]

/-- **Drawn lines.**  They ascend strictly. -/
theorem endpointLines_pairwise (placed : List Placed) :
    (endpointLines placed).Pairwise (· < ·) :=
  foldr_insertLine_pairwise _

/-- **Drawn lines.**  They are exactly the lines on which some region starts or ends. -/
theorem mem_endpointLines {placed : List Placed} {line : Nat} :
    line ∈ endpointLines placed ↔ ∃ p ∈ placed, line = p.start.line ∨ line = p.stop.line := by
  simp [endpointLines, mem_foldr_insertLine]

/-! ### Groups -/

/-- The groups hold what was grouped, each highlight under its own source. -/
theorem mem_bySource {highlights : List Highlight} {source : Int} {group : List Highlight} :
    (source, group) ∈ bySource highlights ↔
      source ∈ highlights.map Highlight.source ∧
      group = highlights.filter fun h => h.source = source := by
  simp only [bySource, List.mem_map, List.mem_eraseDups, Prod.mk.injEq]
  constructor
  · rintro ⟨_, hmem, rfl, rfl⟩
    exact ⟨hmem, rfl⟩
  · rintro ⟨hmem, rfl⟩
    exact ⟨source, hmem, rfl, rfl⟩

end SourceDiagnostics
