import SourceDiagnostics.Snippet.Drawing

/-!
# Open lanes along a snippet

Drawing remembers one thing from row to row, the list of open lanes.  For items in which every
lane opens once and closes once, later, that list is determined by the items drawn so far:
a lane is in it exactly if its bracket has been opened and not yet closed, `OpenAfter`.

The items of a layout stand in the order of `Item.Before`: by line, on one line by phase (text,
opening brackets, underline, closing brackets), in one phase by lane.  Strictly ascending items
hold each bracket once, so what was drawn before an item can be read off the item itself,
`openAfter_iff_openAt`.  `drawAll_of_bracketed` carries the invariant along a whole run.
-/

namespace SourceDiagnostics

/-! ### The order of items -/

namespace Item

def line : Item → Int
  | .text line => line
  | .bracket m => m.line
  | .underline u => u.line

def phase : Item → Nat
  | .text _ => 0
  | .bracket m => match m.bracketEnd with
    | .opening => 1
    | .closing => 3
  | .underline _ => 2

def lane : Item → Nat
  | .bracket m => m.lane
  | _ => 0

def Before (a b : Item) : Prop :=
  a.line < b.line ∨ a.line = b.line ∧ (a.phase < b.phase ∨ a.phase = b.phase ∧ a.lane < b.lane)

theorem Before.asymm {a b : Item} (h : a.Before b) : ¬ b.Before a := by
  unfold Before at *
  omega

theorem Before.irrefl (a : Item) : ¬ a.Before a := by
  unfold Before
  omega

end Item

/-! ### Brackets that open and close -/

def HasBracket (items : List Item) (bracketEnd : BracketEnd) (lane : Nat) : Prop :=
  ∃ m, Item.bracket m ∈ items ∧ m.bracketEnd = bracketEnd ∧ m.lane = lane

/-- The bracket of a lane has been opened, and not yet closed. -/
def OpenAfter (done : List Item) (lane : Nat) : Prop :=
  HasBracket done .opening lane ∧ ¬ HasBracket done .closing lane

/-- Ascending items in which each lane has one bracket, closed after it was opened. -/
structure Bracketed (items : List Item) : Prop where
  ordered : items.Pairwise Item.Before
  unique : ∀ m m', Item.bracket m ∈ items → Item.bracket m' ∈ items →
    m.bracketEnd = m'.bracketEnd → m.lane = m'.lane → m = m'
  opens_of_closes : ∀ lane, HasBracket items .closing lane → HasBracket items .opening lane
  opens_before : ∀ m m', Item.bracket m ∈ items → Item.bracket m' ∈ items →
    m.bracketEnd = .opening → m'.bracketEnd = .closing → m.lane = m'.lane →
    Item.Before (.bracket m) (.bracket m')

namespace Bracketed

variable {items done todo : List Item} {item : Item}

/-- What stands before an item is what has been drawn when its turn comes. -/
theorem mem_done_iff (h : items.Pairwise Item.Before) (hsplit : items = done ++ item :: todo)
    (other : Item) : other ∈ done ↔ other ∈ items ∧ other.Before item := by
  rw [hsplit] at h ⊢
  obtain ⟨_, htodo, hcross⟩ := List.pairwise_append.mp h
  constructor
  · intro hmem
    exact ⟨List.mem_append_left _ hmem, hcross other hmem item (List.mem_cons_self ..)⟩
  · rintro ⟨hmem, hbefore⟩
    rcases List.mem_append.mp hmem with hdone | hrest
    · exact hdone
    · rcases List.mem_cons.mp hrest with rfl | hlater
      · exact absurd hbefore (Item.Before.irrefl other)
      · exact absurd hbefore ((List.pairwise_cons.mp htodo).1 other hlater).asymm

theorem item_not_mem_done (h : items.Pairwise Item.Before)
    (hsplit : items = done ++ item :: todo) : item ∉ done := by
  intro hmem
  exact Item.Before.irrefl item ((mem_done_iff h hsplit item).mp hmem).2

/-! ### One row -/

/-- The list of open lanes after some items. -/
structure Holds (openLanes : List Nat) (done : List Item) : Prop where
  nodup : openLanes.Nodup
  mem_iff : ∀ lane, lane ∈ openLanes ↔ OpenAfter done lane

theorem holds_nil : Holds [] [] where
  nodup := List.nodup_nil
  mem_iff lane := by simp [OpenAfter, HasBracket]

theorem hasBracket_append_singleton (done : List Item) (item : Item) (bracketEnd : BracketEnd)
    (lane : Nat) : HasBracket (done ++ [item]) bracketEnd lane ↔
      HasBracket done bracketEnd lane ∨
        ∃ m, item = .bracket m ∧ m.bracketEnd = bracketEnd ∧ m.lane = lane := by
  unfold HasBracket
  constructor
  · rintro ⟨m, hmem, hend, hlane⟩
    rcases List.mem_append.mp hmem with hdone | hlast
    · exact Or.inl ⟨m, hdone, hend, hlane⟩
    · exact Or.inr ⟨m, (List.mem_singleton.mp hlast).symm, hend, hlane⟩
  · rintro (⟨m, hmem, h⟩ | ⟨m, rfl, h⟩)
    · exact ⟨m, List.mem_append_left _ hmem, h⟩
    · exact ⟨m, List.mem_append_right _ (List.mem_singleton.mpr rfl), h⟩

/-- An item that is no bracket leaves the open lanes alone. -/
theorem holds_append_of_not_bracket {openLanes : List Nat} (h : Holds openLanes done)
    (hitem : ∀ m, item ≠ .bracket m) : Holds openLanes (done ++ [item]) where
  nodup := h.nodup
  mem_iff lane := by
    rw [h.mem_iff, OpenAfter, OpenAfter, hasBracket_append_singleton,
      hasBracket_append_singleton]
    simp [hitem]

/-- A bracket is drawn once. -/
theorem not_hasBracket_self {m : Marker} (b : Bracketed items)
    (hsplit : items = done ++ .bracket m :: todo) : ¬ HasBracket done m.bracketEnd m.lane := by
  rintro ⟨m', hdone, hend, hlane⟩
  have hitem : Item.bracket m ∈ items := by simp [hsplit]
  have hmem := ((mem_done_iff b.ordered hsplit _).mp hdone).1
  have hsame : m' = m := b.unique m' m hmem hitem hend hlane
  subst hsame
  exact item_not_mem_done b.ordered hsplit hdone

/-- No lane is closed before it is opened. -/
theorem not_hasBracket_closing {m : Marker} (b : Bracketed items)
    (hsplit : items = done ++ .bracket m :: todo) (hopening : m.bracketEnd = .opening) :
    ¬ HasBracket done .closing m.lane := by
  rintro ⟨m', hdone, hclosing, hlane⟩
  have hitem : Item.bracket m ∈ items := by simp [hsplit]
  obtain ⟨hmem, hbefore⟩ := (mem_done_iff b.ordered hsplit _).mp hdone
  exact (b.opens_before m m' hitem hmem hopening hclosing hlane.symm).asymm hbefore

theorem openAfter_append_opening {m : Marker} (b : Bracketed items)
    (hsplit : items = done ++ .bracket m :: todo) (hopening : m.bracketEnd = .opening)
    (lane : Nat) : OpenAfter (done ++ [.bracket m]) lane ↔ OpenAfter done lane ∨ lane = m.lane := by
  rw [OpenAfter, OpenAfter, hasBracket_append_singleton, hasBracket_append_singleton]
  have hlast : ¬ ∃ m', Item.bracket m = .bracket m' ∧ m'.bracketEnd = .closing ∧
      m'.lane = lane := by
    rintro ⟨m', heq, hclosing, _⟩
    cases heq
    rw [hopening] at hclosing
    cases hclosing
  constructor
  · rintro ⟨hopens | ⟨m', heq, _, hlane⟩, hcloses⟩
    · exact Or.inl ⟨hopens, fun hclosed => hcloses (Or.inl hclosed)⟩
    · cases heq
      exact Or.inr hlane.symm
  · rintro (⟨hopens, hcloses⟩ | rfl)
    · exact ⟨Or.inl hopens, fun hclosed => hclosed.elim hcloses hlast⟩
    · refine ⟨Or.inr ⟨m, rfl, hopening, rfl⟩, ?_⟩
      intro hclosed
      exact hclosed.elim (not_hasBracket_closing b hsplit hopening) hlast

theorem holds_append_opening {openLanes : List Nat} {m : Marker} (b : Bracketed items)
    (hsplit : items = done ++ .bracket m :: todo) (hopening : m.bracketEnd = .opening)
    (h : Holds openLanes done) : Holds (openLanes ++ [m.lane]) (done ++ [.bracket m]) := by
  have hfresh : m.lane ∉ openLanes := by
    rw [h.mem_iff]
    rintro ⟨hopens, _⟩
    rw [← hopening] at hopens
    exact not_hasBracket_self b hsplit hopens
  constructor
  · apply List.nodup_append.mpr
    refine ⟨h.nodup, by simp, ?_⟩
    intro lane hlane other hother heq
    rw [List.mem_singleton] at hother
    exact hfresh (by rw [← hother, ← heq]; exact hlane)
  · intro lane
    rw [List.mem_append, List.mem_singleton, h.mem_iff, openAfter_append_opening b hsplit hopening]

/-- A bracket closes in a lane that is open. -/
theorem mem_openLanes_of_closing {openLanes : List Nat} {m : Marker} (b : Bracketed items)
    (hsplit : items = done ++ .bracket m :: todo) (hclosing : m.bracketEnd = .closing)
    (h : Holds openLanes done) : m.lane ∈ openLanes := by
  have hitem : Item.bracket m ∈ items := by simp [hsplit]
  rw [h.mem_iff]
  constructor
  · obtain ⟨m', hmem, hopening, hlane⟩ := b.opens_of_closes m.lane ⟨m, hitem, hclosing, rfl⟩
    refine ⟨m', (mem_done_iff b.ordered hsplit _).mpr ⟨hmem, ?_⟩, hopening, hlane⟩
    exact b.opens_before m' m hmem hitem hopening hclosing hlane
  · rw [← hclosing]
    exact not_hasBracket_self b hsplit

theorem holds_append_closing {openLanes : List Nat} {m : Marker}
    (hclosing : m.bracketEnd = .closing) (h : Holds openLanes done) :
    Holds (openLanes.erase m.lane) (done ++ [.bracket m]) := by
  constructor
  · exact h.nodup.erase m.lane
  · intro lane
    rw [h.nodup.mem_erase_iff, h.mem_iff, OpenAfter, OpenAfter, hasBracket_append_singleton,
      hasBracket_append_singleton]
    constructor
    · rintro ⟨hne, hopens, hcloses⟩
      refine ⟨Or.inl hopens, ?_⟩
      rintro (hclosed | ⟨m', heq, _, hlane⟩)
      · exact hcloses hclosed
      · cases heq
        exact hne hlane.symm
    · rintro ⟨hopens | ⟨m', heq, hopening, _⟩, hcloses⟩
      · refine ⟨?_, hopens, fun hclosed => hcloses (Or.inl hclosed)⟩
        rintro rfl
        exact hcloses (Or.inr ⟨m, rfl, hclosing, rfl⟩)
      · cases heq
        rw [hclosing] at hopening
        cases hopening

/-- **One row.**  After the row of an item the open lanes are again those opened and not closed
so far, and a closing row never finds its lane closed. -/
theorem lanesAfter_eq_ok {openLanes : List Nat} (b : Bracketed items)
    (hsplit : items = done ++ item :: todo) (h : Holds openLanes done) :
    ∃ after, item.lanesAfter openLanes = .ok after ∧ Holds after (done ++ [item]) := by
  cases item with
  | text line => exact ⟨openLanes, rfl, holds_append_of_not_bracket h (by simp)⟩
  | underline u => exact ⟨openLanes, rfl, holds_append_of_not_bracket h (by simp)⟩
  | bracket m =>
      cases hend : m.bracketEnd with
      | opening =>
          refine ⟨openLanes ++ [m.lane], ?_, holds_append_opening b hsplit hend h⟩
          simp only [Item.lanesAfter, hend]
      | closing =>
          refine ⟨openLanes.erase m.lane, ?_, holds_append_closing hend h⟩
          simp only [Item.lanesAfter, hend, mem_openLanes_of_closing b hsplit hend h, if_true]

end Bracketed

/-! ### A whole run -/

/-- The bracket of a lane is open on the row of an item: it is opened before that item and not
closed before it. -/
def OpenAt (items : List Item) (item : Item) (lane : Nat) : Prop :=
  (∃ m, Item.bracket m ∈ items ∧ m.bracketEnd = .opening ∧ m.lane = lane ∧
    Item.Before (.bracket m) item) ∧
  ¬ ∃ m, Item.bracket m ∈ items ∧ m.bracketEnd = .closing ∧ m.lane = lane ∧
    Item.Before (.bracket m) item

namespace Bracketed

theorem openAfter_iff_openAt {items done todo : List Item} {item : Item}
    (h : items.Pairwise Item.Before) (hsplit : items = done ++ item :: todo) (lane : Nat) :
    OpenAfter done lane ↔ OpenAt items item lane := by
  unfold OpenAfter OpenAt HasBracket
  simp only [mem_done_iff h hsplit]
  constructor
  · rintro ⟨⟨m, ⟨hmem, hbefore⟩, hopening, hlane⟩, hcloses⟩
    refine ⟨⟨m, hmem, hopening, hlane, hbefore⟩, ?_⟩
    rintro ⟨m', hmem', hclosing, hlane', hbefore'⟩
    exact hcloses ⟨m', ⟨hmem', hbefore'⟩, hclosing, hlane'⟩
  · rintro ⟨⟨m, hmem, hopening, hlane, hbefore⟩, hcloses⟩
    refine ⟨⟨m, ⟨hmem, hbefore⟩, hopening, hlane⟩, ?_⟩
    rintro ⟨m', ⟨hmem', hbefore'⟩, hclosing, hlane'⟩
    exact hcloses ⟨m', hmem', hclosing, hlane', hbefore'⟩

/-- **A whole run.**  If every item can be drawn while the lanes open at it are open, then all of
them can be drawn in a row, starting with no lane open. -/
theorem drawAll_of_bracketed {c : Canvas} {drawing : List (Item × Row)}
    (b : Bracketed (drawing.map Prod.fst))
    (hdraw : ∀ entry ∈ drawing, ∀ openLanes : List Nat,
      (∀ lane, lane ∈ openLanes ↔ OpenAt (drawing.map Prod.fst) entry.1 lane) →
      c.draw openLanes entry.1 = .ok entry.2) :
    c.drawAll [] (drawing.map Prod.fst) = .ok (drawing.map Prod.snd) := by
  -- the induction is on what is left to draw; what has been drawn carries the invariant
  have hrun : ∀ (todo done : List (Item × Row)) (openLanes : List Nat),
      drawing = done ++ todo → Holds openLanes (done.map Prod.fst) →
      c.drawAll openLanes (todo.map Prod.fst) = .ok (todo.map Prod.snd) := by
    intro todo
    induction todo with
    | nil =>
        intro done openLanes _ _
        rfl
    | cons entry rest ih =>
        intro done openLanes hsplit hholds
        have hitems : drawing.map Prod.fst =
            done.map Prod.fst ++ entry.1 :: rest.map Prod.fst := by
          rw [hsplit, List.map_append, List.map_cons]
        have hrow : c.draw openLanes entry.1 = .ok entry.2 := by
          refine hdraw entry (by simp [hsplit]) openLanes ?_
          intro lane
          rw [hholds.mem_iff, openAfter_iff_openAt b.ordered hitems]
        obtain ⟨after, hafter, hnext⟩ := lanesAfter_eq_ok b hitems hholds
        have hrest := ih (done ++ [entry]) after (by simp [hsplit]) (by simpa using hnext)
        exact Canvas.drawAll_cons_eq_ok_iff.mpr
          ⟨entry.2, after, rest.map Prod.snd, hrow, hafter, hrest, rfl⟩
  exact hrun drawing [] [] rfl holds_nil

end Bracketed

end SourceDiagnostics
