import SourceDiagnostics.Reporting.Stream

/-!
# Frames on a stream that may close

Frames are written to a stream one after another, and from some write on the stream refuses.  What
it has then is told without looking at any single write: the rows of all frames that could be
rendered, each as a text of its own, cut off at the first refused one.  A frame that cannot be
rendered leaves no trace, and one that has been written whole is flushed once.

How much more a stream takes, `Stream.room`, is all that carries over from frame to frame.
-/

namespace SourceDiagnostics

/-- The first items, or all of them if there is no bound. -/
def upTo {α : Type} (bound : Option Nat) (items : List α) : List α :=
  match bound with
  | none => items
  | some n => items.take n

@[simp] theorem upTo_nil {α : Type} (bound : Option Nat) : upTo bound ([] : List α) = [] := by
  cases bound with
  | none => rfl
  | some n => exact List.take_nil

theorem upTo_append {α : Type} (bound : Option Nat) (items others : List α) :
    upTo bound (items ++ others) =
      upTo bound items ++ upTo (bound.map fun n => n - items.length) others := by
  cases bound with
  | none => rfl
  | some n => exact List.take_append

theorem upTo_cons {α : Type} {bound : Option Nat} (h : bound ≠ some 0) (item : α)
    (rest : List α) :
    upTo bound (item :: rest) = item :: upTo (bound.map fun n => n - 1) rest := by
  cases bound with
  | none => rfl
  | some n =>
      have hpos : n ≠ 0 := fun hzero => h (congrArg some hzero)
      exact List.take_cons (Nat.pos_of_ne_zero hpos)

namespace Stream

/-! ### Room for writes -/

/-- How many more writes a stream takes, if not all. -/
def room (s : Stream) : Option Nat := s.refusedFrom.map fun first => first - 1 - s.attempts

theorem refuses_iff {s : Stream} : s.refuses = true ↔ s.room = some 0 := by
  unfold refuses room
  cases s.refusedFrom with
  | none => simp
  | some first =>
      simp only [decide_eq_true_eq, Option.map_some, Option.some.injEq]
      omega

theorem room_write (s : Stream) (text : String) :
    (s.write text).room = s.room.map fun n => n - 1 := by
  have hkept : (s.write text).refusedFrom = s.refusedFrom := by
    unfold write
    split <;> rfl
  have hattempts : (s.write text).attempts = s.attempts + 1 := by
    unfold write
    split <;> rfl
  rw [room, room, hkept, hattempts, Option.map_map]
  rfl

theorem writes_write {s : Stream} (h : s.refuses = false) (text : String) :
    (s.write text).writes = s.writes ++ [text] := by
  rw [write, h]
  rfl

theorem isTerminal_write (s : Stream) (text : String) :
    (s.write text).isTerminal = s.isTerminal := by
  unfold write
  split <;> rfl

theorem flushes_write (s : Stream) (text : String) : (s.write text).flushes = s.flushes := by
  unfold write
  split <;> rfl

theorem flushes_foldl_write (s : Stream) (texts : List String) :
    (texts.foldl write s).flushes = s.flushes := by
  induction texts generalizing s with
  | nil => rfl
  | cons text rest ih => rw [List.foldl_cons, ih, flushes_write]

/-! ### One frame -/

/-- What has become of a stream on which texts were written until one was refused. -/
structure TextsWritten (before : Stream) (texts : List String)
    (result : Except OutputFault Unit) (after : Stream) : Prop where
  writes_eq : after.writes = before.writes ++ upTo before.room texts
  room_eq : after.room = before.room.map fun n => n - texts.length
  isTerminal_eq : after.isTerminal = before.isTerminal
  written : upTo before.room texts = texts →
    result = .ok () ∧ after = (texts.foldl write before).flush
  refused : upTo before.room texts ≠ texts →
    result = .error .closed ∧ after.flushes = before.flushes

theorem textsWritten_writeAll (s : Stream) (texts : List String) :
    s.TextsWritten texts (s.writeAll texts).1 (s.writeAll texts).2 := by
  induction texts generalizing s with
  | nil =>
      refine ⟨?_, ?_, rfl, fun _ => ⟨rfl, rfl⟩, fun h => absurd (upTo_nil _) h⟩
      · rw [upTo_nil]
        exact (List.append_nil _).symm
      · exact Option.map_id'.symm
  | cons text rest ih =>
      by_cases hrefuses : s.refuses = true
      · -- nothing gets in any more
        have hroom := refuses_iff.mp hrefuses
        have hwrite := write_of_refuses hrefuses text
        rw [writeAll, if_pos hrefuses]
        refine ⟨?_, ?_, isTerminal_write s text, ?_, fun _ => ⟨rfl, flushes_write s text⟩⟩
        · rw [hwrite.1, hroom]
          exact (List.append_nil _).symm
        · rw [room_write, hroom, Option.map_some, Option.map_some, Nat.zero_sub, Nat.zero_sub]
        · intro hall
          rw [hroom] at hall
          cases hall
      · have hopen : s.refuses = false := (Bool.not_eq_true _).mp hrefuses
        have hroom : s.room ≠ some 0 := fun h => hrefuses (refuses_iff.mpr h)
        have hrest := ih (s.write text)
        have hupTo := upTo_cons hroom text rest
        rw [← room_write s text] at hupTo
        rw [writeAll, if_neg hrefuses]
        refine ⟨?_, ?_, ?_, ?_, ?_⟩
        · rw [hrest.writes_eq, writes_write hopen, hupTo, List.append_assoc]
          rfl
        · rw [hrest.room_eq, room_write, Option.map_map]
          refine congrArg (Option.map · s.room) (funext fun n => ?_)
          rw [Function.comp_apply, List.length_cons]
          omega
        · rw [hrest.isTerminal_eq, isTerminal_write]
        · intro hall
          rw [hupTo] at hall
          exact hrest.written (List.cons.inj hall).2
        · intro hsome
          rw [hupTo] at hsome
          have hrefused := hrest.refused fun heq => hsome (congrArg (text :: ·) heq)
          rw [flushes_write] at hrefused
          exact hrefused

/-- What writing a frame whose rows are known comes to. -/
structure FrameWritten (before : Stream) (texts : List String)
    (result : Except OutputFault Unit) (after : Stream) : Prop where
  /-- It fails exactly if one of the texts is not recorded. -/
  closed_iff : result = .error .closed ↔ after.writes ≠ before.writes ++ texts
  /-- Otherwise the texts are written, and flushed once. -/
  flushed : result ≠ .error .closed →
    result = .ok () ∧ after = (texts.foldl write before).flush ∧
      after.flushes = before.flushes + 1
  unflushed : result = .error .closed → after.flushes = before.flushes

theorem TextsWritten.frameWritten {before after : Stream} {texts : List String}
    {result : Except OutputFault Unit} (h : before.TextsWritten texts result after) :
    before.FrameWritten texts result after := by
  by_cases hall : upTo before.room texts = texts
  · obtain ⟨hresult, hafter⟩ := h.written hall
    have hok : result ≠ .error .closed := by
      rw [hresult]
      intro hclosed
      cases hclosed
    have hwrites : after.writes = before.writes ++ texts := by rw [h.writes_eq, hall]
    refine ⟨⟨fun hclosed => absurd hclosed hok, fun hne => absurd hwrites hne⟩, fun _ => ?_,
      fun hclosed => absurd hclosed hok⟩
    refine ⟨hresult, hafter, ?_⟩
    rw [hafter, flush, flushes_foldl_write]
  · obtain ⟨hresult, hflushes⟩ := h.refused hall
    refine ⟨⟨fun _ hwrites => ?_, fun _ => hresult⟩, fun hok => absurd hresult hok,
      fun _ => hflushes⟩
    rw [h.writes_eq, List.append_cancel_left_eq] at hwrites
    exact hall hwrites

end Stream

/-! ### Runs of frames -/

theorem join_map_append {α : Type} {items : List α} (h : items ≠ []) (f : α → String)
    (stop : String) :
    String.join (items.map fun item => f item ++ stop) =
      stop.intercalate (items.map f) ++ stop := by
  induction items with
  | nil => exact absurd rfl h
  | cons item rest ih =>
      cases rest with
      | nil => simp
      | cons next others =>
          rw [List.map_cons, String.join_cons, ih (List.cons_ne_nil _ _)]
          simp [String.append_assoc]

section Runs

variable (p : Presentation) (noColor : Option String)

/-- What the frame of a diagnostic writes, row by row: nothing if it cannot be rendered. -/
def frameTexts (color : Bool) (sources : Sources) (d : Diagnostic) : List String :=
  match d.render sources p with
  | .ok rows =>
      rows.map fun row => (if color then row.painted standardEscape else row.plain) ++ "\n"
  | .error _ => []

/-- What the frames of some diagnostics write, each with its sources. -/
def allTexts (color : Bool) (jobs : List (Sources × Diagnostic)) : List String :=
  jobs.flatMap fun job => frameTexts p color job.1 job.2

/-- The stream after the frames of some diagnostics. -/
def writeFrames (jobs : List (Sources × Diagnostic)) (s : Stream) : Stream :=
  jobs.foldl (fun s job => (writeFrame job.1 p noColor job.2 s).2) s

variable {p} {sources : Sources} {d : Diagnostic} {rows : List Row}

theorem writeFrame_of_ok (h : d.render sources p = .ok rows) (s : Stream) :
    writeFrame sources p noColor d s =
      s.writeAll (frameTexts p (p.useColor noColor s.isTerminal) sources d) := by
  rw [frameTexts, writeFrame, h]
  rfl

/-- **One frame.**  Whatever it is, the stream takes what there is room for. -/
theorem writeFrame_takes (sources : Sources) (d : Diagnostic) (s : Stream) :
    (writeFrame sources p noColor d s).2.writes =
        s.writes ++ upTo s.room (frameTexts p (p.useColor noColor s.isTerminal) sources d) ∧
      (writeFrame sources p noColor d s).2.room = s.room.map (fun n =>
        n - (frameTexts p (p.useColor noColor s.isTerminal) sources d).length) ∧
      (writeFrame sources p noColor d s).2.isTerminal = s.isTerminal := by
  cases hrender : d.render sources p with
  | error fault =>
      rw [writeFrame_of_error hrender, frameTexts, hrender, upTo_nil, List.append_nil]
      exact ⟨rfl, Option.map_id'.symm, rfl⟩
  | ok rows =>
      rw [writeFrame_of_ok noColor hrender]
      have h := s.textsWritten_writeAll (frameTexts p (p.useColor noColor s.isTerminal) sources d)
      exact ⟨h.writes_eq, h.room_eq, h.isTerminal_eq⟩

/-- **Runs.**  What one frame leaves of the room is there for the next. -/
theorem writeFrames_takes (jobs : List (Sources × Diagnostic)) (s : Stream) :
    (writeFrames p noColor jobs s).writes =
        s.writes ++ upTo s.room (allTexts p (p.useColor noColor s.isTerminal) jobs) ∧
      (writeFrames p noColor jobs s).room = s.room.map (fun n =>
        n - (allTexts p (p.useColor noColor s.isTerminal) jobs).length) ∧
      (writeFrames p noColor jobs s).isTerminal = s.isTerminal := by
  induction jobs generalizing s with
  | nil =>
      rw [allTexts, List.flatMap_nil, upTo_nil, List.append_nil]
      exact ⟨rfl, Option.map_id'.symm, rfl⟩
  | cons job rest ih =>
      obtain ⟨hwrites, hroom, hterminal⟩ :=
        writeFrame_takes (p := p) noColor job.1 job.2 s
      obtain ⟨hrest, hleft, hkept⟩ := ih (writeFrame job.1 p noColor job.2 s).2
      rw [writeFrames, List.foldl_cons, ← writeFrames]
      refine ⟨?_, ?_, hkept.trans hterminal⟩
      · rw [hrest, hwrites, hroom, hterminal, allTexts, allTexts, List.flatMap_cons, upTo_append,
          List.append_assoc]
      · rw [hleft, hroom, hterminal, Option.map_map, allTexts, allTexts, List.flatMap_cons]
        refine congrArg (Option.map · s.room) (funext fun n => ?_)
        rw [Function.comp_apply, List.length_append, Nat.sub_sub]

/-- A frame that is written says what it says as text, with a line feed at its end. -/
theorem exists_format_eq (h : d.render sources p = .ok rows) (color : Bool) :
    ∃ text, d.format sources p color = .ok text ∧
      String.join (frameTexts p color sources d) = text ++ "\n" := by
  have hnonempty : rows ≠ [] := by
    obtain ⟨layouts, _, hlayouts⟩ := Result.bind_eq_ok_iff.mp h
    obtain ⟨snippets, _, hrows⟩ := Result.bind_eq_ok_iff.mp hlayouts
    rw [← Except.ok.inj hrows]
    exact List.cons_ne_nil _ _
  refine ⟨_, Diagnostic.format_of_render h color, ?_⟩
  rw [frameTexts, h]
  exact join_map_append hnonempty _ _

end Runs

/-- A new stream after the frames of some diagnostics, if it refuses writes from some one on. -/
def streamAfter (p : Presentation) (noColor : Option String) (isTerminal : Option Bool)
    (refusedFrom : Option Nat) (jobs : List (Sources × Diagnostic)) : Stream :=
  writeFrames p noColor jobs { isTerminal, refusedFrom }

/-- **Streams.**  Let diagnostics be written one after another to a stream that refuses every write
from some one on, or none.  It has the rows of all diagnostics that can be rendered, in order and
up to the first refused one.  At any point of the run, a diagnostic that cannot be rendered fails
with its own fault and leaves the stream alone; any other fails exactly if one of its rows is not
recorded, and is otherwise flushed once.  If nothing is refused, what it adds is its text. -/
theorem writeFrames_recorded (p : Presentation) (noColor : Option String)
    (isTerminal : Option Bool) (refusedFrom : Option Nat) (jobs : List (Sources × Diagnostic)) :
    (streamAfter p noColor isTerminal refusedFrom jobs).writes =
      upTo (refusedFrom.map fun first => first - 1)
        (allTexts p (p.useColor noColor isTerminal) jobs) ∧
    ∀ sources d result after,
      writeFrame sources p noColor d (streamAfter p noColor isTerminal refusedFrom jobs) =
        (result, after) →
      match d.render sources p with
      | .error fault =>
          result = .error (.frame fault) ∧
            after = streamAfter p noColor isTerminal refusedFrom jobs
      | .ok rows =>
          (streamAfter p noColor isTerminal refusedFrom jobs).FrameWritten
            (rows.map fun row =>
              (if p.useColor noColor isTerminal then row.painted standardEscape else row.plain) ++
                "\n") result after ∧
          (refusedFrom = none → ∃ text added,
            d.format sources p (p.useColor noColor isTerminal) = .ok text ∧
            after.writes = (streamAfter p noColor isTerminal refusedFrom jobs).writes ++ added ∧
            String.join added = text ++ "\n") := by
  obtain ⟨hwrites, hroom, hterminal⟩ :=
    writeFrames_takes (p := p) noColor jobs { isTerminal, refusedFrom }
  rw [← streamAfter] at hwrites hroom hterminal
  refine ⟨?_, ?_⟩
  · rw [hwrites, List.nil_append]
    rfl
  · intro sources d result after hwrite
    cases hrender : d.render sources p with
    | error fault =>
        rw [writeFrame_of_error hrender, Prod.mk.injEq] at hwrite
        exact ⟨hwrite.1.symm, hwrite.2.symm⟩
    | ok rows =>
        have hwritten := (streamAfter p noColor isTerminal refusedFrom jobs).textsWritten_writeAll
          (frameTexts p (p.useColor noColor isTerminal) sources d)
        rw [writeFrame_of_ok noColor hrender, hterminal] at hwrite
        rw [hwrite] at hwritten
        refine ⟨?_, ?_⟩
        · have hframe := hwritten.frameWritten
          rwa [frameTexts, hrender] at hframe
        · intro hopen
          obtain ⟨text, hformat, hjoin⟩ :=
            exists_format_eq hrender (p.useColor noColor isTerminal)
          refine ⟨text, _, hformat, ?_, hjoin⟩
          have hall : (streamAfter p noColor isTerminal refusedFrom jobs).room = none := by
            rw [hroom, Stream.room, hopen]
            rfl
          rw [hwritten.writes_eq, hall]
          rfl

end SourceDiagnostics
