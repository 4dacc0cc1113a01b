import SourceDiagnostics.Proofs.Reporting.FilterChains
import SourceDiagnostics.Proofs.Reporting.Sinks

/-!
# Registries keep their first sink

Components install sinks in a registry and report through it, in any order.  The first sink
installed receives every later report that its filter allows and whose diagnostic could be built,
at the severity it was reported at; nothing else becomes of the session: `Session.Reached`.  A
diagnostic is built once if the filter allows it and not at all otherwise; the builder here counts
how often it is called.
-/

namespace SourceDiagnostics

variable {ε : Type}

/-! ### Calls -/

/-- How a component reports: at a severity, or by the name of one. -/
inductive ReportKind
  | diagnostic (severity : Severity)
  | bug
  | error
  | warn
deriving DecidableEq, Repr

def ReportKind.severity : ReportKind → Severity
  | diagnostic severity => severity
  | bug => .bug
  | error => .error
  | warn => .warning

/-- A call on a registry.  A report comes with what building its diagnostic would give. -/
inductive RegistryCall (ε : Type)
  | install (sink : Nat)
  | report (kind : ReportKind) (stage : Stage) (built : Except ε Diagnostic)

/-- The sink that is installed before all others. -/
def firstInstalled : List (RegistryCall ε) → Option Nat
  | [] => none
  | .install sink :: _ => some sink
  | .report .. :: rest => firstInstalled rest

/-- A diagnostic reported at a stage and severity, which it takes on. -/
def Diagnostic.reportedAt (d : Diagnostic) (stage : Stage) (severity : Severity) : Report :=
  { stage, severity, diagnostic := d.withSeverity severity }

/-- What a sink receives from a call if its filter was made by a chain. -/
def RegistryCall.received (chain : FilterChain) : RegistryCall ε → List Report
  | .report kind stage (.ok d) =>
      if chain.Allows stage kind.severity then [d.reportedAt stage kind.severity] else []
  | _ => []

/-- What the first sink receives.  Reports before it is installed are lost. -/
def received (chain : FilterChain) : List (RegistryCall ε) → List Report
  | [] => []
  | .install _ :: rest => rest.flatMap (RegistryCall.received chain)
  | .report .. :: rest => received chain rest

/-- Building counts how often it is done. -/
def counted (built : Except ε Diagnostic) : StateM Nat (Except ε Diagnostic) := do
  modify (· + 1)
  return built

namespace Session

/-- The session after a call on a registry. -/
def afterCall (s : Session) (registry : Nat) : RegistryCall ε → Session
  | .install sink =>
      match s.install registry sink with
      | .ok (after, _) => after
      | .error _ => s
  | .report kind stage built =>
      ((s.report registry stage kind.severity (counted built)).run 0).1.session

def afterCalls (s : Session) (registry : Nat) (calls : List (RegistryCall ε)) : Session :=
  calls.foldl (fun s call => s.afterCall registry call) s

/-! ### Reports through a registry -/

/-- What a report through a registry comes to, and how often its diagnostic is built. -/
inductive ReportAnswered (s : Session) (chain : FilterChain) (stage : Stage)
    (severity : Severity) : Option Nat → Except ε Diagnostic → Outcome ε × Nat → Prop
  | notInstalled {built : Except ε Diagnostic} :
      ReportAnswered s chain stage severity none built
        ({ result := .error (.registry .nothingInstalled), session := s }, 0)
  | refused {first : Nat} {built : Except ε Diagnostic} (h : ¬ chain.Allows stage severity) :
      ReportAnswered s chain stage severity (some first) built
        ({ result := .ok false, session := s }, 0)
  | unbuilt {first : Nat} {fault : ε} (h : chain.Allows stage severity) :
      ReportAnswered s chain stage severity (some first) (.error fault)
        ({ result := .error (.building fault), session := s }, 1)
  | received {first : Nat} {d : Diagnostic} {result : Except OutputFault Unit} {after : Session}
      {journal : List JournalEntry} (h : chain.Allows stage severity)
      (received : s.Received first (d.reportedAt stage severity) result after journal) :
      ReportAnswered s chain stage severity (some first) (.ok d)
        ({ result := (result.map fun _ => true).mapError .output, session := after, journal }, 1)

/-- What handing over a diagnostic comes to once building it is over. -/
def handOver (s : Session) (sink : Nat) (stage : Stage) (severity : Severity) :
    Except ε Diagnostic → Outcome ε
  | .error fault => { result := .error (.building fault), session := s }
  | .ok d =>
      let (result, given, journal) := s.give sink (d.reportedAt stage severity)
      { result := (result.map fun _ => true).mapError .output, session := given, journal }

/-- If the sink takes the diagnostic, it is built, once and before anything else happens. -/
theorem report_of_taken {m : Type → Type} [Monad m] {s after : Session} {registry sink : Nat}
    (h : s.installed? registry = some sink) {stage : Stage} {severity : Severity}
    (taken : s.ask sink stage severity = (true, after)) (build : m (Except ε Diagnostic)) :
    s.report registry stage severity build =
      build >>= fun built => pure (after.handOver sink stage severity built) := by
  unfold report sinkOf
  rw [h]
  simp only [taken]
  refine congrArg (build >>= ·) (funext fun built => ?_)
  cases built <;> rfl

/-- **One report.**  What it comes to depends on the registry, the filter and the builder. -/
theorem reportAnswered {s : Session} {registry : Nat} {chain : FilterChain}
    (hsink : ∀ first, s.installed? registry = some first → s.HasSink first chain.filter)
    (stage : Stage) (severity : Severity) (built : Except ε Diagnostic) :
    s.ReportAnswered chain stage severity (s.installed? registry) built
      ((s.report registry stage severity (counted built)).run 0) := by
  cases hinstalled : s.installed? registry with
  | none =>
      rw [report_of_not_installed hinstalled]
      exact .notInstalled
  | some first =>
      have hfirst := hsink first hinstalled
      have hask := ask_of_hasSink hfirst stage severity
      by_cases hallows : chain.Allows stage severity
      · have hallowed := (chain.allows_filter stage severity).mpr hallows
        rw [hallowed] at hask
        rw [report_of_taken hinstalled hask]
        cases built with
        | error fault => exact .unbuilt hallows
        | ok d => exact .received hallows (received_give hfirst hallowed)
      · have hrefused : (s.ask first stage severity).1 = false := by
          rw [hask]
          exact Bool.eq_false_iff.mpr fun h => hallows ((chain.allows_filter stage severity).mp h)
        rw [report_of_refused hinstalled hrefused, hask]
        exact .refused hallows

/-- The call that follows when the registry has a sink. -/
theorem afterCall_of_installed {s : Session} {registry first : Nat} {chain : FilterChain}
    (hinstalled : s.installed? registry = some first) (h : s.HasSink first chain.filter)
    (call : RegistryCall ε) : s.afterCall registry call = s.receiving first (call.received chain) := by
  cases call with
  | install sink =>
      rw [afterCall, install_of_installed hinstalled]
      exact (receiving_nil h).symm
  | report kind stage built =>
      have hsink : ∀ other, s.installed? registry = some other → s.HasSink other chain.filter := by
        intro other hother
        rw [hinstalled] at hother
        exact Option.some.inj hother ▸ h
      have hanswered := reportAnswered hsink stage kind.severity built
      rw [hinstalled] at hanswered
      rw [afterCall]
      generalize (s.report registry stage kind.severity (counted built)).run 0 = run at hanswered ⊢
      cases hanswered with
      | refused hrefused =>
          cases built with
          | error fault => exact (receiving_nil h).symm
          | ok d =>
              rw [RegistryCall.received, if_neg hrefused]
              exact (receiving_nil h).symm
      | unbuilt _ => exact (receiving_nil h).symm
      | received hallows hreceived =>
          rw [RegistryCall.received, if_pos hallows]
          exact hreceived.session_eq

theorem afterCall_report_of_not_installed {s : Session} {registry : Nat}
    (h : s.installed? registry = none) (kind : ReportKind) (stage : Stage)
    (built : Except ε Diagnostic) : s.afterCall registry (.report kind stage built) = s := by
  rw [afterCall, report_of_not_installed h]
  rfl

/-! ### Runs -/

/-- The session once a registry has a sink. -/
def withInstalled (s : Session) (registry sink : Nat) : Session :=
  { s with registries := s.registries.set registry (some sink) }

theorem installed?_withInstalled {s : Session} {registry : Nat}
    (fresh : s.registries[registry]? = some none) (sink : Nat) :
    (s.withInstalled registry sink).installed? registry = some sink := by
  have hlt : registry < s.registries.length := (List.getElem?_eq_some_iff.mp fresh).1
  rw [installed?, withInstalled, List.getElem?_set_self hlt]
  rfl

theorem hasSink_withInstalled {s : Session} {sink : Nat} {filter : Filter}
    (h : s.HasSink sink filter) (registry other : Nat) :
    (s.withInstalled registry other).HasSink sink filter := by
  cases h with
  | queue q found filtered => exact .queue q found filtered
  | terminal stream p target found target_found =>
      exact .terminal stream p target found target_found

theorem afterCalls_of_installed {s : Session} {registry first : Nat} {chain : FilterChain}
    (hinstalled : s.installed? registry = some first) (h : s.HasSink first chain.filter)
    (calls : List (RegistryCall ε)) :
    s.afterCalls registry calls =
      s.receiving first (calls.flatMap (RegistryCall.received chain)) := by
  induction calls generalizing s with
  | nil => exact (receiving_nil h).symm
  | cons call rest ih =>
      rw [afterCalls, List.foldl_cons, ← afterCalls, afterCall_of_installed hinstalled h, ih,
        receiving_append h, List.flatMap_cons]
      · rw [installed?_receiving, hinstalled]
      · exact hasSink_receiving h _

/-- **Runs.**  Only the first sink receives anything, and only once it is installed. -/
theorem afterCalls_eq {s : Session} {registry : Nat} (fresh : s.registries[registry]? = some none)
    {chain : FilterChain} (calls : List (RegistryCall ε))
    (filtered : ∀ first, firstInstalled calls = some first → s.HasSink first chain.filter) :
    s.afterCalls registry calls =
      match firstInstalled calls with
      | none => s
      | some first => (s.withInstalled registry first).receiving first (received chain calls) := by
  have hnone : s.installed? registry = none := by
    rw [installed?, fresh]
    rfl
  induction calls with
  | nil => rfl
  | cons call rest ih =>
      cases call with
      | install sink =>
          have hinstall : s.afterCall registry (.install sink : RegistryCall ε) =
              s.withInstalled registry sink := by
            rw [afterCall, install, hnone]
            rfl
          rw [afterCalls, List.foldl_cons, hinstall]
          exact afterCalls_of_installed (installed?_withInstalled fresh sink)
            (hasSink_withInstalled (filtered sink rfl) registry sink) rest
      | report kind stage built =>
          rw [afterCalls, List.foldl_cons, afterCall_report_of_not_installed hnone]
          exact ih filtered

theorem allows_of_mem_received {chain : FilterChain} {call : RegistryCall ε} {r : Report}
    (h : r ∈ call.received chain) :
    chain.Allows r.stage r.severity ∧ r.diagnostic.severity = r.severity := by
  cases call with
  | install sink => cases h
  | report kind stage built =>
      cases built with
      | error fault => cases h
      | ok d =>
          rw [RegistryCall.received] at h
          split at h
          · rename_i hallows
            rw [List.mem_singleton.mp h]
            exact ⟨hallows, rfl⟩
          · cases h

theorem allows_of_mem_received_run {chain : FilterChain} {calls : List (RegistryCall ε)}
    {r : Report} (h : r ∈ received chain calls) :
    chain.Allows r.stage r.severity ∧ r.diagnostic.severity = r.severity := by
  induction calls with
  | nil => cases h
  | cons call rest ih =>
      cases call with
      | install sink =>
          obtain ⟨later, _, hlater⟩ := List.mem_flatMap.mp h
          exact allows_of_mem_received hlater
      | report kind stage built => exact ih h

/-- What calls on a registry make of a session, and what the next call comes to. -/
structure Reached (s : Session) (registry : Nat) (chain : FilterChain)
    (calls : List (RegistryCall ε)) (reached : Session) : Prop where
  installed_eq : reached.installed? registry = firstInstalled calls
  unchanged : firstInstalled calls = none → reached = s
  /-- Besides the entry in the registry, all that changes is what the first sink receives. -/
  received_eq (first : Nat) : firstInstalled calls = some first →
    reached = (s.withInstalled registry first).receiving first (received chain calls)
  sinks_eq_of_ne (other : Nat) : firstInstalled calls ≠ some other →
    reached.sinks[other]? = s.sinks[other]?
  allowed (r : Report) : r ∈ received chain calls →
    chain.Allows r.stage r.severity ∧ r.diagnostic.severity = r.severity
  install_first (sink : Nat) : firstInstalled calls = none →
    ∃ journal, reached.install registry sink = .ok (reached.withInstalled registry sink, journal)
  install_again (sink : Nat) : firstInstalled calls ≠ none →
    reached.install registry sink = .error .alreadyInstalled ∧
      reached.afterCall registry (.install sink : RegistryCall ε) = reached
  report_answered (kind : ReportKind) (stage : Stage) (built : Except ε Diagnostic) :
    reached.ReportAnswered chain stage kind.severity (firstInstalled calls) built
      ((reached.report registry stage kind.severity (counted built)).run 0)

/-- **Registries.**  Let sinks be installed in a new registry and diagnostics be reported through
it, in any order, and let the first sink installed be a queue or a terminal whose filter was made
by a chain of changes.  Then that sink is the one of the registry at any time, every other
installation fails and changes nothing, and only that sink receives anything: the reports that the
chain allows and whose diagnostics could be built, each at its own severity.  The diagnostic of the
next report is built once if the chain allows it and otherwise not at all, and if there is no
sink yet the report fails. -/
theorem afterCalls_reached {s : Session} {registry : Nat}
    (fresh : s.registries[registry]? = some none) {chain : FilterChain}
    (calls : List (RegistryCall ε))
    (filtered : ∀ first, firstInstalled calls = some first → s.HasSink first chain.filter) :
    s.Reached registry chain calls (s.afterCalls registry calls) := by
  have heq := afterCalls_eq fresh calls filtered
  generalize s.afterCalls registry calls = reached at heq ⊢
  have hnone : s.installed? registry = none := by
    rw [installed?, fresh]
    rfl
  have hinstalled : reached.installed? registry = firstInstalled calls := by
    rw [heq]
    cases hfirst : firstInstalled calls with
    | none => exact hnone
    | some first => exact (installed?_receiving ..).trans (installed?_withInstalled fresh first)
  have hsink : ∀ first, reached.installed? registry = some first →
      reached.HasSink first chain.filter := by
    intro first hfirst
    rw [hinstalled] at hfirst
    rw [heq, hfirst]
    exact hasSink_receiving (hasSink_withInstalled (filtered first hfirst) registry first) _
  refine ⟨hinstalled, ?_, ?_, ?_, fun r hr => allows_of_mem_received_run hr, ?_, ?_, ?_⟩
  · intro hfirst
    rw [heq, hfirst]
  · intro first hfirst
    rw [heq, hfirst]
  · intro other hother
    rw [heq]
    cases hfirst : firstInstalled calls with
    | none => rfl
    | some first =>
        have hne : first ≠ other := fun h => hother (h ▸ hfirst)
        exact sinks_receiving_of_ne hne _ _
  · intro sink hfirst
    refine ⟨(reached.sinks[sink]?).toList.map fun found => .sinkInstalled found.kind, ?_⟩
    rw [install, hinstalled, hfirst]
    rfl
  · intro sink hfirst
    obtain ⟨first, hfirst⟩ := Option.ne_none_iff_exists'.mp hfirst
    rw [← hinstalled] at hfirst
    have hagain := install_of_installed hfirst sink
    rw [afterCall, hagain]
    exact ⟨rfl, rfl⟩
  · intro kind stage built
    rw [← hinstalled]
    exact reportAnswered hsink stage kind.severity built

/-! ### A run -/

/-- Starts with no stage at all; the last threshold lets notes through no longer. -/
def twoStages : FilterChain where
  initial := { threshold := .bug, stages := some [] }
  changes := [.stage ⟨.parsing, "SVG"⟩, .threshold .help, .stage ⟨.codegen, ""⟩,
    .threshold .warning]

/-- A queue and a terminal, and a registry without a sink. -/
def twoSinks : Session where
  streams := [{}]
  sinks := [.queue ⟨1, twoStages.filter, [], Nat.one_pos⟩, .terminal 0 {} {}]
  registries := [none]

def mixedCalls : List (RegistryCall String) :=
  [.report .error ⟨.parsing, "SVG"⟩ (.ok { severity := .error, message := "too early" }),
    .install 0,
    .install 1,
    .report .error ⟨.codegen, ""⟩ (.error "no such node"),
    .report .bug ⟨.semantic, ""⟩ (.ok { severity := .bug, message := "other stage" }),
    .report (.diagnostic .note) ⟨.codegen, ""⟩ (.ok { severity := .note, message := "mild" }),
    .report .warn ⟨.parsing, "SVG"⟩ (.ok { severity := .help, message := "unused" }),
    .report .bug ⟨.codegen, ""⟩ (.ok { severity := .bug, message := "no room" })]

/-- The queue receives two reports and has room for one; the terminal receives nothing. -/
theorem afterCalls_reached_mixed :
    twoSinks.Reached 0 twoStages mixedCalls (twoSinks.afterCalls 0 mixedCalls) ∧
      firstInstalled mixedCalls = some 0 ∧
      (twoSinks.afterCalls 0 mixedCalls).queue? 0 =
        some ⟨1, twoStages.filter,
          [⟨⟨.parsing, "SVG"⟩, .warning, { severity := .warning, message := "unused" }⟩],
          Nat.one_pos⟩ ∧
      (twoSinks.afterCalls 0 mixedCalls).streams = [{}] := by
  have hqueue : twoSinks.HasSink 0 twoStages.filter := .queue _ rfl rfl
  have hreached : twoSinks.Reached 0 twoStages mixedCalls (twoSinks.afterCalls 0 mixedCalls) :=
    afterCalls_reached rfl mixedCalls fun first hfirst => Option.some.inj hfirst ▸ hqueue
  have hreceived : received twoStages mixedCalls =
      [⟨⟨.parsing, "SVG"⟩, .warning, { severity := .warning, message := "unused" }⟩,
        ⟨⟨.codegen, ""⟩, .bug, { severity := .bug, message := "no room" }⟩] := by decide
  have hsession := hreached.received_eq 0 rfl
  rw [hreceived] at hsession
  refine ⟨hreached, rfl, ?_, ?_⟩
  · rw [hsession]
    rfl
  · rw [hsession]
    rfl

end Session

end SourceDiagnostics
