import Rulebook.Proofs.Run.Course
import Rulebook.Proofs.Telemetry.Counts

/-!
What an execution leaves in the metrics.

The rules of a run leave lines in a log and nothing else (`Engine.onlyLogs_execute`). Around them an
execution opens one scope, and once it has its result it is measured. So whatever its examples have
recorded inside the scope, the execution adds itself, and no more (`Engine.records_runWith`).
-/

namespace Rulebook

/-! ### Scopes -/

mutual

def Event.scopes : Event → Nat
  | .scope _ events => scopesIn events + 1
  | .log _ | .executed _ | .timed | .fired _ | .conflicted _ | .reported .. => 0

def scopesIn : List Event → Nat
  | [] => 0
  | event :: rest => event.scopes + scopesIn rest

end

theorem scopesIn_append (first second : List Event) :
    scopesIn (first ++ second) = scopesIn first + scopesIn second := by
  induction first with
  | nil => exact (Nat.zero_add _).symm
  | cons event rest ih => rw [List.cons_append, scopesIn, scopesIn, ih, Nat.add_assoc]

/-! ### Records -/

/-- The events record these executions and issues: whatever metrics have counted before, they count
these besides, and there is a scope for each execution. -/
structure Records (events : List Event) (executions : List ExecutionResult)
    (issues : List Issue) : Prop where
  counts : ∀ {metrics before told}, Metrics.Counts metrics before told →
    (metrics.addAll events).Counts (before ++ executions) (told ++ issues)
  coherent : ∀ result ∈ executions, result.Coherent
  scopes : scopesIn events = executions.length

namespace Records

variable {events more : List Event} {executions others : List ExecutionResult}
  {issues added : List Issue}

/-- Records of stretches of events are put together. -/
theorem append (first : Records events executions issues) (second : Records more others added) :
    Records (events ++ more) (executions ++ others) (issues ++ added) where
  counts := by
    intro metrics before told counts
    rw [Metrics.addAll_append, ← List.append_assoc, ← List.append_assoc]
    exact second.counts (first.counts counts)
  coherent := List.forall_mem_append.mpr ⟨first.coherent, second.coherent⟩
  scopes := by rw [scopesIn_append, first.scopes, second.scopes, List.length_append]

/-- The order of the issues is not recorded. -/
theorem perm (records : Records events executions issues) (same : issues.Perm added) :
    Records events executions added where
  counts := by
    intro metrics before told counts
    obtain ⟨statuses, total, durations, firings, conflicts, counted⟩ := records.counts counts
    refine ⟨statuses, total, durations, firings, conflicts, fun kind severity => ?_⟩
    rw [counted, List.countP_append, List.countP_append, same.countP_eq]
  coherent := records.coherent
  scopes := records.scopes

/-- Lines of a log record nothing. -/
theorem logs (only : ∀ event ∈ events, ∃ entry, event = .log entry) : Records events [] [] := by
  induction events with
  | nil =>
      refine ⟨fun counts => ?_, nofun, rfl⟩
      rwa [List.append_nil, List.append_nil]
  | cons event rest ih =>
      obtain ⟨⟨entry, rfl⟩, later⟩ := List.forall_mem_cons.mp only
      have rest := ih later
      exact ⟨rest.counts, nofun, (Nat.zero_add _).trans rest.scopes⟩

/-- Measurements open no scope. -/
theorem scopesIn_measurements (result : ExecutionResult) : scopesIn result.measurements = 0 := by
  unfold ExecutionResult.measurements
  split <;> rfl

/-- An execution adds itself to what is recorded in its scope. -/
theorem execution (inside : Records events executions []) {result : ExecutionResult}
    (coherent : result.Coherent) (label : String) :
    Records (.scope label events :: result.measurements) (executions ++ [result]) [] where
  counts := by
    intro metrics before told counts
    rw [← List.append_assoc]
    exact (inside.counts counts).execution result
  coherent := List.forall_mem_append.mpr ⟨inside.coherent, List.forall_mem_singleton.mpr coherent⟩
  scopes := by
    rw [scopesIn, scopesIn_measurements, List.length_append, ← inside.scopes]
    rfl

/-- Each issue records itself. -/
theorem issueEvents (issues : List Issue) : Records (issues.map Issue.event) [] issues where
  counts counts := by
    rw [List.append_nil]
    exact counts.issueEvents issues
  coherent := nofun
  scopes := by
    induction issues with
    | nil => rfl
    | cons issue rest ih => exact (Nat.zero_add _).trans ih

end Records

/-! ### Logs of a run -/

namespace Recorded

variable {ε α β : Type}

/-- The computation leaves nothing but lines of a log. -/
def OnlyLogs (x : Recorded ε α) : Prop := ∀ event ∈ x.events, ∃ entry, event = .log entry

theorem onlyLogs_pure (a : α) : (pure a : Recorded ε α).OnlyLogs := nofun

theorem onlyLogs_lift (x : Except ε α) : (lift x).OnlyLogs := nofun

theorem onlyLogs_log (entry : LogRecord) : (emit (.log entry) : Recorded ε Unit).OnlyLogs :=
  List.forall_mem_singleton.mpr ⟨entry, rfl⟩

/-- A chain of computations that only log only logs. -/
theorem OnlyLogs.bind {x : Recorded ε α} {f : α → Recorded ε β} (first : x.OnlyLogs)
    (second : ∀ a, (f a).OnlyLogs) : (x >>= f).OnlyLogs := by
  show (andThen x f).OnlyLogs
  unfold andThen
  split
  · exact List.forall_mem_append.mpr ⟨first, second _⟩
  · exact first

section Bind

variable {x : Recorded ε α} {f : α → Recorded ε β} {a : α}
  {executions others : List ExecutionResult} {issues added : List Issue}

theorem records_bind (returned : x.result = .ok a) (first : Records x.events executions issues)
    (second : Records (f a).events others added) :
    Records (x >>= f).events (executions ++ others) (issues ++ added) := by
  rw [events_bind returned]
  exact first.append second

/-- Going on with nothing but lines of a log records no more. -/
theorem records_bind_logs (returned : x.result = .ok a)
    (first : Records x.events executions issues) (second : (f a).OnlyLogs) :
    Records (x >>= f).events executions issues := by
  have records := records_bind returned first (.logs second)
  rwa [List.append_nil, List.append_nil] at records

end Bind

end Recorded

section Logs

open Recorded

variable (context : RunContext)

/-- Actions only log, and so do rules, passes and executions: the metrics are fed around them. -/
theorem onlyLogs_applyActions (ruleId : String) (actions : List Action) (progress : Progress) :
    (applyActions context ruleId actions progress).OnlyLogs := by
  induction actions generalizing progress with
  | nil => exact onlyLogs_pure _
  | cons action rest ih =>
      refine (onlyLogs_lift _).bind fun made => ?_
      dsimp only
      split
      · exact (onlyLogs_log _).bind fun _ => (ih _).bind fun _ => onlyLogs_pure _
      · exact (ih _).bind fun _ => onlyLogs_pure _

theorem onlyLogs_runRule (number : Nat) (rule : Rule) (progress : Progress) :
    (runRule context number rule progress).OnlyLogs :=
  (onlyLogs_lift _).bind fun _ =>
    (onlyLogs_applyActions context _ _ _).bind fun _ => onlyLogs_pure _

theorem onlyLogs_skipRules (number : Nat) (store : Store) (rules : List Rule) :
    (skipRules number store rules).OnlyLogs := by
  induction rules with
  | nil => exact onlyLogs_pure _
  | cons rule rest ih => exact (onlyLogs_lift _).bind fun _ => ih.bind fun _ => onlyLogs_pure _

theorem onlyLogs_runRules (number : Nat) (rules : List Rule) (progress : Progress) :
    (runRules context number rules progress).OnlyLogs := by
  induction rules generalizing progress with
  | nil => exact onlyLogs_pure _
  | cons rule rest ih =>
      refine (onlyLogs_runRule context number rule progress).bind fun ⟨step, onward, after⟩ => ?_
      cases onward with
      | next => exact (ih after).bind fun _ => onlyLogs_pure _
      | capped => exact (onlyLogs_log _).bind fun _ => onlyLogs_pure _
      | stopped => exact (onlyLogs_skipRules _ _ _).bind fun _ => onlyLogs_pure _

theorem onlyLogs_runPasses (limit number : Nat) (progress : Progress) :
    (runPasses context limit number progress).OnlyLogs := by
  induction limit generalizing number progress with
  | zero => exact onlyLogs_lift _
  | succ limit ih =>
      refine (onlyLogs_runRules context _ _ _).bind fun ⟨pass, after⟩ => ?_
      dsimp only
      split
      · exact (ih _ _).bind fun _ => onlyLogs_pure _
      · exact onlyLogs_pure _

end Logs

namespace Engine

variable {engine : Engine} {program : Program} {payload : Value} {options : ExecutionOptions}

theorem onlyLogs_execute (store : Store) :
    (engine.execute program store options).OnlyLogs := onlyLogs_runPasses _ _ _ _

/-! ### Executions -/

theorem coherent_resultOf (execution : Execution) (report : ConstraintReport)
    (tests : Option (List ExampleResult)) : (resultOf execution report tests).Coherent := rfl

variable {tests : Recorded Interruption (Option (List ExampleResult))} {result : ExecutionResult}

/-- An execution that returns leaves a scope with lines of a log and what its examples leave, and
after the scope it is measured. -/
theorem events_runWith (enabled : engine.settings.metricsEnabled = true)
    (returned : (engine.runWith program payload options tests).result = .ok result) :
    ∃ before last, (∀ event ∈ before, ∃ entry, event = .log entry) ∧
      (engine.runWith program payload options tests).events =
        .scope (label program) (before ++ (tests.events ++ [.log last])) ::
          result.measurements := by
  obtain ⟨start, execution, report, testReport, taken, executed, checked, tested, rfl⟩ :=
    runWith_eq_ok_iff.mp returned
  refine ⟨(engine.execute program start options).events,
    executedRecord program options execution (resultOf execution report testReport),
    onlyLogs_execute start, ?_⟩
  have measured : (engine.measure (resultOf execution report testReport)).events =
      (resultOf execution report testReport).measurements := by
    rw [measure, if_pos enabled, ExecutionResult.measurements]
    cases (resultOf execution report testReport).conflictWarnings <;> rfl
  have measure_ok := measure_result engine (resultOf execution report testReport)
  simp only [runWith, bind, Recorded.andThen, Recorded.inScope, Recorded.lift, taken,
    Except.mapError, executed, checked, tested, Recorded.emit, pure, measured, measure_ok,
    List.nil_append, List.append_nil, List.singleton_append]

/-- An execution records itself after its examples. -/
theorem records_runWith (enabled : engine.settings.metricsEnabled = true)
    (returned : (engine.runWith program payload options tests).result = .ok result)
    {examples : List ExecutionResult} (tested : Records tests.events examples []) :
    Records (engine.runWith program payload options tests).events (examples ++ [result]) [] := by
  obtain ⟨before, last, logs, events⟩ := events_runWith enabled returned
  have coherent : result.Coherent := by
    obtain ⟨start, execution, report, testReport, _, _, _, _, rfl⟩ := runWith_eq_ok_iff.mp returned
    exact coherent_resultOf execution report testReport
  have ended : Records [.log last] [] [] :=
    .logs (List.forall_mem_singleton.mpr ⟨last, rfl⟩)
  have inside := (Records.logs logs).append (tested.append ended)
  rw [List.nil_append, List.append_nil] at inside
  rw [events]
  exact inside.execution coherent (label program)

end Engine

end Rulebook
