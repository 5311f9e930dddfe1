import Rulebook.Proofs.Run.Measured
import Rulebook.Proofs.Validate.Coverage

/-!
The balance of the metrics.

A caller runs a program, runs its examples, assesses their coverage or validates the program, one
operation after another. All of them execute programs, some of them many times: a run may have the
examples run besides, and a validation runs them where nothing hard was found (`Operation.runs`).
Each operation records its executions and the issues that it reports, and nothing else
(`Operation.records`), so the metrics of all operations together balance (`metrics_balance`).
-/

namespace Rulebook

namespace Engine

variable {engine : Engine} {program : Program} {options : ExecutionOptions}

/-! ### Examples -/

def exampleRuns (engine : Engine) (program : Program) (options : ExecutionOptions) :
    List (Except Interruption ExecutionResult) :=
  program.examples.map (engine.exampleRun program options)

section Examples

variable (enabled : engine.settings.metricsEnabled = true)

include enabled

/-- An example that returns records its own run. -/
theorem records_runExample {ex : Example} {verdict : ExampleResult}
    (returned : (engine.runExample program options ex).result = .ok verdict) :
    ∃ result, engine.exampleRun program options ex = .ok result ∧
      Records (engine.runExample program options ex).events [result] [] := by
  obtain ⟨result, ran, _⟩ := runExample_eq_ok_iff.mp returned
  refine ⟨result, ran, ?_⟩
  have execution := records_runWith enabled ran (.logs nofun)
  refine Recorded.records_bind_logs ran execution ?_
  -- a failed example leaves a line in the log
  dsimp only
  split
  · exact (Recorded.onlyLogs_log _).bind fun _ => Recorded.onlyLogs_pure _
  · exact Recorded.onlyLogs_pure _

theorem records_runEach {examples : List Example} {verdicts : List ExampleResult}
    (returned : (engine.runEach program options examples).result = .ok verdicts) :
    ∃ results, examples.map (engine.exampleRun program options) = results.map .ok ∧
      Records (engine.runEach program options examples).events results [] := by
  induction examples generalizing verdicts with
  | nil => exact ⟨[], rfl, .logs nofun⟩
  | cons ex rest ih =>
      obtain ⟨verdict, first, others⟩ := Recorded.result_bind_eq_ok_iff.mp returned
      obtain ⟨later, second, _⟩ := Recorded.result_bind_eq_ok_iff.mp others
      obtain ⟨result, ran, one⟩ := records_runExample enabled first
      obtain ⟨results, runs, many⟩ := ih second
      refine ⟨result :: results, by rw [List.map_cons, ran, runs, List.map_cons], ?_⟩
      exact Recorded.records_bind first one
        (Recorded.records_bind_logs second many (Recorded.onlyLogs_pure _))

theorem records_runExamples {verdicts : List ExampleResult}
    (returned : (engine.runExamples program options).result = .ok verdicts) :
    ∃ results, engine.exampleRuns program options = results.map .ok ∧
      Records (engine.runExamples program options).events results [] := by
  obtain ⟨verdicts', ran, _⟩ := Recorded.result_bind_eq_ok_iff.mp returned
  obtain ⟨results, runs, records⟩ := records_runEach enabled ran
  refine ⟨results, runs, Recorded.records_bind_logs ran records ?_⟩
  exact (Recorded.onlyLogs_log _).bind fun _ => Recorded.onlyLogs_pure _

end Examples

/-! ### Operations on a program -/

/-- The runs that a run makes: those of the examples where it is to evaluate them, and itself. -/
def allRuns (engine : Engine) (program : Program) (payload : Value) (options : ExecutionOptions) :
    List (Except Interruption ExecutionResult) :=
  (if options.evaluateExamples then
    engine.exampleRuns program (.default engine.settings) else [])
    ++ [(engine.run program payload options).result]

/-- The runs that a validation makes: those of the examples, unless something hard was found. -/
def validationRuns (engine : Engine) (program : Program) :
    List (Except Interruption ExecutionResult) :=
  match foundIssues program with
  | .ok issues =>
      if issues.any (·.isHard) then [] else engine.exampleRuns program (.default engine.settings)
  | .error _ => []

section Operations

variable (enabled : engine.settings.metricsEnabled = true)

include enabled

/-- A run records itself and then the examples it is asked to check. -/
theorem records_run {payload : Value} {result : ExecutionResult}
    (returned : (engine.run program payload options).result = .ok result) :
    ∃ results, engine.allRuns program payload options = results.map .ok ∧
      Records (engine.run program payload options).events results [] := by
  rw [allRuns, returned]
  unfold run at returned ⊢
  by_cases evaluates : options.evaluateExamples = true
  · simp only [if_pos evaluates] at returned ⊢
    obtain ⟨_, _, _, _, _, _, _, tested, _⟩ := runWith_eq_ok_iff.mp returned
    obtain ⟨verdicts, ran, _⟩ := Recorded.result_bind_eq_ok_iff.mp tested
    obtain ⟨results, runs, records⟩ := records_runExamples enabled ran
    refine ⟨results ++ [result], by rw [runs, List.map_append]; rfl, ?_⟩
    exact records_runWith enabled returned
      (Recorded.records_bind_logs ran records (Recorded.onlyLogs_pure _))
  · simp only [if_neg evaluates] at returned ⊢
    exact ⟨[result], rfl, records_runWith enabled returned (.logs nofun)⟩

/-- The coverage records every example's run. -/
theorem records_assessCoverage {coverage : List RuleCoverage}
    (returned : (engine.assessCoverage program options).result = .ok coverage) :
    ∃ results, engine.exampleRuns program options = results.map .ok ∧
      Records (engine.assessCoverage program options).events results [] := by
  unfold assessCoverage at returned ⊢
  split at returned
  · rename_i untested
    rw [if_pos untested]
    refine ⟨[], ?_, .logs (Recorded.onlyLogs_pure _)⟩
    rw [exampleRuns, List.isEmpty_iff.mp untested]
    rfl
  · rename_i tested
    rw [if_neg tested]
    obtain ⟨verdicts, ran, _⟩ := Recorded.result_bind_eq_ok_iff.mp returned
    obtain ⟨results, runs, records⟩ := records_runExamples enabled ran
    exact ⟨results, runs, Recorded.records_bind_logs ran records (Recorded.onlyLogs_pure _)⟩

omit enabled in
/-- The search for clashes records nothing the metrics count. -/
theorem records_findClashes :
    Records (findClashes program : Recorded Interruption _).events [] [] := by
  refine .logs ?_
  unfold findClashes
  split
  · intro event member
    obtain ⟨entry, _, rfl⟩ := List.mem_map.mp member
    exact ⟨entry, rfl⟩
  · exact Recorded.onlyLogs_lift _

/-- What is reported of a validation are its issues. -/
theorem records_report (issues : List Issue) (coverage : List RuleCoverage) :
    Records (engine.report issues coverage).events [] issues := by
  have events : reportedEvents engine.settings issues = issues.map Issue.event := if_pos enabled
  rw [report, events]
  exact (Records.logs (List.forall_mem_singleton.mpr ⟨_, rfl⟩)).append (.issueEvents issues)

/-- The examples are run where nothing hard was found, and then all issues are reported. -/
theorem records_conclude {issues : List Issue} {validation : Validation}
    (returned : (engine.conclude program issues).result = .ok validation) :
    ∃ results, (if issues.any (·.isHard) then [] else
        engine.exampleRuns program (.default engine.settings)) = results.map .ok ∧
      Records (engine.conclude program issues).events results
        (validation.errors ++ validation.warnings) := by
  unfold conclude at returned ⊢
  split at returned
  · -- With a hard issue no example is run.
    rename_i hard
    cases returned
    rw [if_pos hard, if_pos hard]
    exact ⟨[], rfl, (records_report enabled issues []).perm (List.filter_append_perm ..).symm⟩
  · rename_i soft
    obtain ⟨coverage, assessed, reported⟩ := Recorded.result_bind_eq_ok_iff.mp returned
    cases reported
    obtain ⟨results, runs, records⟩ := records_assessCoverage enabled assessed
    rw [if_neg soft, if_neg soft]
    refine ⟨results, runs, ?_⟩
    have whole := Recorded.records_bind
      (f := fun coverage => engine.report (issues ++ coverageIssues program coverage) coverage)
      assessed records (records_report enabled _ coverage)
    rw [List.append_nil, List.nil_append] at whole
    exact whole.perm (List.filter_append_perm ..).symm

/-- A validation records the runs of the examples that it makes, and its issues. -/
theorem records_validate {validation : Validation}
    (returned : (engine.validate program).result = .ok validation) :
    ∃ results, engine.validationRuns program = results.map .ok ∧
      Records (engine.validate program).events results
        (validation.errors ++ validation.warnings) := by
  rw [validate_eq] at returned ⊢
  obtain ⟨declared, made, rest⟩ := Recorded.result_bind_eq_ok_iff.mp returned
  obtain ⟨clashes, searched, concluded⟩ := Recorded.result_bind_eq_ok_iff.mp rest
  have found : foundIssues program = .ok (declared ++ clashes ++ wordingIssues program) := by
    rw [Recorded.result_lift] at made
    simp [foundIssues, made, searched, bind, Except.bind, pure, Except.pure]
  obtain ⟨results, runs, records⟩ := records_conclude enabled concluded
  rw [validationRuns, found]
  refine ⟨results, runs, ?_⟩
  -- what comes before leaves nothing but log lines
  exact Recorded.records_bind made (.logs (Recorded.onlyLogs_lift _))
    (Recorded.records_bind searched records_findClashes records)

end Operations

end Engine

/-! ### Sessions -/

inductive Operation where
  | run (program : Program) (payload : Value) (options : ExecutionOptions)
  | runExamples (program : Program) (options : ExecutionOptions)
  | assessCoverage (program : Program) (options : ExecutionOptions)
  | validate (program : Program)

namespace Operation

def Returns (engine : Engine) : Operation → Prop
  | run program payload options =>
      ∃ result, (engine.run program payload options).result = .ok result
  | runExamples program options =>
      ∃ verdicts, (engine.runExamples program options).result = .ok verdicts
  | assessCoverage program options =>
      ∃ coverage, (engine.assessCoverage program options).result = .ok coverage
  | validate program => ∃ validation, (engine.validate program).result = .ok validation

def events (engine : Engine) : Operation → List Event
  | run program payload options => (engine.run program payload options).events
  | runExamples program options => (engine.runExamples program options).events
  | assessCoverage program options => (engine.assessCoverage program options).events
  | validate program => (engine.validate program).events

/-- The runs that the operation makes, each with what it gives. -/
def runs (engine : Engine) : Operation → List (Except Interruption ExecutionResult)
  | run program payload options => engine.allRuns program payload options
  | runExamples program options | assessCoverage program options =>
      engine.exampleRuns program options
  | validate program => engine.validationRuns program

def issues (engine : Engine) : Operation → List Issue
  | validate program =>
      match (engine.validate program).result with
      | .ok validation => validation.errors ++ validation.warnings
      | .error _ => []
  | run .. | runExamples .. | assessCoverage .. => []

/-- An operation records its runs and its issues. -/
theorem records {engine : Engine} {operation : Operation}
    (enabled : engine.settings.metricsEnabled = true) (returns : operation.Returns engine) :
    ∃ results, operation.runs engine = results.map .ok ∧
      Records (operation.events engine) results (operation.issues engine) := by
  cases operation with
  | run program payload options =>
      obtain ⟨result, returned⟩ := returns
      exact Engine.records_run enabled returned
  | runExamples program options =>
      obtain ⟨verdicts, returned⟩ := returns
      exact Engine.records_runExamples enabled returned
  | assessCoverage program options =>
      obtain ⟨coverage, returned⟩ := returns
      exact Engine.records_assessCoverage enabled returned
  | validate program =>
      obtain ⟨validation, returned⟩ := returns
      simp only [issues, returned]
      exact Engine.records_validate enabled returned

end Operation

/-- Operations one after another, each with the engine that it is asked of. -/
abbrev Session := List (Engine × Operation)

namespace Session

/-- Metrics are kept, and each operation returns. -/
def Measured (session : Session) : Prop :=
  ∀ call ∈ session, call.1.settings.metricsEnabled = true ∧ call.2.Returns call.1

def events (session : Session) : List Event := session.flatMap fun call => call.2.events call.1

def runs (session : Session) : List (Except Interruption ExecutionResult) :=
  session.flatMap fun call => call.2.runs call.1

def issues (session : Session) : List Issue := session.flatMap fun call => call.2.issues call.1

/-- A session records what it did, step after step. -/
theorem Measured.records {session : Session} (measured : session.Measured) :
    ∃ results, session.runs = results.map .ok ∧ Records session.events results session.issues := by
  induction session with
  | nil => exact ⟨[], rfl, .logs nofun⟩
  | cons call rest ih =>
      obtain ⟨⟨enabled, returns⟩, later⟩ := List.forall_mem_cons.mp measured
      obtain ⟨first, runs, one⟩ := Operation.records enabled returns
      obtain ⟨others, more, many⟩ := ih later
      refine ⟨first ++ others, ?_, one.append many⟩
      rw [List.map_append, ← runs, ← more]
      rfl

end Session

/-- After whatever operations, all of which return with metrics kept, the metrics balance over the
runs that they have made, in whose number there is a scope for each, and over the issues of their
validations. -/
theorem metrics_balance (session : Session) (measured : session.Measured) :
    ∃ executions : List ExecutionResult, session.runs = executions.map .ok ∧
      scopesIn session.events = executions.length ∧
      (Metrics.empty.addAll session.events).Balance executions session.issues := by
  obtain ⟨executions, runs, records⟩ := measured.records
  refine ⟨executions, runs, records.scopes, ?_⟩
  exact (records.counts Metrics.counts_empty).balance records.coherent

/-- The lamp is run on the bright example, with its examples besides; its coverage is assessed; and
it is validated. -/
def lampSession : Session :=
  [(⟨.default, 4⟩, .run lampProgram (.record brightExample.input)
      { ExecutionOptions.default .default with evaluateExamples := true }),
    (⟨.default, 4⟩, .assessCoverage lampProgram (.looping 100)),
    (⟨.default, 4⟩, .validate lampProgram)]

theorem lamp_validated : ((⟨.default, 4⟩ : Engine).validate lampProgram).result =
    .ok (.ofIssues (coverageIssues lampProgram lampCoverage) lampCoverage) :=
  Engine.validate_of_passed lampProgram_found nofun (lamp_assessed (by simp))

theorem lampSession_measured : lampSession.Measured := by
  have ran : returnsWith (fun _ => true) ((⟨.default, 4⟩ : Engine).run lampProgram
      (.record brightExample.input)
      { ExecutionOptions.default .default with evaluateExamples := true }).result = true := by
    simp only [Engine.run, Engine.runExamples, lampProgram_examples, Engine.runEach,
      Engine.runExample, Engine.runWith, Engine.execute, Engine.context, lampProgram_sorted]
    decide +kernel
  obtain ⟨result, returned, _⟩ := eq_ok_of_returnsWith ran
  have assessed := @lamp_assessed (.looping 100) List.mem_cons_self
  intro call member
  simp only [lampSession, List.mem_cons, List.not_mem_nil, or_false] at member
  rcases member with rfl | rfl | rfl
  · exact ⟨rfl, result, returned⟩
  · exact ⟨rfl, _, assessed⟩
  · exact ⟨rfl, _, lamp_validated⟩

/-- Seven executions: the run and two for its examples, and two each for coverage and validation.
And there is the warning that the rule which puts the lamp out is not covered. -/
theorem lamp_session_balances :
    lampSession.Measured ∧ scopesIn lampSession.events = 7 ∧
    (Metrics.empty.addAll lampSession.events).total "rulelang_executions_total" = 7 ∧
    (Metrics.empty.addAll lampSession.events).value "rulelang_validation_issues_total"
      [("kind", "UNCOVERED_RULE"), ("severity", "soft")] = 1 := by
  obtain ⟨executions, runs, scopes, balance⟩ := metrics_balance lampSession lampSession_measured
  have seven : executions.length = 7 := by
    have counted := congrArg List.length runs
    rw [List.length_map] at counted
    have validation : (⟨.default, 4⟩ : Engine).validationRuns lampProgram =
        (⟨.default, 4⟩ : Engine).exampleRuns lampProgram (.default .default) := by
      rw [Engine.validationRuns, lampProgram_found]
      rfl
    rw [← counted]
    simp [Session.runs, lampSession, Operation.runs, Engine.allRuns, validation,
      Engine.exampleRuns, lampProgram_examples]
  refine ⟨lampSession_measured, scopes.trans seven, balance.total.trans seven, ?_⟩
  have issues : lampSession.issues.Perm (coverageIssues lampProgram lampCoverage) := by
    simp only [Session.issues, lampSession, List.flatMap_cons, List.flatMap_nil,
      Operation.issues, lamp_validated, List.nil_append, List.append_nil]
    exact List.filter_append_perm ..
  refine (balance.issues .uncoveredRule .soft).trans ?_
  rw [issues.countP_eq]
  decide +kernel

end Rulebook
