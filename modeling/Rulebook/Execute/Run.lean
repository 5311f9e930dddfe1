import Rulebook.Execute.Schedule

/-!
Executing programs, and running their examples.

An execution takes its facts from a payload, runs the rules, and checks the constraints
on the final state. Each execution is a scope of its own in the log. An example is an
execution whose final state has to hold what the example expects.
-/

namespace Rulebook

/-- What executions depend on besides program, payload and options. -/
structure Engine where
  settings : Settings
  passLimit : Nat

namespace Engine

/-! ### Expectations -/

mutual

/-- A partial match: every entry that is expected is there and matches, and other entries
do not count. What is no object has to be equal. -/
def expectationMatches : Value → Value → Bool
  | .object fields, actual =>
      match actual with
      | .object entries => expectationsMatch fields entries
      | _ => false
  | expected, actual => expected.strictEq actual
termination_by structural expected => expected

def expectationsMatch : List (Key × Value) → List (Key × Value) → Bool
  | [], _ => true
  | (k, v) :: rest, entries =>
      (match Fields.find? k entries with
        | some w => expectationMatches v w
        | none => false) && expectationsMatch rest entries
termination_by structural fields => fields

end

/-! ### Executions -/

def context (engine : Engine) (program : Program) (options : ExecutionOptions) :
    RunContext :=
  { catalog := .ofProgram program
    rules := sortRules program.rules
    defaultMode := options.evaluationMode engine.settings program
    options := options }

def label (program : Program) : String :=
  (nonEmpty? program.description).getD program.domain.spelling

def execute (engine : Engine) (program : Program) (store : Store)
    (options : ExecutionOptions) : Recorded Interruption Execution :=
  runPasses (engine.context program options) engine.passLimit 1 (.start store)

def resultOf (execution : Execution) (report : ConstraintReport)
    (tests : Option (List ExampleResult)) : ExecutionResult :=
  let outcomes := execution.outcomes
  { resultState := execution.progress.workspace.store.snapshot
    actions := outcomes.filterMap (·.log)
    trace := execution.steps.map (·.trace)
    constraintReport := report
    testReport := tests
    success := !(report.hasErrors || execution.hitRuleLimit)
    conflictWarnings := outcomes.filterMap (·.conflict)
    issues := outcomes.flatMap (·.issues)
    ruleFirings := execution.progress.firings
    hitRuleLimit := execution.hitRuleLimit }

/-- What stands for the time that a run took, which is no part of its result. -/
def durationMark : String := "<t>"

def executedRecord (program : Program) (options : ExecutionOptions) (execution : Execution)
    (result : ExecutionResult) : LogRecord :=
  { level := .info
    logger := scheduleLogger
    message := "Executed " ++ toString program.rules.length ++ " rules in "
      ++ toString execution.passes ++ " pass(es): firings=" ++ toString result.ruleFirings
      ++ ", success=" ++ displayBool result.success ++ ", duration=" ++ durationMark ++ "s"
    extra :=
      [("rule_firings", .ofNat result.ruleFirings), ("passes", .ofNat execution.passes),
       ("hit_rule_limit", .bool result.hitRuleLimit),
       ("dry_run", .bool (!options.enableActions))] }

def statusOf (result : ExecutionResult) : ExecutionStatus :=
  if result.hitRuleLimit then .ruleLimit
  else if result.success then .success
  else .constraintFailure

/-- The metric events of a finished run. Conflicts are counted only if there are any. -/
def measure (engine : Engine) (result : ExecutionResult) : Recorded Interruption Unit := do
  if engine.settings.metricsEnabled then
    Recorded.emit (.executed (statusOf result))
    Recorded.emit .timed
    Recorded.emit (.fired result.ruleFirings)
    if !result.conflictWarnings.isEmpty then
      Recorded.emit (.conflicted result.conflictWarnings.length)

/-- An execution on a payload. `tests` runs the examples of the program, where the options
ask for it. -/
def runWith (engine : Engine) (program : Program) (payload : Value)
    (options : ExecutionOptions)
    (tests : Recorded Interruption (Option (List ExampleResult))) :
    Recorded Interruption ExecutionResult := do
  let result ← Recorded.inScope (label program) do
    let store ← Recorded.lift ((Store.ofPayload payload).mapError Interruption.store)
    let execution ← engine.execute program store options
    let report ← Recorded.lift
      (checkConstraints execution.progress.workspace.store program.constraints)
    let testReport ← tests
    let result := resultOf execution report testReport
    Recorded.emit (.log (executedRecord program options execution result))
    return result
  engine.measure result
  return result

/-! ### Examples -/

def exampleLogger : String := "rulelang.engine.examples"

def failedRecord (ex : Example) : LogRecord :=
  ⟨.info, exampleLogger, "Example " ++ ex.id ++ " failed", []⟩

/-- Runs an example, always with actions. It passes when the final state holds what is
expected and no constraint that counts as an error has failed. -/
def runExample (engine : Engine) (program : Program) (options : ExecutionOptions)
    (ex : Example) : Recorded Interruption ExampleResult := do
  let live := { options with enableActions := true, evaluateExamples := false }
  let result ← engine.runWith program (.record ex.input) live (pure none)
  let passed :=
    expectationMatches (.record ex.expected) (.record result.resultState)
      && !result.constraintReport.hasErrors
  if !passed then Recorded.emit (.log (failedRecord ex))
  return ⟨ex.id, passed, ex.expected, result.resultState, result.constraintReport,
    result.trace⟩

def runEach (engine : Engine) (program : Program) (options : ExecutionOptions) :
    List Example → Recorded Interruption (List ExampleResult)
  | [] => return []
  | ex :: rest => do
      let result ← engine.runExample program options ex
      let results ← engine.runEach program options rest
      return result :: results

def examplesRecord (results : List ExampleResult) : LogRecord :=
  ⟨.debug, exampleLogger,
    "Ran " ++ toString results.length ++ " examples: "
      ++ toString (results.countP (·.passed)) ++ " passed", []⟩

def runExamples (engine : Engine) (program : Program) (options : ExecutionOptions) :
    Recorded Interruption (List ExampleResult) := do
  let results ← engine.runEach program options program.examples
  Recorded.emit (.log (examplesRecord results))
  return results

/-! ### The entry point -/

/-- Executes a program on a payload. Its examples run with the options of a caller who
gives none. -/
def run (engine : Engine) (program : Program) (payload : Value)
    (options : ExecutionOptions) : Recorded Interruption ExecutionResult :=
  engine.runWith program payload options
    (if options.evaluateExamples then
      some <$> engine.runExamples program (.default engine.settings)
    else pure none)

end Engine

end Rulebook
