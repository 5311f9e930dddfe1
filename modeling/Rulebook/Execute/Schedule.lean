import Rulebook.Execute.Action
import Rulebook.Execute.Options
import Rulebook.Execute.Result
import Rulebook.Telemetry.Event

/-!
Running rules in passes.

A pass goes through the rules once, by falling priority and then by rising id. It ends
after the last rule, early where a rule stops it, or where the number of firings reaches
its cap. A run that loops makes another pass as long as the last one was complete and
changed the facts.

How many passes a run makes is not bounded by the program: the actions of rules that do
not match can change the facts for ever. The number of passes is therefore limited from
outside, and a run that would need more is `unsettled`.
-/

namespace Rulebook

/-! ### Order -/

/-- Higher priorities come first, and among equal ones smaller ids. -/
def Rule.before (a b : Rule) : Bool :=
  decide (b.priority < a.priority) ||
    (a.priority == b.priority && decide (¬ b.id < a.id))

/-- Rules in the order in which a pass goes through them. -/
def sortRules (rules : List Rule) : List Rule := rules.mergeSort Rule.before

/-! ### State -/

structure RunContext where
  catalog : Catalog
  rules : List Rule
  defaultMode : EvaluationMode
  options : ExecutionOptions

/-- The state of a run: the facts with their writers, and how much was done so far. -/
structure Progress where
  workspace : Workspace
  actionCount : Nat
  firings : Nat

def Progress.start (store : Store) : Progress := ⟨⟨store, .empty⟩, 0, 0⟩

/-- A rule in a pass, with all that its actions gave. -/
structure RuleStep where
  trace : RuleTrace
  outcomes : List ActionOutcome

def RuleStep.mutated (step : RuleStep) : Bool := step.outcomes.any (·.mutated)

/-- How a pass goes on after a rule. -/
inductive Continuation where
  | next | stopped | capped
deriving DecidableEq

/-! ### Actions of a rule -/

def actionLogger : String := "rulelang.engine.actions"

def scheduleLogger : String := "rulelang.engine.scheduler"

def refusalRecord (outcome : ActionOutcome) : LogRecord :=
  { level := .warning
    logger := actionLogger
    message := "Skipped " ++ outcome.trace.action.kind ++ " on "
      ++ outcome.trace.path.getD "" ++ " in rule " ++ outcome.trace.ruleId ++ ": "
      ++ "".intercalate outcome.warnings
    extra := [] }

/-- Actions are numbered throughout a run. -/
def actionId (n : Nat) : String := "act-" ++ toString n

def applyActions (context : RunContext) (ruleId : String) :
    List Action → Progress → Recorded Interruption (List ActionOutcome × Progress)
  | [], progress => return ([], progress)
  | action :: rest, progress => do
      let number := progress.actionCount + 1
      let (outcome, workspace) ← Recorded.lift
        (action.apply context.catalog context.options.enableActions progress.workspace
          ⟨ruleId, actionId number⟩)
      if outcome.refused then Recorded.emit (.log (refusalRecord outcome))
      let (outcomes, progress) ← applyActions context ruleId rest
        { progress with workspace := workspace, actionCount := number }
      return (outcome :: outcomes, progress)

/-! ### Rules -/

def evaluateRule (rule : Rule) (store : Store) : Recorded Interruption ConditionTrace :=
  Recorded.lift (rule.condition.evaluate store)

def Rule.stops (rule : Rule) (defaultMode : EvaluationMode) : Bool :=
  rule.mode.getD defaultMode == .firstMatch || rule.stopProcessing

def ranTrace (pass : Nat) (rule : Rule) (why : ConditionTrace) (stops : Bool)
    (outcomes : List ActionOutcome) : RuleTrace :=
  { ruleId := rule.id, ruleName := rule.name, priority := rule.priority, passNumber := pass,
    matched := why.result, skipped := false, why := why,
    actionsApplied := outcomes.map (·.trace), stateDiff := outcomes.flatMap (·.diffs),
    stopProcessing := stops, warnings := outcomes.flatMap (·.warnings) }

def skippedTrace (pass : Nat) (rule : Rule) (why : ConditionTrace) : RuleTrace :=
  { ruleId := rule.id, ruleName := rule.name, priority := rule.priority, passNumber := pass,
    matched := why.result, skipped := true, why := why, actionsApplied := [], stateDiff := [],
    stopProcessing := false, warnings := [] }

/-- The number of firings up to and with a rule. -/
def Progress.count (progress : Progress) (matched : Bool) : Progress :=
  if matched then { progress with firings := progress.firings + 1 } else progress

/-- How a pass goes on after a rule; the cap goes before a stop. -/
def continuationAfter (options : ExecutionOptions) (matched stops : Bool) (firings : Nat) :
    Continuation :=
  if matched && decide (options.maxRuleFirings ≤ firings) then .capped
  else if stops then .stopped
  else .next

def runRule (context : RunContext) (pass : Nat) (rule : Rule) (progress : Progress) :
    Recorded Interruption (RuleStep × Continuation × Progress) := do
  let why ← evaluateRule rule progress.workspace.store
  let matched := why.result
  let stops := matched && rule.stops context.defaultMode
  let actions := if matched then rule.thenActions else rule.elseActions
  let (outcomes, progress) ← applyActions context rule.id actions (progress.count matched)
  let continuation := continuationAfter context.options matched stops progress.firings
  return (⟨ranTrace pass rule why stops outcomes, outcomes⟩, continuation, progress)

/-- Rules that a stop has cut off: their conditions are shown and no actions are run. -/
def skipRules (pass : Nat) (store : Store) :
    List Rule → Recorded Interruption (List RuleStep)
  | [] => return []
  | rule :: rest => do
      let why ← evaluateRule rule store
      let steps ← skipRules pass store rest
      return ⟨skippedTrace pass rule why, []⟩ :: steps

/-! ### Passes -/

/-- A pass, and with which continuation it has ended. -/
structure Pass where
  steps : List RuleStep
  continuation : Continuation

def Pass.mutated (pass : Pass) : Bool := pass.steps.any (·.mutated)

def capRecord (cap : Int) (pass : Nat) (ruleId : String) : LogRecord :=
  { level := .warning
    logger := scheduleLogger
    message := "Rule firing cap reached (" ++ toString cap ++ ") in pass " ++ toString pass
      ++ " at rule " ++ ruleId ++ "; result is incomplete"
    extra := [] }

/-- The rest of pass `number`, from a rule on. -/
def runRules (context : RunContext) (number : Nat) :
    List Rule → Progress → Recorded Interruption (Pass × Progress)
  | [], progress => return (⟨[], .next⟩, progress)
  | rule :: rest, progress => do
      let (step, continuation, progress) ← runRule context number rule progress
      match continuation with
      | .next =>
          let (pass, progress) ← runRules context number rest progress
          return ({ pass with steps := step :: pass.steps }, progress)
      | .capped =>
          Recorded.emit (.log (capRecord context.options.maxRuleFirings number rule.id))
          return (⟨[step], .capped⟩, progress)
      | .stopped =>
          let skipped ← skipRules number progress.workspace.store rest
          return (⟨step :: skipped, .stopped⟩, progress)

/-- A finished run: every rule in every pass, and the state at the end. -/
structure Execution where
  steps : List RuleStep
  progress : Progress
  passes : Nat
  hitRuleLimit : Bool

def Execution.outcomes (execution : Execution) : List ActionOutcome :=
  execution.steps.flatMap (·.outcomes)

/-- A complete pass that changed the facts is followed by another one in a run that
loops. -/
def Pass.continues (pass : Pass) (options : ExecutionOptions) : Bool :=
  options.loopUntilSettled && pass.mutated && pass.continuation == .next

/-- Passes from one on, at most `limit` of them. -/
def runPasses (context : RunContext) :
    (limit number : Nat) → Progress → Recorded Interruption Execution
  | 0, _, _ => Recorded.lift (.error .unsettled)
  | limit + 1, number, progress => do
      let (pass, progress) ← runRules context number context.rules progress
      if pass.continues context.options then
        let execution ← runPasses context limit (number + 1) progress
        return { execution with steps := pass.steps ++ execution.steps }
      else return ⟨pass.steps, progress, number, pass.continuation == .capped⟩

end Rulebook
