import Rulebook.Evaluate.Constraint
import Rulebook.Execute.Outcome

/-!
What an execution shows: the trace of its rules, and the result as a whole.
-/

namespace Rulebook

/-- A rule in one pass: why it matched or not, and what its actions did. A skipped rule
was cut off by a rule before it. -/
structure RuleTrace where
  ruleId : String
  ruleName : String
  priority : Int
  passNumber : Nat
  matched : Bool
  skipped : Bool
  why : ConditionTrace
  actionsApplied : List ActionTrace
  stateDiff : List StateDiff
  stopProcessing : Bool
  warnings : List String

def RuleTrace.fired (trace : RuleTrace) : Bool := trace.matched && !trace.skipped

structure ExampleResult where
  exampleId : String
  passed : Bool
  expected : Record
  actualOutput : Record
  constraints : ConstraintReport
  trace : List RuleTrace

structure ExecutionResult where
  resultState : Record
  actions : List ActionLog
  trace : List RuleTrace
  constraintReport : ConstraintReport
  testReport : Option (List ExampleResult)
  success : Bool
  conflictWarnings : List String
  issues : List Issue
  ruleFirings : Nat
  hitRuleLimit : Bool

/-! ### As documents -/

def RuleTrace.toValue (trace : RuleTrace) : Value :=
  .record
    [("ruleId", .text trace.ruleId), ("ruleName", .text trace.ruleName),
     ("priority", .int trace.priority), ("passNumber", .ofNat trace.passNumber),
     ("matched", .bool trace.matched), ("skipped", .bool trace.skipped),
     ("why", trace.why.toValue),
     ("actionsApplied", .list (trace.actionsApplied.map ActionTrace.toValue)),
     ("stateDiff", .list (trace.stateDiff.map StateDiff.toValue)),
     ("stopProcessing", .bool trace.stopProcessing), ("warnings", .texts trace.warnings)]

def ExampleResult.toValue (result : ExampleResult) : Value :=
  .record
    [("exampleId", .text result.exampleId), ("passed", .bool result.passed),
     ("expected", .writtenRecord result.expected),
     ("actualOutput", .writtenRecord result.actualOutput),
     ("constraints", result.constraints.toValue),
     ("trace", .list (result.trace.map RuleTrace.toValue))]

def ExecutionResult.toValue (result : ExecutionResult) : Value :=
  .record
    [("resultState", .writtenRecord result.resultState),
     ("actions", .list (result.actions.map ActionLog.toValue)),
     ("trace", .list (result.trace.map RuleTrace.toValue)),
     ("constraintReport", result.constraintReport.toValue),
     ("testReport",
       (result.testReport.map fun all => .list (all.map ExampleResult.toValue)).getD .null),
     ("success", .bool result.success), ("conflictWarnings", .texts result.conflictWarnings),
     ("issues", .list (result.issues.map Issue.toValue)),
     ("ruleFirings", .ofNat result.ruleFirings), ("hitRuleLimit", .bool result.hitRuleLimit)]

end Rulebook
