import Rulebook.Evaluate.Condition

/-!
Checking constraints on a state.

Every constraint is evaluated; the report splits them by the outcome, in order. A failed
one weighs as its severity says.
-/

namespace Rulebook

structure ConstraintResult where
  constraintId : String
  description : String
  severity : Severity
  passed : Bool
  trace : ConditionTrace

structure ConstraintReport where
  passed : List ConstraintResult
  failed : List ConstraintResult

namespace ConstraintReport

def count (report : ConstraintReport) (severity : Severity) : Nat :=
  report.failed.countP fun entry => entry.severity == severity

def errorCount (report : ConstraintReport) : Nat := report.count .error

def warningCount (report : ConstraintReport) : Nat := report.count .warn

def hasFailures (report : ConstraintReport) : Bool := !report.failed.isEmpty

def hasErrors (report : ConstraintReport) : Bool := 0 < report.errorCount

end ConstraintReport

/-! ### Checking -/

def Constraint.check (store : Store) (constraint : Constraint) :
    Except Interruption ConstraintResult := do
  let trace ← constraint.assertion.evaluate store
  return ⟨constraint.id, constraint.description, constraint.severity, trace.result, trace⟩

def checkConstraints (store : Store) (constraints : List Constraint) :
    Except Interruption ConstraintReport := do
  let results ← constraints.mapM (Constraint.check store)
  return ⟨results.filter (·.passed), results.filter (!·.passed)⟩

/-! ### As documents -/

def ConstraintResult.toValue (entry : ConstraintResult) : Value :=
  .record
    [("constraintId", .text entry.constraintId), ("description", .text entry.description),
     ("severity", .text entry.severity.spelling), ("passed", .bool entry.passed),
     ("trace", entry.trace.toValue)]

def ConstraintReport.toValue (report : ConstraintReport) : Value :=
  .record
    [("passed", .list (report.passed.map ConstraintResult.toValue)),
     ("failed", .list (report.failed.map ConstraintResult.toValue)),
     ("hasFailures", .bool report.hasFailures), ("hasErrors", .bool report.hasErrors),
     ("errorCount", .ofNat report.errorCount), ("warningCount", .ofNat report.warningCount)]

end Rulebook
