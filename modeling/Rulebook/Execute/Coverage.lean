import Rulebook.Execute.Run

/-!
Coverage: in how many examples of a program each of its rules fires.
-/

namespace Rulebook

structure RuleCoverage where
  ruleId : String
  matchedInExamples : Nat
  totalExamples : Nat
deriving DecidableEq

/-- The share in percent, a half rounded up. -/
def RuleCoverage.percent (entry : RuleCoverage) : Nat :=
  (200 * entry.matchedInExamples + entry.totalExamples) / (2 * entry.totalExamples)

def RuleCoverage.toValue (entry : RuleCoverage) : Value :=
  .record
    [("ruleId", .text entry.ruleId), ("matchedInExamples", .ofNat entry.matchedInExamples),
     ("totalExamples", .ofNat entry.totalExamples),
     ("coveragePercent", .ofNat entry.percent)]

namespace Engine

def firedIn (ruleId : String) (result : ExampleResult) : Bool :=
  result.trace.any fun entry => entry.fired && entry.ruleId == ruleId

/-- For each rule, the examples in which it fired; nothing without examples. -/
def assessCoverage (engine : Engine) (program : Program) (options : ExecutionOptions) :
    Recorded Interruption (List RuleCoverage) := do
  if program.examples.isEmpty then return []
  let results ← engine.runExamples program options
  return program.rules.map fun rule =>
    ⟨rule.id, results.countP (firedIn rule.id), program.examples.length⟩

end Engine

end Rulebook
