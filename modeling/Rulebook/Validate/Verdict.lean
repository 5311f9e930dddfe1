import Rulebook.Validate.Action
import Rulebook.Validate.Duplicate
import Rulebook.Validate.Wording
import Rulebook.Execute.Coverage

/-!
Validation: every check of a program, and the verdict.

A program is valid when no issue is hard. Its examples are run, to see which rules they
reach, only when it is. There is no verdict where an issue cannot be put into words.
-/

namespace Rulebook

structure Validation where
  errors : List Issue
  warnings : List Issue
  coverage : List RuleCoverage

def Validation.valid (validation : Validation) : Bool := validation.errors.isEmpty

/-- What is reported of a program that is not valid. -/
def Validation.fault (validation : Validation) : Fault :=
  ⟨.compilation, "Program has " ++ toString validation.errors.length ++ " validation error(s)",
    [("errors", .list (validation.errors.map Issue.toValue))]⟩

def Validation.toValue (validation : Validation) : Value :=
  .record
    [("valid", .bool validation.valid),
     ("errors", .list (validation.errors.map Issue.toValue)),
     ("warnings", .list (validation.warnings.map Issue.toValue)),
     ("coverage", .list (validation.coverage.map RuleCoverage.toValue))]

/-! ### Checks -/

/-- The issues of what a program declares, clashes and wording apart. -/
def declarationIssues (program : Program) : Except Interruption (List Issue) :=
  let catalog := Catalog.ofProgram program
  gather
    (.ok (duplicateIssues program)
      :: (program.rules.map fun rule => rule.issues catalog)
      ++ program.constraints.map fun constraint => constraint.assertion.issues catalog [])

def noExamplesIssue : Issue :=
  { kind := .noExamples
    severity := .soft
    message := "No examples provided; cannot assess rule coverage."
    path := none
    ruleIds := []
    details := [] }

def uncoveredIssue (entry : RuleCoverage) : Issue :=
  { kind := .uncoveredRule
    severity := .soft
    message := "Rule " ++ entry.ruleId ++ " is never exercised by examples ("
      ++ toString entry.matchedInExamples ++ "/" ++ toString entry.totalExamples ++ ")."
    path := none
    ruleIds := [entry.ruleId]
    details := [] }

def coverageIssues (program : Program) (coverage : List RuleCoverage) : List Issue :=
  if program.examples.isEmpty then [noExamplesIssue]
  else (coverage.filter (·.matchedInExamples == 0)).map uncoveredIssue

/-! ### The verdict -/

def validationRecord (validation : Validation) : LogRecord :=
  let warnings := toString validation.warnings.length ++ " warning(s)"
  let logger := "rulelang.compiler.validator"
  if validation.valid then
    ⟨.debug, logger, "Program validation passed with " ++ warnings, []⟩
  else
    ⟨.info, logger, "Program validation failed: " ++ toString validation.errors.length
      ++ " error(s), " ++ warnings, []⟩

def Validation.ofIssues (issues : List Issue) (coverage : List RuleCoverage) : Validation :=
  ⟨issues.filter (·.isHard), issues.filter (!·.isHard), coverage⟩

def reportedEvents (settings : Settings) (issues : List Issue) : List Event :=
  if settings.metricsEnabled then issues.map fun issue => .reported issue.kind issue.severity
  else []

namespace Engine

/-- Runs every check of a program. -/
def validate (engine : Engine) (program : Program) : Recorded Interruption Validation := do
  let declared ← Recorded.lift (declarationIssues program)
  let clashes ← findClashes program
  let issues := declared ++ clashes ++ wordingIssues program
  let coverage ←
    if issues.any (·.isHard) then pure []
    else engine.assessCoverage program (.default engine.settings)
  let all :=
    if issues.any (·.isHard) then issues else issues ++ coverageIssues program coverage
  let validation := Validation.ofIssues all coverage
  ⟨.ok (), .log (validationRecord validation) :: reportedEvents engine.settings all⟩
  return validation

end Engine

end Rulebook
