import Rulebook.Proofs.Check.Agreement
import Rulebook.Proofs.Run.Plain
import Rulebook.Proofs.Run.Visited

/-!
Runs of accepted programs.

The checks before a run and the ones as actions are applied give the same verdicts, so what
validation has let pass is never rejected: all that a run of a valid program reports are
units that are missing, facts without a value, and fields that are written more than once.
-/

namespace Rulebook

/-- The rules that a run goes through are those of the program. -/
theorem Engine.mem_context_rules {engine : Engine} {program : Program} {options : ExecutionOptions}
    {rule : Rule} : rule ∈ (engine.context program options).rules ↔ rule ∈ program.rules :=
  List.mem_mergeSort

/-- An action that passes its check reports nothing hard, live or dry. -/
theorem RunContext.gives_advisory {context : RunContext} {ruleId : String} {action : Action}
    {found : Option Issue} (checked : context.catalog.checkAction action = .ok found) :
    context.Gives (fun outcome => ∀ issue ∈ outcome.issues, issue.Advisory) ruleId action :=
  fun _ _ _ acted => Action.advisory_of_checked checked acted

/-- Applying an action rejects it with a hard issue exactly when the check before a run objects
to it, with an issue of the same kind. So a run of a valid program reports soft issues only. -/
theorem checks_agree :
    (∀ (catalog : Catalog) (live : Bool) (workspace : Workspace) (action : Action) (now : Writer)
      (kind : IssueKind), action.RejectedAs catalog live workspace now kind ↔
        ∃ issues, issuesOf [now.ruleId] (catalog.checkAction action) = .ok issues ∧
          ∃ issue ∈ issues, issue.isHard = true ∧ issue.kind = kind) ∧
    ∀ (checker engine : Engine) (program : Program) (payload : Value) (options : ExecutionOptions)
      (validation : Validation) (result : ExecutionResult),
      (checker.validate program).result = .ok validation → validation.valid = true →
      (engine.run program payload options).result = .ok result →
        ∀ issue ∈ result.issues, issue.Advisory := by
  constructor
  · intro catalog live workspace action now kind
    exact Action.rejectedAs_iff_objected
  · intro checker engine program payload options validation result validated valid returned
    have sound := Engine.passed_of_valid validated valid
    obtain ⟨start, execution, report, tests, _, executed, _, _, rfl⟩ :=
      Engine.runWith_eq_ok_iff.mp returned
    have ran := (Engine.execute_eq_ok_iff.mp executed).1
    -- The check of an action does not ask for the state, so it holds at every step of the run.
    have outcomes : ∀ outcome ∈ execution.outcomes, ∀ issue ∈ outcome.issues, issue.Advisory := by
      refine ran.forall_outcome fun rule member action among => ?_
      obtain ⟨found, checked⟩ :=
        checkAction_of_passed sound (Engine.mem_context_rules.mp member) among
      exact RunContext.gives_advisory checked
    intro issue member
    obtain ⟨outcome, inside, reported⟩ := List.mem_flatMap.mp member
    exact outcomes outcome inside issue reported

/-- A rule that writes a weight without a unit, from a fact that has no value, and once more. -/
def scaleProgram : Program :=
  { Program.plain "scale" []
      [.plain "weigh" 0 (.present ⟨"scale.tare", none⟩)
        []
        [.set "scale.weight" (.literal (.int 1) none),
         .set "scale.weight" (.fact ⟨"scale.tare", some "kg"⟩),
         .increment "scale.weight" (.int 1)]] with
    entities := [⟨"scale", [⟨"weight", .number, some "kg", none⟩, ⟨"tare", .number, none, none⟩],
      none⟩] }

/-- The program is valid, and its run has three issues, all of them advice. -/
theorem scale_reports_softly :
    ∃ validation result, ((⟨.default, 1⟩ : Engine).validate scaleProgram).result = .ok validation ∧
      validation.valid = true ∧
      ((⟨.default, 1⟩ : Engine).run scaleProgram .null .once).result = .ok result ∧
      result.issues.map (·.kind) =
        [IssueKind.unitMissing, .sourceMissing, .dynamicConflict] ∧
      ∀ issue ∈ result.issues, issue.Advisory := by
  have validates : returnsWith (·.valid)
      ((⟨.default, 1⟩ : Engine).validate scaleProgram).result = true := by decide +kernel
  have reports : returnsWith (fun result => result.issues.map (·.kind) ==
        [IssueKind.unitMissing, .sourceMissing, .dynamicConflict])
      ((⟨.default, 1⟩ : Engine).run scaleProgram .null .once).result = true := by decide +kernel
  obtain ⟨validation, validated, valid⟩ := eq_ok_of_returnsWith validates
  obtain ⟨result, returned, kinds⟩ := eq_ok_of_returnsWith reports
  exact ⟨validation, result, validated, valid, returned, eq_of_beq kinds,
    checks_agree.2 _ _ _ _ _ _ _ validated valid returned⟩

end Rulebook
