import Rulebook.Proofs.Evaluate.Constraint
import Rulebook.Proofs.Run.Keyed
import Rulebook.Proofs.Run.Truncation

/-!
What success means.

The constraints of a program are checked on the state that a run ends in, which is what its
result shows, and the cap is hit exactly where the count of firings has reached it. So success
can be told from the result alone (`run_success_iff`), and the report of the result is that of all
constraints on the state that it shows.
-/

namespace Rulebook

/-- A run that is allowed a firing succeeds exactly if every constraint that counts as an error
holds on the state that its result shows, and it has fired less often than the cap allows. Its
report is exact on that state. -/
theorem run_success_iff (engine : Engine) (program : Program) (payload : Value)
    (options : ExecutionOptions) (result : ExecutionResult) (positive : 0 < options.maxRuleFirings)
    (returned : (engine.run program payload options).result = .ok result) :
    ∃ final, Store.ofPayload (.record result.resultState) = .ok final ∧
      (result.success = true ↔
        (∀ constraint ∈ program.constraints, constraint.severity = .error →
          constraint.holdsOn final = true) ∧ result.ruleFirings < options.maxRuleFirings) ∧
      result.constraintReport.Exact final program.constraints := by
  obtain ⟨start, execution, report, tests, taken, executed, checked, _, rfl⟩ :=
    Engine.runWith_eq_ok_iff.mp returned
  have ran := (Engine.execute_eq_ok_iff.mp executed).1
  have named := ran.named (Store.named_of_ofPayload taken)
  have exact := checkConstraints_exact checked
  refine ⟨execution.progress.workspace.store, named.ofPayload_snapshot, ?_, exact⟩
  have limit : execution.hitRuleLimit = false ↔
      (execution.progress.firings : Int) < options.maxRuleFirings := by
    rcases ran.capped_or_below positive with ⟨hit, reached⟩ | ⟨unlimited, less⟩
    · exact iff_of_false (by simp [hit]) (Int.not_lt.mpr (Int.le_of_eq reached.symm))
    · exact iff_of_true unlimited less
  have succeeds : (Engine.resultOf execution report tests).success = true ↔
      report.hasErrors = false ∧ execution.hitRuleLimit = false := by
    simp [Engine.resultOf]
  rw [succeeds, exact.hasErrors_eq_false_iff, limit]
  rfl

/-- A locker with a rule that counts how often it was opened, and constraints of both
severities, one of which is a warning that fails. -/
def lockerProgram : Program :=
  { Program.plain "locker" [("opened", .number), ("owner", .string)]
      [.plain "open" 0 (.present ⟨"locker.opened", none⟩)
        [.increment "locker.opened" (.int 1)] []] with
    constraints :=
      [⟨"used", "A locker is used.",
          .compare (.fact ⟨"locker.opened", none⟩) .greater (.literal (.int 0) none), .error⟩,
        ⟨"owned", "A locker has an owner.", .present ⟨"locker.owner", none⟩, .warn⟩] }

def lockerPayload : Value := Record.payload "locker" [("opened", .int 0)]

/-- The warning that fails leaves the success, which the rule has brought about. -/
theorem locker_succeeds :
    0 < ExecutionOptions.once.maxRuleFirings ∧
    ∃ result, ((⟨.default, 1⟩ : Engine).run lockerProgram lockerPayload .once).result =
        .ok result ∧
      result.success = true ∧ result.constraintReport.warningCount = 1 ∧
      ∃ final, Store.ofPayload (.record result.resultState) = .ok final ∧
        (∀ constraint ∈ lockerProgram.constraints, constraint.severity = .error →
          constraint.holdsOn final = true) ∧
        result.constraintReport.Exact final lockerProgram.constraints := by
  have returns : returnsWith (fun result =>
      result.success && result.constraintReport.warningCount == 1)
      ((⟨.default, 1⟩ : Engine).run lockerProgram lockerPayload .once).result = true := by
    decide +kernel
  obtain ⟨result, returned, shown⟩ := eq_ok_of_returnsWith returns
  obtain ⟨success, warned⟩ := Bool.and_eq_true_iff.mp shown
  obtain ⟨final, taken, succeeds, exact⟩ := run_success_iff _ _ _ _ result (by decide) returned
  exact ⟨by decide, result, returned, success, eq_of_beq warned, final, taken,
    (succeeds.mp success).1, exact⟩

end Rulebook
