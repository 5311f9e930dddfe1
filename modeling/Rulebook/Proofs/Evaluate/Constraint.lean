import Mathlib.Data.List.Forall2
import Rulebook.Evaluate.Constraint
import Rulebook.Proofs.Check.Typing

/-!
What the report of the constraints tells.

`Constraint.holdsOn` says whether a constraint holds on a state, apart from any report. The report
of a check is exact (`checkConstraints_exact`): it lists the constraints that hold and those that
fail, both in the order of their declaration, and counts the failed ones by their severities.
-/

namespace Rulebook

/-! ### One constraint -/

/-- The constraint evaluates to true on this state. -/
def Constraint.holdsOn (store : Store) (constraint : Constraint) : Bool :=
  match constraint.assertion.evaluate store with
  | .ok trace => trace.result
  | .error _ => false

/-- The entry tells how the constraint comes out on this state. -/
structure ConstraintResult.Tells (store : Store) (constraint : Constraint)
    (entry : ConstraintResult) : Prop where
  constraintId : entry.constraintId = constraint.id
  description : entry.description = constraint.description
  severity : entry.severity = constraint.severity
  evaluated : constraint.assertion.evaluate store = .ok entry.trace
  passed_eq : entry.passed = entry.trace.result

section Entries

variable {store : Store} {constraint : Constraint} {entry : ConstraintResult}

/-- A constraint's entry tells its severity, message and outcome on the state. -/
theorem Constraint.check_eq_ok_iff :
    constraint.check store = .ok entry ↔ entry.Tells store constraint := by
  rw [Constraint.check, Except.bind_eq_ok_iff]
  constructor
  · rintro ⟨trace, evaluated, made⟩
    cases made
    exact ⟨rfl, rfl, rfl, evaluated, rfl⟩
  · intro tells
    refine ⟨entry.trace, tells.evaluated, ?_⟩
    rw [← tells.constraintId, ← tells.description, ← tells.severity, ← tells.passed_eq]
    rfl

theorem ConstraintResult.Tells.holdsOn_eq (tells : entry.Tells store constraint) :
    constraint.holdsOn store = entry.passed := by
  rw [Constraint.holdsOn, tells.evaluated, tells.passed_eq]

end Entries

/-! ### All constraints -/

theorem mapM_eq_ok_iff {α β ε : Type} {f : α → Except ε β} {xs : List α} {ys : List β} :
    xs.mapM f = .ok ys ↔ List.Forall₂ (fun x y => f x = .ok y) xs ys := by
  induction xs generalizing ys with
  | nil => cases ys <;> simp [pure, Except.pure]
  | cons x xs ih =>
      simp only [List.mapM_cons, Except.bind_eq_ok_iff, ih]
      constructor
      · rintro ⟨y, first, more, later, made⟩
        cases made
        exact .cons first later
      · rintro (_ | ⟨first, later⟩)
        exact ⟨_, first, _, later, rfl⟩

/-- The report lists these constraints as they come out on this state, those that hold and those
that fail, and counts the failed ones. -/
structure ConstraintReport.Exact (report : ConstraintReport) (store : Store)
    (constraints : List Constraint) : Prop where
  passed : List.Forall₂ (ConstraintResult.Tells store)
    (constraints.filter (·.holdsOn store)) report.passed
  failed : List.Forall₂ (ConstraintResult.Tells store)
    (constraints.filter (!·.holdsOn store)) report.failed
  errorCount : report.errorCount =
    constraints.countP fun constraint => constraint.severity == .error && !constraint.holdsOn store
  warningCount : report.warningCount =
    constraints.countP fun constraint => constraint.severity == .warn && !constraint.holdsOn store
  counted : report.errorCount + report.warningCount = report.failed.length
  hasFailures_iff : report.hasFailures = true ↔ 0 < report.errorCount + report.warningCount
  hasErrors_iff : report.hasErrors = true ↔ 0 < report.errorCount

namespace ConstraintReport

variable {report : ConstraintReport} {store : Store} {constraints : List Constraint}

/-- Every severity is one of the two that are counted. -/
theorem errorCount_add_warningCount (report : ConstraintReport) :
    report.errorCount + report.warningCount = report.failed.length := by
  rw [List.length_eq_countP_add_countP fun entry : ConstraintResult => entry.severity == .error]
  refine congrArg _ (List.countP_congr fun entry _ => ?_)
  cases entry.severity <;> decide

/-- A report's count for a severity is the number of its violated constraints. -/
theorem count_eq (severity : Severity)
    (failed : List.Forall₂ (ConstraintResult.Tells store)
      (constraints.filter (!·.holdsOn store)) report.failed) :
    report.count severity = constraints.countP fun constraint =>
      constraint.severity == severity && !constraint.holdsOn store := by
  have alike := List.rel_filter
    (p := fun constraint : Constraint => constraint.severity == severity)
    (q := fun entry : ConstraintResult => entry.severity == severity)
    (fun _ _ tells => by simp [tells.severity]) failed
  rw [count, List.countP_eq_length_filter, ← alike.length_eq, List.filter_filter,
    ← List.countP_eq_length_filter]

/-- No error has failed exactly if all constraints that count as errors hold. -/
theorem Exact.hasErrors_eq_false_iff (exact : report.Exact store constraints) :
    report.hasErrors = false ↔ ∀ constraint ∈ constraints, constraint.severity = .error →
      constraint.holdsOn store = true := by
  rw [← Bool.not_eq_true, exact.hasErrors_iff, exact.errorCount, Nat.pos_iff_ne_zero, not_not,
    List.countP_eq_zero]
  simp

end ConstraintReport

/-- What the check of all constraints returns is exact. -/
theorem checkConstraints_exact {store : Store} {constraints : List Constraint}
    {report : ConstraintReport} (checked : checkConstraints store constraints = .ok report) :
    report.Exact store constraints := by
  obtain ⟨entries, made, returned⟩ := Except.bind_eq_ok_iff.mp checked
  cases returned
  have each : List.Forall₂ (ConstraintResult.Tells store) constraints entries :=
    (mapM_eq_ok_iff.mp made).imp fun _ _ => Constraint.check_eq_ok_iff.mp
  have passed := List.rel_filter (p := (·.holdsOn store)) (q := (·.passed))
    (fun _ _ tells => by simp [tells.holdsOn_eq]) each
  have failed := List.rel_filter (p := (!·.holdsOn store)) (q := (!·.passed))
    (fun _ _ tells => by simp [tells.holdsOn_eq]) each
  exact
    { passed := passed
      failed := failed
      errorCount := ConstraintReport.count_eq .error failed
      warningCount := ConstraintReport.count_eq .warn failed
      counted := ConstraintReport.errorCount_add_warningCount _
      hasFailures_iff := by
        rw [ConstraintReport.errorCount_add_warningCount, List.length_pos_iff]
        simp [ConstraintReport.hasFailures]
      hasErrors_iff := decide_eq_true_iff }

end Rulebook
