import Rulebook.Proofs.Check.Typing
import Rulebook.Proofs.Run.Effect
import Rulebook.Proofs.Validate.Verdict

/-!
The check of an action before a run, and the one each time that it is applied.

The two are written separately: the first tells an error of type as the reason why a field
cannot be written. They find the same errors all the same, up to that wording, and where the one
has no words for an error, neither has the other (`verdict_checkAction`). So an action that was
accepted is refused only where a fact has no value, and one that was objected to is refused wherever
it is applied (`rejectedAs_iff`).
-/

namespace Rulebook

/-! ### Errors -/

/-- Only the wording of an error changes when it is told about the written field. -/
theorem CheckError.kind_onWrite (verb target : String) (e : CheckError) :
    (e.onWrite verb target).kind = e.kind := by
  unfold onWrite
  split
  · rename_i type
    rw [type]
    rfl
  · rfl

/-- The kind of the issue that is reported, if there is one. -/
def CheckFailure.issueKind? : CheckFailure → Option IssueKind
  | reported e => some e.kind.issueKind
  | tooManyDigits => none

/-- What a check finds, up to the wording of its error. -/
def verdict {α : Type} (check : Except CheckFailure α) : Except (Option IssueKind) α :=
  check.mapError (·.issueKind?)

theorem verdict_eq_ok_iff {α : Type} {check : Except CheckFailure α} {found : α} :
    verdict check = .ok found ↔ check = .ok found :=
  Except.mapError_eq_ok_iff

/-- A check that is reported has an error of this kind. -/
theorem verdict_eq_error_iff {α : Type} {check : Except CheckFailure α} {kind : IssueKind} :
    verdict check = .error (some kind) ↔
      ∃ e, check = .error (.reported e) ∧ e.kind.issueKind = kind := by
  rcases check with (e | _) | found <;>
    simp [verdict, Except.mapError, CheckFailure.issueKind?]

/-- The check that an action goes through when it is applied. -/
def Action.inlineCheck (catalog : Catalog) : Action → Except CheckFailure (Option Issue)
  | .set target value | .append target value => Plan.checkWrite catalog target value
  | .increment target _ => do
      catalog.checkIncrement target
      return none
  | .emit .. | .route .. => return none

theorem Action.inlineCheck_increment_eq_ok_iff {catalog : Catalog} {target : String}
    {delta : Amount} {found : Option Issue} :
    (Action.increment target delta).inlineCheck catalog = .ok found ↔
      catalog.checkIncrement target = .ok () ∧ found = none := by
  cases checked : catalog.checkIncrement target <;>
    simp [inlineCheck, checked, bind, Except.bind, pure, Except.pure, eq_comm]

theorem Action.inlineCheck_increment_eq_error_iff {catalog : Catalog} {target : String}
    {delta : Amount} {failure : CheckFailure} :
    (Action.increment target delta).inlineCheck catalog = .error failure ↔
      ∃ e, catalog.checkIncrement target = .error e ∧ .reported e = failure := by
  cases checked : catalog.checkIncrement target <;>
    simp [inlineCheck, checked, bind, Except.bind, pure, Except.pure]

section Checks

variable {catalog : Catalog}

/-- The check of a written value as the validator makes it and as the plan makes it. -/
theorem Catalog.verdict_checkWritten (verb target : String) (value : Operand) :
    verdict (catalog.checkWritten verb target value) =
      verdict (Plan.checkWrite catalog target value) := by
  unfold checkWritten Plan.checkWrite
  cases catalog.resolve target with
  | error e => rfl
  | ok field =>
      rcases typed : catalog.checkOperand value (some field.type) with (e | _) | type
      · simp [verdict, bind, Except.bind, Except.mapError, typed, CheckFailure.onWrite,
          CheckFailure.issueKind?, CheckError.kind_onWrite]
      · simp [verdict, bind, Except.bind, Except.mapError, typed, CheckFailure.onWrite]
      · simp [bind, Except.bind, Except.mapError, typed]

/-- Both checks of an action succeed alike, or fail with errors of one kind. -/
theorem Catalog.verdict_checkAction (action : Action) :
    verdict (catalog.checkAction action) = verdict (action.inlineCheck catalog) := by
  cases action with
  | set target value => exact verdict_checkWritten "set" target value
  | append target value => exact verdict_checkWritten "append" target value
  | _ => rfl

/-- Whatever the validator accepts of an action, the interpreter accepts with the same issue. -/
theorem Catalog.checkAction_eq_ok_iff {action : Action} {found : Option Issue} :
    catalog.checkAction action = .ok found ↔ action.inlineCheck catalog = .ok found := by
  rw [← verdict_eq_ok_iff, verdict_checkAction, verdict_eq_ok_iff]

/-! ### Soft issues -/

/-- A soft issue of the kinds that a run reports of its own. -/
def Issue.Advisory (issue : Issue) : Prop :=
  issue.severity = .soft ∧
    issue.kind ∈ [IssueKind.unitMissing, .sourceMissing, .dynamicConflict]

theorem Issue.Advisory.not_hard {issue : Issue} (advisory : issue.Advisory) :
    issue.isHard = false := by
  simp [isHard, advisory.1]

theorem Issue.Advisory.forRules {issue : Issue} (advisory : issue.Advisory)
    (ruleIds : List String) : (issue.forRules ruleIds).Advisory := by
  simpa [Advisory] using advisory

/-- A check that can only find advisory issues passes exactly when it succeeds. -/
theorem passed_issuesOf_iff {ruleIds : List String} {check : Except CheckFailure (Option Issue)}
    (advisory : ∀ issue, check = .ok (some issue) → issue.Advisory) :
    Passed (issuesOf ruleIds check) ↔ ∃ found, check = .ok found := by
  refine ⟨ok_of_passed, ?_⟩
  rintro ⟨found, rfl⟩
  refine ⟨_, rfl, fun issue member => ?_⟩
  obtain ⟨origin, rfl, rfl⟩ := Option.map_eq_some_iff.mp (Option.mem_toList.mp member)
  exact ((advisory origin rfl).forRules ruleIds).not_hard

theorem Issue.advisory_of_unitMissing {issue : Issue}
    (missing : issue.severity = .soft ∧ issue.kind = .unitMissing) : issue.Advisory :=
  ⟨missing.1, by simp [missing.2]⟩

theorem sourceMissing_advisory (task target : String) (source : Operand) (ruleId : String) :
    (sourceMissing task target source ruleId).Advisory := ⟨rfl, by simp [sourceMissing]⟩

theorem conflictIssue_advisory (path ruleId message : String) :
    (conflictIssue path ruleId message).Advisory := ⟨rfl, by simp [conflictIssue]⟩

/-- A check of units that succeeds can find no more than that a unit is missing. -/
theorem Catalog.checkUnits_found {operand : Operand} {field : FieldDecl} {path : Option String}
    {issue : Issue} (checked : catalog.checkUnits operand field path = .ok (some issue)) :
    issue.severity = .soft ∧ issue.kind = .unitMissing := by
  unfold checkUnits at checked
  split at checked
  · cases checked
  · obtain ⟨unit, _, found⟩ := CheckFailure.lift_bind_eq_ok_iff.mp checked
    split at found
    · split at found
      · cases found
        exact ⟨rfl, rfl⟩
      · cases found
    · split at found <;> cases found

/-- All a checked write can find is that a unit is missing. -/
theorem Plan.checkWrite_found {target : String} {value : Operand} {issue : Issue}
    (checked : checkWrite catalog target value = .ok (some issue)) :
    issue.severity = .soft ∧ issue.kind = .unitMissing := by
  obtain ⟨field, _, checked⟩ := CheckFailure.lift_bind_eq_ok_iff.mp checked
  obtain ⟨type, _, checked⟩ := Except.bind_eq_ok_iff.mp checked
  exact Catalog.checkUnits_found checked

/-- So is all an action can find while it is checked. -/
theorem Action.inlineCheck_soft {action : Action} {issue : Issue}
    (checked : action.inlineCheck catalog = .ok (some issue)) :
    issue.severity = .soft ∧ issue.kind = .unitMissing := by
  cases action with
  | set target value => exact Plan.checkWrite_found checked
  | append target value => exact Plan.checkWrite_found checked
  | increment target delta => cases (inlineCheck_increment_eq_ok_iff.mp checked).2
  | emit event payload => cases checked
  | route queue reason => cases checked

theorem Action.inlineCheck_advisory {action : Action} {issue : Issue}
    (checked : action.inlineCheck catalog = .ok (some issue)) : issue.Advisory :=
  issue.advisory_of_unitMissing (inlineCheck_soft checked)

end Checks

/-! ### Plans -/

section Plans

variable {catalog : Catalog} {store : Store} {ruleId : String} {action : Action}

/-- What an action is refused for is its check's or its source's. -/
theorem Plan.ofOperand_refusal {task target planned : String} {value : Operand}
    {apply : Value → Option Value × Value} {issue : Issue}
    (refused : ofOperand catalog store ruleId task target value apply =
      .ok (.refuse planned issue)) :
    (∃ e, checkWrite catalog target value = .error (.reported e) ∧ issue = e.issue [ruleId]) ∨
      (∃ found, checkWrite catalog target value = .ok found) ∧
        issue = sourceMissing task target value ruleId := by
  unfold ofOperand at refused
  rcases checked : checkWrite catalog target value with (e | _) | found
  · simp only [checked] at refused
    cases refused
    exact .inl ⟨e, rfl, rfl⟩
  · simp [checked] at refused
  · simp only [checked] at refused
    split at refused
    · cases refused
      exact .inr ⟨⟨found, rfl⟩, rfl⟩
    · cases refused

/-- A plan refuses a write for the error that its check has found, or without one because a
fact has no value. -/
theorem Plan.refusal_cases {target : String} {issue : Issue}
    (planned : ofAction catalog store ruleId action = .ok (.refuse target issue)) :
    (∃ e, action.inlineCheck catalog = .error (.reported e) ∧ issue = e.issue [ruleId]) ∨
      (∃ found, action.inlineCheck catalog = .ok found) ∧
        ∃ task goal source, issue = sourceMissing task goal source ruleId := by
  cases action with
  | set goal value =>
      rw [ofAction_set] at planned
      exact (ofOperand_refusal planned).imp_right (.imp_right fun same => ⟨_, _, _, same⟩)
  | append goal value =>
      rw [ofAction_append] at planned
      exact (ofOperand_refusal planned).imp_right (.imp_right fun same => ⟨_, _, _, same⟩)
  | increment goal delta =>
      cases checked : catalog.checkIncrement goal with
      | error e =>
          rw [ofAction_increment_refused checked] at planned
          cases planned
          exact .inl ⟨e, Action.inlineCheck_increment_eq_error_iff.mpr ⟨e, checked, rfl⟩, rfl⟩
      | ok _ =>
          rw [ofAction_increment checked] at planned
          cases sum : delta.addTo ((store.read goal).getD .null) with
          | error e => simp [sum, Except.map] at planned
          | ok after => simp [sum, Except.map] at planned
  -- Events and routes are never refused.
  | emit event payload => cases planned
  | route queue reason => cases planned

/-- A write to a field has passed its check, and reports what the check has found. -/
theorem Writes.inlineCheck_found {target : String} {before : Option Value} {after : Value}
    {issues : List Issue} (writes : Writes catalog store ruleId action target before after issues) :
    ∃ found, action.inlineCheck catalog = .ok found ∧
      issues = (found.map (·.forRules [ruleId])).toList := by
  cases writes with
  | set checked => exact ⟨_, checked, rfl⟩
  | append checked => exact ⟨_, checked, rfl⟩
  | increment checked =>
      exact ⟨none, Action.inlineCheck_increment_eq_ok_iff.mpr ⟨checked, rfl⟩, rfl⟩

/-- A write to a field reports no more than a missing unit. -/
theorem Writes.checked {target : String} {before : Option Value} {after : Value}
    {issues : List Issue} (writes : Writes catalog store ruleId action target before after issues) :
    (∃ found, action.inlineCheck catalog = .ok found) ∧ ∀ issue ∈ issues, issue.Advisory := by
  obtain ⟨found, checked, rfl⟩ := writes.inlineCheck_found
  refine ⟨⟨found, checked⟩, ?_⟩
  intro issue member
  obtain ⟨origin, rfl, rfl⟩ := Option.map_eq_some_iff.mp (Option.mem_toList.mp member)
  exact (Action.inlineCheck_advisory checked).forRules _

end Plans

/-! ### Rejections -/

namespace Action

variable {catalog : Catalog} {live : Bool} {workspace : Workspace} {action : Action}
  {now : Writer}

/-- Applied to these facts, the action is rejected with a hard issue of this kind: nothing
changes, nothing is logged, and the issue is the only one. -/
def RejectedAs (catalog : Catalog) (live : Bool) (workspace : Workspace) (action : Action)
    (now : Writer) (kind : IssueKind) : Prop :=
  ∃ outcome issue, action.apply catalog live workspace now = .ok (outcome, workspace) ∧
    outcome.trace.applied = false ∧ outcome.diffs = [] ∧ outcome.log = none ∧
    outcome.issues = [issue] ∧ issue.isHard = true ∧ issue.kind = kind

/-- An action is refused for the error of its check, and where there is none it reports
nothing hard. -/
theorem apply_cases {outcome : ActionOutcome} {next : Workspace}
    (applied : action.apply catalog live workspace now = .ok (outcome, next)) :
    (∃ target current e, action.inlineCheck catalog = .error (.reported e) ∧ next = workspace ∧
      outcome = action.refusedOutcome now target current (e.issue [now.ruleId])) ∨
      (∃ found, action.inlineCheck catalog = .ok found) ∧
        ∀ issue ∈ outcome.issues, issue.Advisory := by
  -- A write's own issues are joined by a conflict at most, which is advice as well.
  have written : ∀ {path before after issues conflict},
      (∀ issue ∈ issues, issue.Advisory) → ∀ issue ∈
        (action.writeOutcome live now path before after issues conflict).issues,
          issue.Advisory := by
    intro path before after issues conflict sound
    refine List.forall_mem_append.mpr ⟨sound, ?_⟩
    intro issue member
    obtain ⟨message, _, rfl⟩ := Option.map_eq_some_iff.mp (Option.mem_toList.mp member)
    exact conflictIssue_advisory ..
  cases apply_eq_ok_iff.mp applied with
  | refused planned =>
      rcases Plan.refusal_cases planned with ⟨e, failed, rfl⟩ | ⟨checked, task, goal, source, rfl⟩
      · exact .inl ⟨_, _, e, failed, rfl, rfl⟩
      · exact .inr ⟨checked, List.forall_mem_singleton.mpr (sourceMissing_advisory ..)⟩
  | event planned =>
      cases Planned.of_eq planned with
      | event => exact .inr ⟨⟨none, rfl⟩, by simp [eventOutcome]⟩
  | field planned _ =>
      have writes := (Writes.of_planned planned).checked
      exact .inr ⟨writes.1, written writes.2⟩
  | route planned =>
      cases Planned.of_eq planned with
      | route => exact .inr ⟨⟨none, rfl⟩, written (by simp)⟩

/-- An action whose check is reported is refused on all facts. -/
theorem apply_of_inlineCheck_error (live : Bool) (workspace : Workspace) (now : Writer)
    {e : CheckError} (failed : action.inlineCheck catalog = .error (.reported e)) :
    ∃ target current, action.apply catalog live workspace now =
      .ok (action.refusedOutcome now target current (e.issue [now.ruleId]), workspace) := by
  have refused : ∃ target,
      Plan.ofAction catalog workspace.store now.ruleId action =
        .ok (.refuse target (e.issue [now.ruleId])) := by
    cases action with
    | set target value => exact ⟨target, by simp_all [inlineCheck, Plan.ofAction, Plan.ofOperand]⟩
    | append target value =>
        exact ⟨target, by simp_all [inlineCheck, Plan.ofAction, Plan.ofOperand]⟩
    | increment target delta =>
        obtain ⟨_, checked, same⟩ := inlineCheck_increment_eq_error_iff.mp failed
        cases same
        exact ⟨target, Plan.ofAction_increment_refused checked⟩
    | emit event payload => cases failed
    | route queue reason => cases failed
  obtain ⟨target, planned⟩ := refused
  exact ⟨target, _, apply_eq_ok_iff.mpr (.refused planned)⟩

/-- An action is rejected with a hard issue when its check is reported, whatever the facts are. -/
theorem rejectedAs_iff {kind : IssueKind} :
    RejectedAs catalog live workspace action now kind ↔
      verdict (action.inlineCheck catalog) = .error (some kind) := by
  rw [verdict_eq_error_iff]
  constructor
  · rintro ⟨outcome, issue, applied, _, _, _, only, hard, same⟩
    rcases apply_cases applied with ⟨_, _, e, failed, _, rfl⟩ | ⟨_, advisory⟩
    · cases only
      exact ⟨e, failed, same⟩
    · have soft := (advisory issue (only ▸ List.mem_singleton_self issue)).not_hard
      exact nomatch soft.symm.trans hard
  · rintro ⟨e, failed, same⟩
    obtain ⟨target, current, applied⟩ := apply_of_inlineCheck_error live workspace now failed
    exact ⟨_, _, applied, rfl, rfl, rfl, rfl, e.issue_isHard _, same⟩

end Action

/-! ### The two checks -/

section Both

variable {catalog : Catalog} {action : Action}

theorem Catalog.checkAction_advisory {issue : Issue}
    (checked : catalog.checkAction action = .ok (some issue)) : issue.Advisory :=
  Action.inlineCheck_advisory (checkAction_eq_ok_iff.mp checked)

/-- The check before a run reports a hard issue of the kind of its error. -/
theorem Catalog.hard_mem_issuesOf_iff {ruleIds : List String} {kind : IssueKind} :
    (∃ issues, issuesOf ruleIds (catalog.checkAction action) = .ok issues ∧
        ∃ issue ∈ issues, issue.isHard = true ∧ issue.kind = kind) ↔
      verdict (catalog.checkAction action) = .error (some kind) := by
  rcases checked : catalog.checkAction action with (e | _) | found
  · simp [issuesOf, verdict, Except.mapError, CheckFailure.issueKind?]
  · simp [issuesOf, verdict, Except.mapError, CheckFailure.issueKind?]
  · have sound : Passed (issuesOf ruleIds (catalog.checkAction action)) :=
      (passed_issuesOf_iff fun _ => checkAction_advisory).mpr ⟨found, checked⟩
    rw [checked] at sound
    obtain ⟨issues, made, sound⟩ := sound
    simp only [verdict, Except.mapError, reduceCtorEq, iff_false]
    rintro ⟨issues', made', issue, member, hard, _⟩
    cases made.symm.trans made'
    exact nomatch (sound issue member).symm.trans hard

/-- An action is rejected as it is applied when the check before a run objects to it, and with
an issue of the same kind. -/
theorem Action.rejectedAs_iff_objected {live : Bool} {workspace : Workspace} {now : Writer}
    {kind : IssueKind} :
    RejectedAs catalog live workspace action now kind ↔
      ∃ issues, issuesOf [now.ruleId] (catalog.checkAction action) = .ok issues ∧
        ∃ issue ∈ issues, issue.isHard = true ∧ issue.kind = kind := by
  rw [rejectedAs_iff, Catalog.hard_mem_issuesOf_iff, Catalog.verdict_checkAction]

/-- An action that the check before a run lets pass reports nothing hard as it is applied. -/
theorem Action.advisory_of_checked {live : Bool} {workspace next : Workspace} {now : Writer}
    {outcome : ActionOutcome} {found : Option Issue}
    (checked : catalog.checkAction action = .ok found)
    (applied : action.apply catalog live workspace now = .ok (outcome, next)) :
    ∀ issue ∈ outcome.issues, issue.Advisory := by
  have inline := Catalog.checkAction_eq_ok_iff.mp checked
  rcases apply_cases applied with ⟨_, _, e, failed, _, _⟩ | ⟨_, advisory⟩
  · exact nomatch inline.symm.trans failed
  · exact advisory

end Both

end Rulebook
