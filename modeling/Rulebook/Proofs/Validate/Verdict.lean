import Rulebook.Proofs.Run.Course
import Rulebook.Proofs.Validate.Clash
import Rulebook.Validate.Verdict

/-!
What a verdict of validity promises.

A program is valid when all of its checks were made and no issue that they found is hard
(`Engine.valid_iff`). So each single check of a valid program, of its conditions and of its actions,
has ended without an error (`Engine.passed_of_valid`); what it may have found besides is soft.
-/

namespace Rulebook

/-! ### Issues of a check -/

@[simp] theorem CheckError.issue_isHard (e : CheckError) (ruleIds : List String) :
    (e.issue ruleIds).isHard = true := rfl

@[simp] theorem CheckError.issue_kind (e : CheckError) (ruleIds : List String) :
    (e.issue ruleIds).kind = e.kind.issueKind := rfl

@[simp] theorem Issue.forRules_severity (issue : Issue) (ruleIds : List String) :
    (issue.forRules ruleIds).severity = issue.severity := by
  unfold forRules
  split <;> rfl

@[simp] theorem Issue.forRules_kind (issue : Issue) (ruleIds : List String) :
    (issue.forRules ruleIds).kind = issue.kind := by
  unfold forRules
  split <;> rfl

def Unobjected (issues : List Issue) : Prop := ∀ issue ∈ issues, issue.isHard = false

@[simp] theorem unobjected_append {first second : List Issue} :
    Unobjected (first ++ second) ↔ Unobjected first ∧ Unobjected second :=
  List.forall_mem_append

theorem unobjected_flatten_iff {parts : List (List Issue)} :
    Unobjected parts.flatten ↔ ∀ part ∈ parts, Unobjected part := by
  simp only [Unobjected, List.mem_flatten]
  exact ⟨fun all part inside issue member => all issue ⟨part, inside, member⟩,
    fun each issue ⟨part, inside, member⟩ => each part inside issue member⟩

/-! ### Checks that are made together -/

section Gather

variable {outcomes : List (Except Interruption (List Issue))} {issues : List Issue}

/-- Checks that are made one after another find what each of them finds. -/
theorem gather_eq_ok_iff :
    gather outcomes = .ok issues ↔
      ∃ parts : List (List Issue), outcomes = parts.map .ok ∧ parts.flatten = issues := by
  induction outcomes generalizing issues with
  | nil =>
      constructor
      · rintro ⟨⟩
        exact ⟨[], rfl, rfl⟩
      · rintro ⟨parts, none, rfl⟩
        rw [List.map_eq_nil_iff.mp none.symm]
        rfl
  | cons outcome rest ih =>
      simp only [gather, Except.bind_eq_ok_iff, ih]
      constructor
      · rintro ⟨part, rfl, _, ⟨parts, rfl, rfl⟩, same⟩
        exact ⟨part :: parts, rfl, Except.ok.inj same⟩
      · rintro ⟨parts, split, rfl⟩
        cases parts with
        | nil => cases split
        | cons part parts =>
            cases split
            exact ⟨part, rfl, _, ⟨parts, rfl, rfl⟩, rfl⟩

/-- All of them are made where each of them is. -/
theorem gather_returns_iff :
    (∃ issues, gather outcomes = .ok issues) ↔
      ∀ outcome ∈ outcomes, ∃ part, outcome = .ok part := by
  simp only [gather_eq_ok_iff]
  constructor
  · rintro ⟨_, parts, rfl, _⟩ outcome member
    obtain ⟨part, _, rfl⟩ := List.mem_map.mp member
    exact ⟨part, rfl⟩
  · intro each
    choose! part made using each
    refine ⟨_, outcomes.map part, ?_, rfl⟩
    rw [List.map_map]
    exact (List.map_id outcomes).symm.trans (List.map_congr_left made)

/-- What one of them finds is among what they find together. -/
theorem part_of_gather (gathered : gather outcomes = .ok issues)
    {outcome : Except Interruption (List Issue)} (member : outcome ∈ outcomes) :
    ∃ part, outcome = .ok part ∧ ∀ issue ∈ part, issue ∈ issues := by
  obtain ⟨parts, rfl, rfl⟩ := gather_eq_ok_iff.mp gathered
  obtain ⟨part, inside, rfl⟩ := List.mem_map.mp member
  exact ⟨part, rfl, fun issue found => List.mem_flatten.mpr ⟨part, inside, found⟩⟩

theorem exists_part_of_gather (gathered : gather outcomes = .ok issues) {issue : Issue}
    (member : issue ∈ issues) : ∃ part, .ok part ∈ outcomes ∧ issue ∈ part := by
  obtain ⟨parts, rfl, rfl⟩ := gather_eq_ok_iff.mp gathered
  obtain ⟨part, inside, found⟩ := List.mem_flatten.mp member
  exact ⟨part, List.mem_map_of_mem inside, found⟩

/-- The checks are made, and nothing that they find is hard. -/
def Passed (outcome : Except Interruption (List Issue)) : Prop :=
  ∃ issues, outcome = .ok issues ∧ Unobjected issues

@[simp] theorem passed_ok_iff : Passed (.ok issues) ↔ Unobjected issues := by
  simp [Passed]

/-- What is gathered passes when each outcome does. -/
theorem passed_gather_iff : Passed (gather outcomes) ↔ ∀ outcome ∈ outcomes, Passed outcome := by
  simp only [Passed, gather_eq_ok_iff]
  constructor
  · rintro ⟨_, ⟨parts, rfl, rfl⟩, sound⟩ outcome member
    obtain ⟨part, inside, rfl⟩ := List.mem_map.mp member
    exact ⟨part, rfl, unobjected_flatten_iff.mp sound part inside⟩
  · intro each
    choose! part made sound using each
    refine ⟨_, ⟨outcomes.map part, ?_, rfl⟩, unobjected_flatten_iff.mpr ?_⟩
    · rw [List.map_map]
      exact (List.map_id outcomes).symm.trans (List.map_congr_left made)
    · exact List.forall_mem_map.mpr sound

end Gather

/-- A check whose issues are not hard has ended without an error. -/
theorem ok_of_passed {ruleIds : List String} {check : Except CheckFailure (Option Issue)}
    (passed : Passed (issuesOf ruleIds check)) : ∃ found, check = .ok found := by
  obtain ⟨issues, made, sound⟩ := passed
  rcases check with (e | _) | found
  · cases made
    exact nomatch (sound _ (List.mem_singleton_self _)).symm.trans (e.issue_isHard _)
  · cases made
  · exact ⟨found, rfl⟩

/-! ### Programs -/

/-- All issues that are found without running the examples of a program. -/
def foundIssues (program : Program) : Except Interruption (List Issue) := do
  let declared ← declarationIssues program
  let clashes ← (findClashes program).result
  return declared ++ clashes ++ wordingIssues program

/-- The issues found are those of the declarations, the rules, the clashes and the wording. -/
theorem foundIssues_eq_ok_iff {program : Program} {issues : List Issue} :
    foundIssues program = .ok issues ↔ ∃ declared, declarationIssues program = .ok declared ∧
      clashesHaveText program.rules = true ∧
        declared ++ clashIssues program.rules ++ wordingIssues program = issues := by
  simp only [foundIssues, Except.bind_eq_ok_iff, findClashes_eq_ok_iff]
  constructor
  · rintro ⟨declared, made, _, ⟨told, rfl⟩, same⟩
    exact ⟨declared, made, told, Except.ok.inj same⟩
  · rintro ⟨declared, made, told, rfl⟩
    exact ⟨declared, made, _, ⟨told, rfl⟩, rfl⟩

/-- What the check of an action finds is among the issues of its program. -/
theorem mem_foundIssues_of_action {program : Program} {issues : List Issue}
    (found : foundIssues program = .ok issues) {rule : Rule} (member : rule ∈ program.rules)
    {action : Action} (among : action ∈ rule.actions) :
    ∃ part, issuesOf [rule.id] ((Catalog.ofProgram program).checkAction action) = .ok part ∧
      ∀ issue ∈ part, issue ∈ issues := by
  obtain ⟨declared, made, _, rfl⟩ := foundIssues_eq_ok_iff.mp found
  obtain ⟨ofRule, rules, inside⟩ := part_of_gather made
    (List.mem_append_left _ (List.mem_cons_of_mem _ (List.mem_map_of_mem member)))
  obtain ⟨part, checked, within⟩ := part_of_gather rules
    (List.mem_cons_of_mem _ (List.mem_map_of_mem among))
  exact ⟨part, checked, fun issue told =>
    List.mem_append_left _ (List.mem_append_left _ (inside issue (within issue told)))⟩

theorem unobjected_iff_any {issues : List Issue} :
    Unobjected issues ↔ issues.any (·.isHard) = false := by
  simp [Unobjected]

/-- A validation is valid when nothing hard was found. -/
theorem Validation.valid_ofIssues_iff {issues : List Issue} {coverage : List RuleCoverage} :
    (ofIssues issues coverage).valid = true ↔ Unobjected issues := by
  simp [valid, ofIssues, Unobjected]

/-- What examples do not cover is a soft issue. -/
theorem unobjected_coverageIssues (program : Program) (coverage : List RuleCoverage) :
    Unobjected (coverageIssues program coverage) := by
  unfold coverageIssues
  split
  · exact List.forall_mem_singleton.mpr rfl
  · intro issue member
    obtain ⟨entry, _, rfl⟩ := List.mem_map.mp member
    rfl

namespace Engine

/-- What comes of all that was found. -/
def report (engine : Engine) (issues : List Issue) (coverage : List RuleCoverage) :
    Recorded Interruption Validation :=
  let validation := Validation.ofIssues issues coverage
  ⟨.ok validation, .log (validationRecord validation) :: reportedEvents engine.settings issues⟩

/-- What follows when all is found that can be found without the examples. -/
def conclude (engine : Engine) (program : Program) (issues : List Issue) :
    Recorded Interruption Validation :=
  if issues.any (·.isHard) then engine.report issues []
  else do
    let coverage ← engine.assessCoverage program (.default engine.settings)
    engine.report (issues ++ coverageIssues program coverage) coverage

/-- The examples come last, and decide nothing about what was found before. -/
theorem validate_eq (engine : Engine) (program : Program) : engine.validate program = (do
    let declared ← Recorded.lift (declarationIssues program)
    let clashes ← findClashes program
    engine.conclude program (declared ++ clashes ++ wordingIssues program)) := by
  have reported : ∀ issues coverage, (do
      ⟨.ok (), .log (validationRecord (.ofIssues issues coverage)) ::
        reportedEvents engine.settings issues⟩
      return Validation.ofIssues issues coverage : Recorded Interruption Validation) =
      engine.report issues coverage := by
    intro issues coverage
    simp [report, bind, Recorded.andThen, pure]
  unfold validate
  refine congrArg _ (funext fun declared => congrArg _ (funext fun clashes => ?_))
  unfold conclude
  dsimp only
  split
  · exact reported _ []
  · exact congrArg _ (funext fun coverage => reported _ coverage)

/-- The examples are run where nothing hard was found, and may add to what was. -/
theorem validate_result (engine : Engine) (program : Program) :
    (engine.validate program).result = (foundIssues program).bind fun issues =>
      if issues.any (·.isHard) then .ok (.ofIssues issues [])
      else (engine.assessCoverage program (.default engine.settings)).result.map fun coverage =>
        .ofIssues (issues ++ coverageIssues program coverage) coverage := by
  have concludes : ∀ issues, (engine.conclude program issues).result =
      if issues.any (·.isHard) then .ok (.ofIssues issues [])
      else (engine.assessCoverage program (.default engine.settings)).result.map fun coverage =>
        .ofIssues (issues ++ coverageIssues program coverage) coverage := by
    intro issues
    unfold conclude
    split
    · rfl
    · rw [Recorded.result_bind]
      cases (engine.assessCoverage program (.default engine.settings)).result <;> rfl
  simp only [validate_eq, Recorded.result_bind, Recorded.result_lift, concludes]
  unfold foundIssues
  cases declarationIssues program with
  | error e => rfl
  | ok declared => cases (findClashes program).result <;> rfl

/-- Validation returns where its issues are found and, nothing hard among them, its examples return.
-/
theorem validate_eq_ok_iff {engine : Engine} {program : Program} {validation : Validation} :
    (engine.validate program).result = .ok validation ↔
      ∃ issues, foundIssues program = .ok issues ∧
        (¬ Unobjected issues ∧ validation = .ofIssues issues [] ∨
          Unobjected issues ∧ ∃ coverage,
            (engine.assessCoverage program (.default engine.settings)).result = .ok coverage ∧
            validation = .ofIssues (issues ++ coverageIssues program coverage) coverage) := by
  rw [validate_result]
  cases foundIssues program with
  | error e => simp [Except.bind]
  | ok issues =>
      simp only [Except.bind, Except.ok.injEq, exists_eq_left', unobjected_iff_any]
      cases issues.any (·.isHard) with
      | true => simp [eq_comm]
      | false =>
          cases (engine.assessCoverage program (.default engine.settings)).result with
          | error e => simp [Except.map]
          | ok coverage => simp [Except.map, eq_comm]

/-- A program is valid when all checks were made and nothing hard was found, whatever its examples
show. -/
theorem valid_iff {engine : Engine} {program : Program} {validation : Validation}
    (validated : (engine.validate program).result = .ok validation) :
    validation.valid = true ↔ Passed (foundIssues program) := by
  obtain ⟨issues, found, ⟨objected, rfl⟩ | ⟨sound, coverage, _, rfl⟩⟩ :=
    validate_eq_ok_iff.mp validated
  · rw [found, passed_ok_iff, Validation.valid_ofIssues_iff]
  · rw [found, passed_ok_iff, Validation.valid_ofIssues_iff, unobjected_append]
    exact and_iff_left (unobjected_coverageIssues program coverage)

/-- A valid program is warned of by all that was found, and then by what its examples do not
cover. -/
theorem warnings_eq_of_valid {engine : Engine} {program : Program} {validation : Validation}
    (validated : (engine.validate program).result = .ok validation)
    (valid : validation.valid = true) :
    ∃ issues, foundIssues program = .ok issues ∧
      validation.warnings = issues ++ coverageIssues program validation.coverage := by
  obtain ⟨issues, found, ⟨objected, rfl⟩ | ⟨sound, coverage, _, rfl⟩⟩ :=
    validate_eq_ok_iff.mp validated
  · exact absurd (Validation.valid_ofIssues_iff.mp valid) objected
  · refine ⟨issues, found, List.filter_eq_self.mpr fun issue member => ?_⟩
    have soft := unobjected_append.mpr ⟨sound, unobjected_coverageIssues program coverage⟩
    rw [soft issue member]
    rfl

/-- In a program that was found valid nothing that it declares is objected to. -/
theorem passed_of_valid {engine : Engine} {program : Program} {validation : Validation}
    (validated : (engine.validate program).result = .ok validation)
    (valid : validation.valid = true) : Passed (declarationIssues program) := by
  obtain ⟨issues, found, sound⟩ := (valid_iff validated).mp valid
  obtain ⟨declared, made, _, rfl⟩ := foundIssues_eq_ok_iff.mp found
  rw [unobjected_append, unobjected_append] at sound
  exact ⟨declared, made, sound.1.1⟩

end Engine

section Valid

variable {program : Program} (sound : Passed (declarationIssues program))

include sound

theorem passed_rule {rule : Rule} (member : rule ∈ program.rules) :
    Passed (rule.issues (.ofProgram program)) :=
  passed_gather_iff.mp sound _
    (List.mem_append_left _ (List.mem_cons_of_mem _ (List.mem_map_of_mem member)))

/-- The condition of each rule is accepted. -/
theorem passed_condition {rule : Rule} (member : rule ∈ program.rules) :
    Passed (rule.condition.issues (.ofProgram program) [rule.id]) :=
  passed_gather_iff.mp (passed_rule sound member) _ List.mem_cons_self

/-- Each action of a rule passes its check. -/
theorem checkAction_of_passed {rule : Rule} (member : rule ∈ program.rules) {action : Action}
    (among : action ∈ rule.actions) :
    ∃ found, (Catalog.ofProgram program).checkAction action = .ok found :=
  ok_of_passed (passed_gather_iff.mp (passed_rule sound member) _
    (List.mem_cons_of_mem _ (List.mem_map_of_mem among)))

/-- The assertion of each constraint is accepted. -/
theorem passed_constraint {constraint : Constraint} (member : constraint ∈ program.constraints) :
    Passed (constraint.assertion.issues (.ofProgram program) []) :=
  passed_gather_iff.mp sound _ (List.mem_append_right _ (List.mem_map_of_mem member))

end Valid

end Rulebook
