import Rulebook.Proofs.Check.Agreement
import Rulebook.Proofs.Validate.Operands

/-!
The kinds of issues that each check finds.

A check of a condition, of an action or of a pair of rules finds errors of a few kinds, and soft
issues of a few others; what is found in texts is that they are vague. None of these is a duplicate
definition, nor does it speak of the examples. So among all that is found without running the
examples of a program, its duplicate definitions come first and are all of their kind
(`eq_append_of_foundIssues`).
-/

namespace Rulebook

/-- The kinds of what single checks find. -/
def checkKinds : List IssueKind :=
  [.reference, .typeMismatch, .unitMismatch, .unitMissing, .staticConflict, .dynamicConflict,
    .sourceMissing, .vagueTerm]

def FoundByChecks (issues : List Issue) : Prop := ∀ issue ∈ issues, issue.kind ∈ checkKinds

@[simp] theorem foundByChecks_append {first second : List Issue} :
    FoundByChecks (first ++ second) ↔ FoundByChecks first ∧ FoundByChecks second :=
  List.forall_mem_append

theorem foundByChecks_flatMap {α : Type} {items : List α} {f : α → List Issue}
    (each : ∀ item ∈ items, FoundByChecks (f item)) : FoundByChecks (items.flatMap f) :=
  List.forall_mem_flatMap.mpr each

/-- What checks find together is of the kinds of what each of them finds. -/
theorem foundByChecks_gather {outcomes : List (Except Interruption (List Issue))}
    {issues : List Issue} (gathered : gather outcomes = .ok issues)
    (each : ∀ part, .ok part ∈ outcomes → FoundByChecks part) : FoundByChecks issues := by
  intro issue member
  obtain ⟨part, among, inside⟩ := exists_part_of_gather gathered member
  exact each part among issue inside

/-- What single checks find is of no other kind. -/
theorem FoundByChecks.kind_ne {issues : List Issue} {kind : IssueKind}
    (found : FoundByChecks issues) (other : kind ∉ checkKinds) :
    ∀ issue ∈ issues, issue.kind ≠ kind := by
  intro issue member same
  exact other (same ▸ found issue member)

/-! ### Single checks -/

theorem CheckError.issueKind_mem (e : CheckError) : e.kind.issueKind ∈ checkKinds := by
  cases e <;> simp [kind, FaultClass.issueKind, checkKinds]

theorem Issue.Advisory.kind_mem {issue : Issue} (advisory : issue.Advisory) :
    issue.kind ∈ checkKinds := by
  have among := advisory.2
  have kinds : ∀ kind ∈ [IssueKind.unitMissing, .sourceMissing, .dynamicConflict],
      kind ∈ checkKinds := by decide
  exact kinds _ among

section Found

variable {catalog : Catalog} {ruleIds : List String} {issues : List Issue}

/-- A check's issues are its error's or its advice. -/
theorem foundByChecks_issuesOf {check : Except CheckFailure (Option Issue)}
    (advisory : ∀ issue, check = .ok (some issue) → issue.Advisory)
    (made : issuesOf ruleIds check = .ok issues) : FoundByChecks issues := by
  intro issue member
  rcases check with (e | _) | found
  · cases made
    rw [List.mem_singleton.mp member]
    exact e.issueKind_mem
  · cases made
  · cases made
    obtain ⟨origin, rfl, rfl⟩ := Option.map_eq_some_iff.mp (Option.mem_toList.mp member)
    exact ((advisory origin rfl).forRules ruleIds).kind_mem

theorem Catalog.checkDeclared_advisory {path : String} {issue : Issue}
    (checked : catalog.checkDeclared path = .ok (some issue)) : issue.Advisory := by
  obtain ⟨_, _, returned⟩ := Except.bind_eq_ok_iff.mp checked
  cases returned

theorem Catalog.checkText_advisory {value : Operand} {issue : Issue}
    (checked : catalog.checkText value = .ok (some issue)) : issue.Advisory := by
  obtain ⟨_, _, returned⟩ := Except.bind_eq_ok_iff.mp checked
  cases returned

/-! ### Conditions and rules -/

mutual

theorem Condition.foundByChecks_issues : ∀ (condition : Condition) {issues : List Issue},
    condition.issues catalog ruleIds = .ok issues → FoundByChecks issues
  | .compare .., _, made => foundByChecks_issuesOf (fun _ => Catalog.checkCompare_advisory) made
  | .present _, _, made => foundByChecks_issuesOf (fun _ => Catalog.checkDeclared_advisory) made
  | .oneOf .., _, made => by
      refine foundByChecks_gather made fun part among => ?_
      obtain ⟨option, _, checked⟩ := List.mem_map.mp among
      exact foundByChecks_issuesOf (fun _ => Catalog.checkOption_advisory) checked
  | .matching .., _, made => foundByChecks_issuesOf (fun _ => Catalog.checkText_advisory) made
  | .all conditions, _, made | .any conditions, _, made =>
      foundByChecks_gather made (foundByChecks_issuesOfEach conditions)
  | .not condition, _, made => foundByChecks_issues condition made

theorem Condition.foundByChecks_issuesOfEach : ∀ (conditions : List Condition) (part : List Issue),
    .ok part ∈ issuesOfEach catalog ruleIds conditions → FoundByChecks part
  | condition :: rest, part, among => by
      rcases List.mem_cons.mp among with made | later
      · exact foundByChecks_issues condition made.symm
      · exact foundByChecks_issuesOfEach rest part later

end

theorem Rule.foundByChecks_issues (rule : Rule) (made : rule.issues catalog = .ok issues) :
    FoundByChecks issues := by
  refine foundByChecks_gather made fun part among => ?_
  rcases List.mem_cons.mp among with condition | action
  · exact rule.condition.foundByChecks_issues condition.symm
  · obtain ⟨action, _, checked⟩ := List.mem_map.mp action
    exact foundByChecks_issuesOf (fun _ => Catalog.checkAction_advisory) checked

end Found

/-! ### Programs -/

theorem foundByChecks_clashIssues (rules : List Rule) : FoundByChecks (clashIssues rules) := by
  refine foundByChecks_flatMap fun pair _ issue member => ?_
  obtain ⟨e, _, rfl⟩ := List.mem_map.mp member
  exact e.issueKind_mem

theorem foundByChecks_wordingIssues (program : Program) :
    FoundByChecks (wordingIssues program) := by
  have vague : ∀ owner ruleIds text, FoundByChecks (wordingIssuesOf owner ruleIds text) := by
    intro owner ruleIds text issue member
    obtain ⟨term, _, rfl⟩ := List.mem_map.mp member
    show IssueKind.vagueTerm ∈ checkKinds
    decide
  refine foundByChecks_append.mpr ⟨?_, ?_⟩
  · exact foundByChecks_flatMap fun _ _ => foundByChecks_flatMap fun _ _ => vague _ _ _
  · exact foundByChecks_flatMap fun _ _ => vague _ _ _

/-- What a program is found to declare are its duplicate definitions, and then whatever the checks
of its rules and constraints find. -/
theorem eq_append_of_declarationIssues {program : Program} {declared : List Issue}
    (made : declarationIssues program = .ok declared) :
    ∃ checked, declared = duplicateIssues program ++ checked ∧ FoundByChecks checked := by
  obtain ⟨first, duplicates, others⟩ := Except.bind_eq_ok_iff.mp made
  cases duplicates
  obtain ⟨checked, gathered, same⟩ := Except.bind_eq_ok_iff.mp others
  refine ⟨checked, (Except.ok.inj same).symm, foundByChecks_gather gathered ?_⟩
  intro part among
  rcases List.mem_append.mp among with ofRule | ofConstraint
  · obtain ⟨rule, _, checked⟩ := List.mem_map.mp ofRule
    exact rule.foundByChecks_issues checked
  · obtain ⟨constraint, _, checked⟩ := List.mem_map.mp ofConstraint
    exact constraint.assertion.foundByChecks_issues checked

/-- Without its examples, a program is found to have duplicate definitions, and then whatever single
checks find. -/
theorem eq_append_of_foundIssues {program : Program} {issues : List Issue}
    (found : foundIssues program = .ok issues) :
    ∃ checked, issues = duplicateIssues program ++ checked ∧ FoundByChecks checked := by
  obtain ⟨declared, made, _, rfl⟩ := foundIssues_eq_ok_iff.mp found
  obtain ⟨checked, rfl, sound⟩ := eq_append_of_declarationIssues made
  refine ⟨checked ++ clashIssues program.rules ++ wordingIssues program, ?_, ?_⟩
  · simp only [List.append_assoc]
  · simp only [foundByChecks_append]
    exact ⟨⟨sound, foundByChecks_clashIssues program.rules⟩, foundByChecks_wordingIssues program⟩

/-- All duplicate definitions are issues of this kind. -/
theorem kind_of_mem_duplicateIssues {program : Program} {issue : Issue}
    (member : issue ∈ duplicateIssues program) : issue.kind = .duplicateDefinition := by
  obtain ⟨group, _, among⟩ := List.mem_flatMap.mp member
  obtain ⟨name, _, rfl⟩ := List.mem_map.mp among
  rfl

end Rulebook
