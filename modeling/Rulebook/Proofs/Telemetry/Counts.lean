import Mathlib.Data.List.Basic
import Rulebook.Execute.Run
import Rulebook.Telemetry.Metrics

/-!
What metrics count.

Metrics are a fold over events, so what they count is an invariant: after any events, each counter
holds how many executions or issues there were of its kind, there is one duration for each
execution, and the observations of firings are those of the executions (`Metrics.Counts`). The
measurements of an execution, each of which reaches one metric, keep it together, and so does the
event of an issue. Whoever reads the published samples sees it as a balance (`Metrics.Balance`).
-/

namespace Rulebook

-- The zero of a sum is the core library's, also where another one is declared.
attribute [local instance (2000)] Zero.ofOfNat0

/-! ### Tallies -/

section Tally

variable {κ : Type} [DecidableEq κ]

def countOf (key : κ) (tally : List (κ × Nat)) : Nat := (Fields.get? key tally).getD 0

/-- A bump raises the count of its own key. -/
theorem countOf_bump (key other : κ) (tally : List (κ × Nat)) :
    countOf key (bump other tally) = countOf key tally + if other = key then 1 else 0 := by
  unfold countOf bump
  by_cases same : key = other
  · subst same
    simp [Fields.get?_set_self]
  · rw [Fields.get?_set_of_ne same, if_neg (Ne.symm same), Nat.add_zero]

/-- It raises the sum by one. -/
theorem sum_bump (key : κ) (tally : List (κ × Nat)) :
    ((bump key tally).map (·.2)).sum = (tally.map (·.2)).sum + 1 := by
  unfold bump
  induction tally with
  | nil => rfl
  | cons entry rest ih =>
      obtain ⟨other, n⟩ := entry
      by_cases same : other = key
      · simp [Fields.set, Fields.get?, same]
        omega
      · simp only [Fields.set, Fields.get?, if_neg same, List.map_cons, List.sum_cons, ih]
        omega

/-- The count of a key is that of its first entry. -/
theorem countOf_eq_find? (key : κ) (tally : List (κ × Nat)) :
    countOf key tally = ((tally.find? fun entry => entry.1 = key).map (·.2)).getD 0 := by
  induction tally with
  | nil => rfl
  | cons entry rest ih =>
      obtain ⟨other, n⟩ := entry
      by_cases same : other = key
      · simp [countOf, Fields.get?, same]
      · simpa [countOf, Fields.get?, same] using ih

end Tally

/-! ### Executions and issues -/

/-- The result tells of success exactly if no constraint that counts as an error has failed, and the
limit was not hit. -/
def ExecutionResult.Coherent (result : ExecutionResult) : Prop :=
  result.success = !(result.constraintReport.hasErrors || result.hitRuleLimit)

/-- The events of an execution, as it is measured. -/
def ExecutionResult.measurements (result : ExecutionResult) : List Event :=
  [.executed (Engine.statusOf result), .timed, .fired result.ruleFirings] ++
    if result.conflictWarnings.isEmpty then [] else [.conflicted result.conflictWarnings.length]

def Issue.event (issue : Issue) : Event := .reported issue.kind issue.severity

/-- The metrics are those of these executions and issues. -/
structure Metrics.Counts (metrics : Metrics) (executions : List ExecutionResult)
    (issues : List Issue) : Prop where
  statuses : ∀ status, countOf status metrics.executions =
    executions.countP fun result => Engine.statusOf result = status
  total : (metrics.executions.map (·.2)).sum = executions.length
  durations : metrics.durations = executions.length
  firings : metrics.firings = (executions.map (·.ruleFirings)).reverse
  conflicts : metrics.conflicts = (executions.map (·.conflictWarnings.length)).sum
  issues : ∀ kind severity, countOf (kind, severity) metrics.issues =
    issues.countP fun issue => issue.kind = kind ∧ issue.severity = severity

namespace Metrics

variable {metrics : Metrics} {executions : List ExecutionResult} {issues : List Issue}

theorem counts_empty : Metrics.empty.Counts [] [] :=
  ⟨fun _ => rfl, rfl, rfl, rfl, rfl, fun _ _ => rfl⟩

/-- Each measurement of an execution reaches its own metric. No warning of a conflict is as good as
a count of none. -/
theorem addAll_measurements (metrics : Metrics) (result : ExecutionResult) :
    metrics.addAll result.measurements =
      { metrics with
        executions := bump (Engine.statusOf result) metrics.executions
        durations := metrics.durations + 1
        firings := result.ruleFirings :: metrics.firings
        conflicts := metrics.conflicts + result.conflictWarnings.length } := by
  unfold ExecutionResult.measurements
  cases warnings : result.conflictWarnings with
  | nil => rfl
  | cons first rest => rfl

/-- An execution counts once. -/
theorem Counts.execution (counts : metrics.Counts executions issues) (result : ExecutionResult) :
    (metrics.addAll result.measurements).Counts (executions ++ [result]) issues := by
  rw [addAll_measurements]
  constructor
  case statuses =>
    intro status
    rw [List.countP_append, ← counts.statuses status, List.countP_singleton]
    simp only [decide_eq_true_eq]
    exact countOf_bump status (Engine.statusOf result) metrics.executions
  case total =>
    rw [List.length_append, ← counts.total]
    exact sum_bump (Engine.statusOf result) metrics.executions
  case durations =>
    rw [List.length_append, ← counts.durations]
    rfl
  case firings =>
    rw [List.map_append, List.reverse_append, ← counts.firings]
    rfl
  case conflicts =>
    rw [List.map_append, List.sum_append, ← counts.conflicts]
    simp
  case issues => exact counts.issues

/-- An issue counts once. -/
theorem Counts.issue (counts : metrics.Counts executions issues) (issue : Issue) :
    (metrics.add issue.event).Counts executions (issues ++ [issue]) where
  statuses := counts.statuses
  total := counts.total
  durations := counts.durations
  firings := counts.firings
  conflicts := counts.conflicts
  issues kind severity := by
    rw [List.countP_append, ← counts.issues kind severity, List.countP_singleton]
    simp only [decide_eq_true_eq, ← Prod.mk.injEq]
    exact countOf_bump (kind, severity) (issue.kind, issue.severity) metrics.issues

/-- Reported issues are counted each once. -/
theorem Counts.issueEvents (counts : metrics.Counts executions issues) (more : List Issue) :
    (metrics.addAll (more.map Issue.event)).Counts executions (issues ++ more) := by
  induction more generalizing metrics issues with
  | nil => rwa [List.append_nil]
  | cons issue rest ih =>
      have counted := ih (counts.issue issue)
      rwa [List.append_assoc, List.singleton_append] at counted

theorem addAll_append (metrics : Metrics) (first second : List Event) :
    metrics.addAll (first ++ second) = (metrics.addAll first).addAll second := by
  induction first generalizing metrics with
  | nil => rfl
  | cons event rest ih => exact ih (metrics.add event)

/-! ### Samples -/

def named (metrics : Metrics) (name : String) : List Sample :=
  metrics.samples.filter (·.name = name)

/-- The value of the published sample with this name and these labels; a sample that is not shown
counts nothing. -/
def value (metrics : Metrics) (name : String) (labels : List (String × String)) : Nat :=
  (((metrics.named name).find? (·.labels = labels)).map (·.value)).getD 0

def total (metrics : Metrics) (name : String) : Nat := ((metrics.named name).map (·.value)).sum

end Metrics

theorem ExecutionStatus.spelling_inj {a b : ExecutionStatus} :
    a.spelling = b.spelling ↔ a = b := by
  cases a <;> cases b <;> decide

theorem IssueSeverity.spelling_inj {a b : IssueSeverity} : a.spelling = b.spelling ↔ a = b := by
  cases a <;> cases b <;> decide

theorem IssueKind.spelling_inj {a b : IssueKind} : a.spelling = b.spelling ↔ a = b := by
  cases a <;> cases b <;> decide

/-- Of samples with one name, all or none have the name that is looked for. -/
theorem filter_name {samples : List Sample} {own : String}
    (same : ∀ sample ∈ samples, sample.name = own) (name : String) :
    samples.filter (·.name = name) = if own = name then samples else [] := by
  split
  · rename_i found
    exact List.filter_eq_self.mpr fun sample member =>
      decide_eq_true ((same sample member).trans found)
  · rename_i other
    refine List.filter_eq_nil_iff.mpr fun sample member found => other ?_
    exact (same sample member).symm.trans (of_decide_eq_true found)

namespace Metrics

variable (metrics : Metrics)

/-- The samples of a name are those of the families that publish it. -/
theorem named_eq (name : String) : metrics.named name =
    (if "rulelang_executions_total" = name then metrics.executionFamily.samples else []) ++
    (if "rulelang_execution_duration_seconds_count" = name then metrics.durationFamily.samples
      else []) ++
    (if "rulelang_rule_firings_bucket" = name then metrics.firingBuckets else []) ++
    (if "rulelang_rule_firings_count" = name then
      [⟨"rulelang_rule_firings_count", [], metrics.firings.length⟩] else []) ++
    (if "rulelang_rule_firings_sum" = name then
      [⟨"rulelang_rule_firings_sum", [], metrics.firings.sum⟩] else []) ++
    (if "rulelang_dynamic_conflicts_total" = name then metrics.conflictFamily.samples else []) ++
    (if "rulelang_validation_issues_total" = name then metrics.issueFamily.samples else []) := by
  -- The samples are published family by family, and each family has names of its own.
  have samples : metrics.samples = metrics.executionFamily.samples ++
      metrics.durationFamily.samples ++ metrics.firingBuckets ++
      [⟨"rulelang_rule_firings_count", [], metrics.firings.length⟩] ++
      [⟨"rulelang_rule_firings_sum", [], metrics.firings.sum⟩] ++
      metrics.conflictFamily.samples ++ metrics.issueFamily.samples := by
    simp only [Metrics.samples, families, firingFamily, List.flatMap_cons, List.flatMap_nil,
      List.append_assoc, List.append_nil, List.cons_append, List.nil_append]
  have executions : ∀ sample ∈ metrics.executionFamily.samples,
      sample.name = "rulelang_executions_total" := List.forall_mem_map.mpr fun _ _ => rfl
  have buckets : ∀ sample ∈ metrics.firingBuckets, sample.name = "rulelang_rule_firings_bucket" :=
    List.forall_mem_append.mpr
      ⟨List.forall_mem_map.mpr fun _ _ => rfl, List.forall_mem_singleton.mpr rfl⟩
  have issues : ∀ sample ∈ metrics.issueFamily.samples,
      sample.name = "rulelang_validation_issues_total" := List.forall_mem_map.mpr fun _ _ => rfl
  have single : ∀ sample : Sample, ∀ other ∈ [sample], other.name = sample.name :=
    fun sample => List.forall_mem_singleton.mpr rfl
  rw [named, samples]
  simp only [List.filter_append]
  rw [filter_name executions, filter_name buckets, filter_name issues, durationFamily,
    conflictFamily, filter_name (single _), filter_name (single _), filter_name (single _),
    filter_name (single _)]

theorem named_executions :
    metrics.named "rulelang_executions_total" = metrics.executionFamily.samples := by
  simp only [named_eq, String.reduceEq, if_true, if_false, List.append_nil]

theorem named_issues :
    metrics.named "rulelang_validation_issues_total" = metrics.issueFamily.samples := by
  simp only [named_eq, String.reduceEq, if_true, if_false, List.nil_append]

theorem value_executions (status : ExecutionStatus) :
    metrics.value "rulelang_executions_total" [("status", status.spelling)] =
      countOf status metrics.executions := by
  rw [value, named_executions, executionFamily, countOf_eq_find?, List.find?_map, Option.map_map]
  simp [Function.comp_def, ExecutionStatus.spelling_inj]

theorem value_issues (kind : IssueKind) (severity : IssueSeverity) :
    metrics.value "rulelang_validation_issues_total"
        [("kind", kind.spelling), ("severity", severity.spelling)] =
      countOf (kind, severity) metrics.issues := by
  rw [value, named_issues, issueFamily, countOf_eq_find?, List.find?_map, Option.map_map]
  simp [Function.comp_def, IssueKind.spelling_inj, IssueSeverity.spelling_inj, Prod.ext_iff]

/-- The value of the only sample of a name, which has no labels. -/
theorem value_of_named {metrics : Metrics} {name : String} {count : Nat}
    (single : metrics.named name = [⟨name, [], count⟩]) : metrics.value name [] = count := by
  rw [value, single]
  rfl

theorem value_firingsCount :
    metrics.value "rulelang_rule_firings_count" [] = metrics.firings.length := by
  refine value_of_named ?_
  simp only [named_eq, String.reduceEq, if_true, if_false, List.nil_append, List.append_nil]

theorem value_firingsSum :
    metrics.value "rulelang_rule_firings_sum" [] = metrics.firings.sum := by
  refine value_of_named ?_
  simp only [named_eq, String.reduceEq, if_true, if_false, List.nil_append, List.append_nil]

/-- The histogram of durations is published with its own number of observations. -/
theorem value_durationCount :
    metrics.value "rulelang_execution_duration_seconds_count" [] = metrics.durations := by
  refine value_of_named ?_
  simp only [named_eq, String.reduceEq, if_true, if_false, List.nil_append, List.append_nil]
  rfl

theorem value_conflicts :
    metrics.value "rulelang_dynamic_conflicts_total" [] = metrics.conflicts := by
  refine value_of_named ?_
  simp only [named_eq, String.reduceEq, if_true, if_false, List.nil_append, List.append_nil]
  rfl

theorem total_executions :
    metrics.total "rulelang_executions_total" = (metrics.executions.map (·.2)).sum := by
  rw [total, named_executions, executionFamily, List.map_map]
  rfl

/-! ### The balance -/

/-- What the published samples say of executions and issues. Of executions, there are as many as
observations of their firings and of their durations, and each counts under one status; issues count
under their kind and severity. -/
structure Balance (metrics : Metrics) (executions : List ExecutionResult) (issues : List Issue) :
    Prop where
  total : metrics.total "rulelang_executions_total" = executions.length
  observed : metrics.value "rulelang_rule_firings_count" [] = executions.length
  timed : metrics.value "rulelang_execution_duration_seconds_count" [] = executions.length
  limited : metrics.value "rulelang_executions_total" [("status", "rule_limit")] =
    executions.countP fun result => result.hitRuleLimit
  failed : metrics.value "rulelang_executions_total" [("status", "constraint_failure")] =
    executions.countP fun result => result.constraintReport.hasErrors && !result.hitRuleLimit
  succeeded : metrics.value "rulelang_executions_total" [("status", "success")] =
    executions.countP fun result => result.success
  firings : metrics.value "rulelang_rule_firings_sum" [] = (executions.map (·.ruleFirings)).sum
  conflicts : metrics.value "rulelang_dynamic_conflicts_total" [] =
    (executions.map (·.conflictWarnings.length)).sum
  issues : ∀ kind severity, metrics.value "rulelang_validation_issues_total"
      [("kind", kind.spelling), ("severity", severity.spelling)] =
    issues.countP fun issue => issue.kind = kind ∧ issue.severity = severity

variable {metrics} {executions : List ExecutionResult} {issues : List Issue}

/-- The status of a coherent result is that of its flags. -/
theorem statusOf_iff {result : ExecutionResult} (coherent : result.Coherent) :
    (Engine.statusOf result = .ruleLimit ↔ result.hitRuleLimit = true) ∧
    (Engine.statusOf result = .constraintFailure ↔
      (result.constraintReport.hasErrors && !result.hitRuleLimit) = true) ∧
    (Engine.statusOf result = .success ↔ result.success = true) := by
  have success : result.success = !(result.constraintReport.hasErrors || result.hitRuleLimit) :=
    coherent
  rw [Engine.statusOf, success]
  cases result.hitRuleLimit <;> cases result.constraintReport.hasErrors <;> simp

/-- Metrics that count executions with coherent results balance. -/
theorem Counts.balance (counts : metrics.Counts executions issues)
    (coherent : ∀ result ∈ executions, result.Coherent) : metrics.Balance executions issues where
  total := metrics.total_executions.trans counts.total
  observed := by rw [value_firingsCount, counts.firings, List.length_reverse, List.length_map]
  timed := metrics.value_durationCount.trans counts.durations
  limited := by
    refine (metrics.value_executions .ruleLimit).trans ((counts.statuses _).trans ?_)
    refine List.countP_congr fun result member => ?_
    rw [decide_eq_true_eq]
    exact (statusOf_iff (coherent result member)).1
  failed := by
    refine (metrics.value_executions .constraintFailure).trans ((counts.statuses _).trans ?_)
    refine List.countP_congr fun result member => ?_
    rw [decide_eq_true_eq]
    exact (statusOf_iff (coherent result member)).2.1
  succeeded := by
    refine (metrics.value_executions .success).trans ((counts.statuses _).trans ?_)
    refine List.countP_congr fun result member => ?_
    rw [decide_eq_true_eq]
    exact (statusOf_iff (coherent result member)).2.2
  firings := by rw [value_firingsSum, counts.firings, List.sum_reverse]
  conflicts := metrics.value_conflicts.trans counts.conflicts
  issues kind severity := (metrics.value_issues kind severity).trans (counts.issues kind severity)

end Metrics

end Rulebook
