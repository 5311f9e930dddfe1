import Mathlib.Data.List.Dedup
import Rulebook.Proofs.Check.Agreement
import Rulebook.Proofs.Run.Acted

/-!
Reported conflicts.

A write is a route, or a write to a field that was not refused; it counts in a dry run as in a
live one. The tracker of a run holds the writes so far, the latest first
(`Acted.tracker_writes`). So an action is in conflict exactly when it writes where an earlier
action of the run has written, and is warned of the last one that has (`run_conflicts_exact`).
-/

namespace Rulebook

/-! ### Writes -/

namespace ActionOutcome

/-- The action was a write: a route, or a write to a field that was not refused. -/
def isWrite (outcome : ActionOutcome) : Bool :=
  match outcome.trace.action with
  | .emit .. => false
  | .route .. => true
  | .set .. | .increment .. | .append .. => !outcome.refused

def written? (outcome : ActionOutcome) : Option String :=
  if outcome.isWrite then outcome.trace.path else none

def writer (outcome : ActionOutcome) : Writer := ⟨outcome.trace.ruleId, outcome.trace.actionId⟩

def record? (outcome : ActionOutcome) : Option (String × Writer) :=
  outcome.written?.map (·, outcome.writer)

end ActionOutcome

def writtenPaths (outcomes : List ActionOutcome) : List String :=
  outcomes.filterMap (·.written?)

/-- Of these outcomes `prior` is the last that has written to the path. -/
def LastWrite (path : String) (outcomes : List ActionOutcome) (prior : ActionOutcome) : Prop :=
  ∃ before between, outcomes = before ++ prior :: between ∧ prior.written? = some path ∧
    ∀ outcome ∈ between, outcome.written? ≠ some path

/-- Searching backwards finds the last write to the path. -/
theorem lastWrite_iff {path : String} {outcomes : List ActionOutcome} {prior : ActionOutcome} :
    outcomes.reverse.find? (·.written? == some path) = some prior ↔
      LastWrite path outcomes prior := by
  rw [List.find?_eq_some_iff_append]
  constructor
  · rintro ⟨wrote, between, before, parts, quiet⟩
    refine ⟨before.reverse, between.reverse, ?_, eq_of_beq wrote, fun outcome member => ?_⟩
    · rw [← List.reverse_reverse outcomes, parts]
      simp
    · simpa using quiet outcome (List.mem_reverse.mp member)
  · rintro ⟨before, between, rfl, wrote, quiet⟩
    refine ⟨beq_iff_eq.mpr wrote, between.reverse, before.reverse, by simp, ?_⟩
    intro outcome member
    simpa using quiet outcome (List.mem_reverse.mp member)

/-- There is a last write where there is one at all. -/
theorem exists_lastWrite_iff {path : String} {outcomes : List ActionOutcome} :
    (∃ prior, LastWrite path outcomes prior) ↔ path ∈ writtenPaths outcomes := by
  simp [← lastWrite_iff, ← Option.isSome_iff_exists, writtenPaths]

/-- The tracker finds the writer of the first outcome that has written to the path. -/
theorem lookup_records (path : String) (outcomes : List ActionOutcome) :
    (outcomes.filterMap (·.record?)).lookup path =
      (outcomes.find? (·.written? == some path)).map (·.writer) := by
  induction outcomes with
  | nil => rfl
  | cons outcome rest ih =>
      cases written : outcome.written? with
      | none =>
          have unrecorded : outcome.record? = none := by rw [ActionOutcome.record?, written]; rfl
          rw [List.filterMap_cons_none unrecorded, List.find?_cons_of_neg (by simp [written]), ih]
      | some other =>
          have recorded : outcome.record? = some (other, outcome.writer) := by
            rw [ActionOutcome.record?, written]
            rfl
          rw [List.filterMap_cons_some recorded]
          by_cases same : path = other
          · rw [List.find?_cons_of_pos (by simp [written, same]), same, List.lookup_cons_self]
            rfl
          · have differs : (path == other) = false := beq_false_of_ne same
            rw [List.find?_cons_of_neg (by simp [written, Ne.symm same]), ← ih]
            rw [List.lookup_cons, differs]

/-! ### One action -/

section Issues

variable {catalog : Catalog} {store : Store} {ruleId : String} {action : Action}

/-- A write to a field reports no more by itself than that a unit is missing. -/
theorem Writes.kind_of_mem {target : String} {before : Option Value} {after : Value}
    {issues : List Issue} (writes : Writes catalog store ruleId action target before after issues) :
    ∀ issue ∈ issues, issue.kind = .unitMissing := by
  obtain ⟨found, checked, rfl⟩ := writes.inlineCheck_found
  intro issue member
  obtain ⟨origin, rfl, rfl⟩ := Option.map_eq_some_iff.mp (Option.mem_toList.mp member)
  rw [Issue.forRules_kind]
  exact (Action.inlineCheck_soft checked).2

/-- What an action is refused for is no conflict of writes. -/
theorem Plan.kind_of_refuse {target : String} {issue : Issue}
    (planned : ofAction catalog store ruleId action = .ok (.refuse target issue)) :
    issue.kind ≠ .dynamicConflict := by
  rcases refusal_cases planned with ⟨e, _, rfl⟩ | ⟨_, task, goal, source, rfl⟩
  · rw [CheckError.issue_kind]
    cases e.kind <;> nofun
  · nofun

end Issues

/-- What is reported of an action, by the writers that the tracker has. -/
structure Reports (tracker : WriteTracker) (outcome : ActionOutcome) : Prop where
  conflict : outcome.conflict = outcome.written?.bind fun path =>
    (tracker.writer? path).map (WriteTracker.conflictWarning path · outcome.writer)
  flag : outcome.trace.conflict = outcome.conflict.isSome
  issues : outcome.issues.filter (·.kind == .dynamicConflict) =
    (outcome.trace.path.bind fun path =>
      outcome.conflict.map (conflictIssue path outcome.trace.ruleId)).toList

namespace Effect

variable {catalog : Catalog} {live : Bool} {workspace next : Workspace} {action : Action}
  {now : Writer} {outcome : ActionOutcome}

/-- The tracker has the writes, and no more than these. -/
theorem records (effect : Effect catalog live workspace action now outcome next) :
    next.tracker.writes = outcome.record?.toList ++ workspace.tracker.writes := by
  cases effect with
  | refused planned =>
      cases Planned.of_eq planned with
      | refuse refuses => cases refuses <;> rfl
  | event planned =>
      cases Planned.of_eq planned with
      | event => rfl
  | field planned _ => cases Writes.of_planned planned <;> rfl
  | route planned =>
      cases Planned.of_eq planned with
      | route => rfl

/-- What is reported of a write is that recording it has found an earlier one. -/
theorem reports (effect : Effect catalog live workspace action now outcome next) :
    Reports workspace.tracker outcome := by
  -- of a write's issues only the last is of a conflict
  have told : ∀ {issues : List Issue} (path : String) (conflict : Option String),
      (∀ issue ∈ issues, issue.kind = .unitMissing) →
      (issues ++ (conflict.map (conflictIssue path now.ruleId)).toList).filter
        (·.kind == .dynamicConflict) = (conflict.map (conflictIssue path now.ruleId)).toList := by
    intro issues path conflict units
    have quiet : issues.filter (·.kind == .dynamicConflict) = [] :=
      List.filter_eq_nil_iff.mpr fun issue member => by simp [units issue member]
    rw [List.filter_append, quiet, List.nil_append]
    cases conflict <;> rfl
  cases effect with
  | refused planned =>
      have foreign := beq_false_of_ne (Plan.kind_of_refuse planned)
      cases Planned.of_eq planned with
      | refuse refuses =>
          refine ⟨?_, rfl, List.filter_singleton.trans (by rw [foreign]; rfl)⟩
          cases refuses <;> rfl
  | event planned =>
      cases Planned.of_eq planned with
      | event => exact ⟨rfl, rfl, rfl⟩
  | field planned _ =>
      have writes := Writes.of_planned planned
      refine ⟨?_, rfl, told _ _ writes.kind_of_mem⟩
      cases writes <;> rfl
  | route planned =>
      cases Planned.of_eq planned with
      | route => exact ⟨rfl, rfl, told _ _ (by simp)⟩

/-- A write has a path. -/
theorem writes_somewhere (effect : Effect catalog live workspace action now outcome next)
    (wrote : outcome.isWrite = true) : outcome.trace.path.isSome = true := by
  cases effect with
  | refused => rfl
  | event planned =>
      cases Planned.of_eq planned with
      | event => cases wrote
  | field => rfl
  | route => rfl

end Effect

/-! ### Runs -/

namespace ActionOutcome

/-- After these outcomes of the run, the outcome reports a conflict exactly when it should: it is
a write to a path that was written before, and its warning names the last write there. -/
structure ReportsConflict (earlier : List ActionOutcome) (outcome : ActionOutcome) : Prop where
  flagged : outcome.trace.conflict = true ↔
    ∃ path, outcome.written? = some path ∧ path ∈ writtenPaths earlier
  warned : ∀ warning, outcome.conflict = some warning ↔ ∃ path prior,
    outcome.written? = some path ∧ LastWrite path earlier prior ∧
      warning = WriteTracker.conflictWarning path prior.writer outcome.writer
  reported : outcome.issues.filter (·.kind == .dynamicConflict) =
    (outcome.trace.path.bind fun path =>
      outcome.conflict.map (conflictIssue path outcome.trace.ruleId)).toList

/-- A write is warned of exactly if its path was written before. -/
theorem ReportsConflict.isSome_conflict {earlier : List ActionOutcome} {outcome : ActionOutcome}
    (reports : outcome.ReportsConflict earlier) {path : String}
    (written : outcome.written? = some path) :
    outcome.conflict.isSome = true ↔ path ∈ writtenPaths earlier := by
  rw [Option.isSome_iff_exists, ← exists_lastWrite_iff]
  constructor
  · rintro ⟨warning, conflict⟩
    obtain ⟨other, prior, wrote, last, _⟩ := (reports.warned warning).mp conflict
    cases written.symm.trans wrote
    exact ⟨prior, last⟩
  · rintro ⟨prior, last⟩
    exact ⟨_, (reports.warned _).mpr ⟨path, prior, written, last, rfl⟩⟩

/-- What is warned of is a write. -/
theorem ReportsConflict.path_eq {earlier : List ActionOutcome} {outcome : ActionOutcome}
    (reports : outcome.ReportsConflict earlier) {warning : String}
    (conflict : outcome.conflict = some warning) :
    ∃ path, outcome.written? = some path ∧ outcome.trace.path = some path := by
  obtain ⟨path, _, written, _⟩ := (reports.warned warning).mp conflict
  refine ⟨path, written, ?_⟩
  unfold written? at written
  split at written
  · exact written
  · cases written

end ActionOutcome

/-- A tracker that holds the writes so far makes for exact reports. -/
theorem Reports.exact {tracker : WriteTracker} {earlier : List ActionOutcome}
    {outcome : ActionOutcome} (reports : Reports tracker outcome)
    (held : tracker.writes = (earlier.filterMap (·.record?)).reverse) :
    outcome.ReportsConflict earlier := by
  -- The tracker holds the earlier writes, the last one first, and is asked for the first of them.
  have warned : ∀ warning, outcome.conflict = some warning ↔ ∃ path prior,
      outcome.written? = some path ∧ LastWrite path earlier prior ∧
        warning = WriteTracker.conflictWarning path prior.writer outcome.writer := by
    intro warning
    simp only [reports.conflict, WriteTracker.writer?, held, ← List.filterMap_reverse,
      lookup_records, Option.bind_eq_some_iff, Option.map_eq_some_iff, lastWrite_iff]
    constructor
    · rintro ⟨path, written, _, ⟨prior, last, rfl⟩, rfl⟩
      exact ⟨path, prior, written, last, rfl⟩
    · rintro ⟨path, prior, written, last, rfl⟩
      exact ⟨path, written, _, ⟨prior, last, rfl⟩, rfl⟩
  refine ⟨?_, warned, reports.issues⟩
  rw [reports.flag, Option.isSome_iff_exists]
  constructor
  · rintro ⟨warning, conflict⟩
    obtain ⟨path, prior, written, last, _⟩ := (warned warning).mp conflict
    exact ⟨path, written, exists_lastWrite_iff.mp ⟨prior, last⟩⟩
  · rintro ⟨path, written, member⟩
    obtain ⟨prior, last⟩ := exists_lastWrite_iff.mpr member
    exact ⟨_, (warned _).mpr ⟨path, prior, written, last, rfl⟩⟩

section Acted

variable {context : RunContext} {count : Nat} {before after : Workspace}
  {outcomes : List ActionOutcome}

/-- The tracker holds the writes, the latest first. -/
theorem Acted.records (acted : Acted context count before outcomes after) :
    after.tracker.writes = (outcomes.filterMap (·.record?)).reverse ++ before.tracker.writes := by
  induction acted with
  | done => rfl
  | @step _ _ _ _ outcome _ _ _ _ _ applied _ ih =>
      rw [ih, (Action.apply_eq_ok_iff.mp applied).records, ← List.append_assoc]
      congr 1
      cases record : outcome.record? <;> simp [record]

/-- Every action of a run reports a conflict exactly when it should. -/
theorem Acted.reportsConflict {start : Store} {earlier later : List ActionOutcome}
    {outcome : ActionOutcome}
    (acted : Acted context 0 ⟨start, .empty⟩ (earlier ++ outcome :: later) after) :
    outcome.ReportsConflict earlier := by
  obtain ⟨middle, one, two⟩ := Acted.append_iff.mp acted
  have held := one.records
  rw [WriteTracker.empty, List.append_nil] at held
  cases two with
  | step _ _ applied _ => exact (Action.apply_eq_ok_iff.mp applied).reports.exact held

end Acted

section Reports

variable {outcomes : List ActionOutcome}
  (exact : ∀ earlier outcome later, outcomes = earlier ++ outcome :: later →
    outcome.ReportsConflict earlier)

include exact

/-- With every report exact, there is one for each write to a path that was written before. -/
theorem count_conflicts :
    (outcomes.filterMap (·.conflict)).length + (writtenPaths outcomes).dedup.length =
      (writtenPaths outcomes).length := by
  induction outcomes using List.reverseRecOn with
  | nil => rfl
  | append_singleton earlier outcome ih =>
      have before := ih fun first other rest split =>
        exact first other (rest ++ [outcome]) (by rw [split]; simp)
      have reports := exact earlier outcome [] rfl
      have paths : writtenPaths (earlier ++ [outcome]) =
          writtenPaths earlier ++ outcome.written?.toList := filterMap_concat ..
      rw [paths, filterMap_concat, List.length_append, List.length_append]
      cases written : outcome.written? with
      | none =>
          have silent : outcome.conflict = none := by
            refine Option.eq_none_iff_forall_ne_some.mpr fun warning conflict => ?_
            obtain ⟨_, wrote, _⟩ := reports.path_eq conflict
            cases written.symm.trans wrote
          simpa [silent] using before
      | some path =>
          have turned := (List.perm_append_singleton path (writtenPaths earlier)).dedup.length_eq
          simp only [Option.toList_some, List.length_singleton, turned]
          -- A write conflicts just when its path is not a new one.
          by_cases member : path ∈ writtenPaths earlier
          · obtain ⟨warning, conflict⟩ :=
              Option.isSome_iff_exists.mp ((reports.isSome_conflict written).mpr member)
            rw [List.dedup_cons_of_mem member, conflict, Option.toList_some, List.length_singleton]
            omega
          · have silent : outcome.conflict = none :=
              Option.not_isSome_iff_eq_none.mp (mt (reports.isSome_conflict written).mp member)
            rw [List.dedup_cons_of_notMem member, silent, Option.toList_none]
            simp only [List.length_cons, List.length_nil]
            omega

/-- With every report exact, the issues of conflicts carry the warnings. -/
theorem conflict_messages :
    ((outcomes.flatMap (·.issues)).filter (·.kind == .dynamicConflict)).map (·.message) =
      outcomes.filterMap (·.conflict) := by
  have each : ∀ outcome ∈ outcomes,
      (outcome.issues.filter (·.kind == .dynamicConflict)).map (·.message) =
        outcome.conflict.toList := by
    intro outcome member
    obtain ⟨earlier, later, split⟩ := List.append_of_mem member
    have reports := exact earlier outcome later split
    rw [reports.reported]
    cases conflict : outcome.conflict with
    | none => cases outcome.trace.path <;> rfl
    | some warning =>
        obtain ⟨path, _, shown⟩ := reports.path_eq conflict
        rw [shown]
        rfl
  rw [List.filter_flatMap, List.map_flatMap, List.flatMap_congr each]
  exact (List.filterMap_eq_flatMap_toList ..).symm

end Reports

theorem RunRan.writes_somewhere {context : RunContext} {number : Nat} {before : Progress}
    {execution : Execution} (ran : RunRan context number before execution) :
    ∀ outcome ∈ execution.outcomes, outcome.isWrite = true → outcome.trace.path.isSome = true :=
  ran.forall_outcome fun _ _ _ _ _ _ _ acted => (Action.apply_eq_ok_iff.mp acted).writes_somewhere

/-- The writes are counted by their paths. -/
theorem length_writtenPaths {outcomes : List ActionOutcome}
    (placed : ∀ outcome ∈ outcomes, outcome.isWrite = true → outcome.trace.path.isSome = true) :
    (writtenPaths outcomes).length = outcomes.countP (·.isWrite) := by
  rw [writtenPaths, List.length_filterMap_eq_countP]
  refine List.countP_congr fun outcome member => ?_
  unfold ActionOutcome.written?
  by_cases wrote : outcome.isWrite = true
  · simp [wrote, placed outcome member wrote]
  · simp [wrote]

/-- Conflicts are reported exactly, in a live run as in a dry one. An action of the run is in
conflict when it writes where an earlier action has written, and its warning names the last one
that has. The result has these warnings in the order of the actions, one for each write that is
not the first to its path, and an issue for each of them. -/
theorem run_conflicts_exact (engine : Engine) (program : Program) (payload : Value)
    (options : ExecutionOptions) (result : ExecutionResult)
    (returned : (engine.run program payload options).result = .ok result) :
    ∃ start execution, Store.ofPayload payload = .ok start ∧
      (engine.execute program start options).result = .ok execution ∧
      result.trace.flatMap (·.actionsApplied) = execution.outcomes.map (·.trace) ∧
      (∀ earlier outcome later, execution.outcomes = earlier ++ outcome :: later →
        outcome.ReportsConflict earlier) ∧
      result.conflictWarnings = execution.outcomes.filterMap (·.conflict) ∧
      result.conflictWarnings.length + (writtenPaths execution.outcomes).dedup.length =
        execution.outcomes.countP (·.isWrite) ∧
      (result.issues.filter (·.kind == .dynamicConflict)).map (·.message) =
        result.conflictWarnings := by
  obtain ⟨start, execution, report, tests, taken, executed, _, _, rfl⟩ :=
    Engine.runWith_eq_ok_iff.mp returned
  have ran := (Engine.execute_eq_ok_iff.mp executed).1
  have shown : (execution.steps.map (·.trace)).flatMap (·.actionsApplied) =
      execution.outcomes.map (·.trace) := by
    rw [List.flatMap_map, Execution.outcomes, List.map_flatMap]
    exact List.flatMap_congr ran.shows
  have exact : ∀ earlier outcome later, execution.outcomes = earlier ++ outcome :: later →
      outcome.ReportsConflict earlier :=
    fun earlier outcome later split => (split ▸ ran.acted).reportsConflict
  refine ⟨start, execution, taken, executed, shown, exact, rfl, ?_, conflict_messages exact⟩
  rw [← length_writtenPaths ran.writes_somewhere]
  exact count_conflicts exact

/-- In the ticket program the count is written by both rules. -/
theorem ticket_conflict_exact :
    ∃ result, ((⟨.default, 1⟩ : Engine).run ticketProgram ticketPayload .once).result =
        .ok result ∧
      result.conflictWarnings =
        ["Conflict on ticket.count: previously written by take (act-2), now by close (act-6)."] ∧
      ∃ start execution, Store.ofPayload ticketPayload = .ok start ∧
        ((⟨.default, 1⟩ : Engine).execute ticketProgram start .once).result = .ok execution ∧
        result.trace.flatMap (·.actionsApplied) = execution.outcomes.map (·.trace) ∧
        (∀ earlier outcome later, execution.outcomes = earlier ++ outcome :: later →
          outcome.ReportsConflict earlier) ∧
        result.conflictWarnings = execution.outcomes.filterMap (·.conflict) ∧
        result.conflictWarnings.length + (writtenPaths execution.outcomes).dedup.length =
          execution.outcomes.countP (·.isWrite) ∧
        (result.issues.filter (·.kind == .dynamicConflict)).map (·.message) =
          result.conflictWarnings := by
  have returns : returnsWith (fun result => decide (result.conflictWarnings =
      ["Conflict on ticket.count: previously written by take (act-2), now by close (act-6)."]))
      ((⟨.default, 1⟩ : Engine).run ticketProgram ticketPayload .once).result = true := by
    simp only [Engine.run, Engine.runWith, Engine.execute, Engine.context, ticketProgram_sorted]
    decide +kernel
  obtain ⟨result, returned, warned⟩ := eq_ok_of_returnsWith returns
  exact ⟨result, returned, of_decide_eq_true warned, run_conflicts_exact _ _ _ _ result returned⟩

end Rulebook
