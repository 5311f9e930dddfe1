import Rulebook.Proofs.Run.Conflicts

/-!
The trace and the summary of a run.

What the actions of a run give is shown twice: rule by rule in the trace, and all together in the
log, the issues and the warnings of the result. The reports of a single action agree, whichever
way it ends (`Effect.coherent`), and nothing of an action is lost or told twice on the way into
either place, so the trace and the summary agree (`run_summary_agrees`).
-/

namespace Rulebook

/-- The log entry is that of the action which the trace shows. -/
structure ActionLog.Tells (log : ActionLog) (trace : ActionTrace) : Prop where
  actionId : log.actionId = trace.actionId
  ruleId : log.ruleId = trace.ruleId
  kind : log.kind = trace.action.kind
  path : log.path = trace.path

def ExecutionResult.shownActions (result : ExecutionResult) : List ActionTrace :=
  result.trace.flatMap (·.actionsApplied)

/-! ### One action -/

/-- What is reported of an action agrees: it is logged exactly if it was applied, and it is warned
of its issues. -/
structure ActionOutcome.Coherent (outcome : ActionOutcome) : Prop where
  logged : List.Forall₂ ActionLog.Tells outcome.log.toList ([outcome.trace].filter (·.applied))
  warned : outcome.warnings = outcome.issues.map (·.message)

namespace Effect

variable {catalog : Catalog} {live : Bool} {workspace next : Workspace} {action : Action}
  {now : Writer} {outcome : ActionOutcome}

theorem coherent (effect : Effect catalog live workspace action now outcome next) :
    outcome.Coherent := by
  have written : ∀ path before after issues conflict,
      (action.writeOutcome live now path before after issues conflict).Coherent := by
    intro path before after issues conflict
    refine ⟨?_, ?_⟩
    · cases live
      · exact .nil
      · exact .cons ⟨rfl, rfl, rfl, rfl⟩ .nil
    · cases conflict <;> simp [Action.writeOutcome, conflictIssue]
  cases effect with
  | refused => exact ⟨.nil, rfl⟩
  | event =>
      refine ⟨?_, rfl⟩
      cases live
      · exact .nil
      · exact .cons ⟨rfl, rfl, rfl, rfl⟩ .nil
  | field => exact written ..
  | route => exact written ..

end Effect

/-! ### Actions one after another -/

section Outcomes

variable {outcomes : List ActionOutcome}

/-- The journal has an entry for each applied action, in the same order. -/
theorem journalOf_tells (coherent : ∀ outcome ∈ outcomes, outcome.Coherent) :
    List.Forall₂ ActionLog.Tells (journalOf outcomes)
      ((outcomes.map (·.trace)).filter (·.applied)) := by
  induction outcomes with
  | nil => exact .nil
  | cons outcome rest ih =>
      obtain ⟨first, later⟩ := List.forall_mem_cons.mp coherent
      have parts : (outcome :: rest).map (·.trace) = [outcome.trace] ++ rest.map (·.trace) := rfl
      rw [← List.singleton_append, journalOf_append, journalOf_singleton, List.singleton_append,
        parts, List.filter_append]
      exact List.rel_append first.logged (ih later)

theorem warnings_eq_messages (coherent : ∀ outcome ∈ outcomes, outcome.Coherent) :
    outcomes.flatMap (·.warnings) = (outcomes.flatMap (·.issues)).map (·.message) := by
  rw [List.map_flatMap]
  exact List.flatMap_congr fun outcome member => (coherent outcome member).warned

end Outcomes

/-- Actions are numbered on, in a dry run as in a live one. -/
theorem Acted.numbered {context : RunContext} {count : Nat} {before after : Workspace}
    {outcomes : List ActionOutcome} (acted : Acted context count before outcomes after) :
    outcomes.map (·.trace.actionId) = (List.range' (count + 1) outcomes.length).map actionId := by
  induction acted with
  | done => rfl
  | step _ _ applied _ ih =>
      rw [List.map_cons, ih, (Action.apply_eq_ok_iff.mp applied).actionId_eq]
      rfl

/-! ### Runs -/

section Runs

variable {context : RunContext} {number : Nat} {before : Progress} {execution : Execution}

theorem RunRan.coherent (ran : RunRan context number before execution) :
    ∀ outcome ∈ execution.outcomes, outcome.Coherent :=
  ran.forall_outcome fun _ _ _ _ _ _ _ acted => (Action.apply_eq_ok_iff.mp acted).coherent

/-- A step shows the warnings of the outcomes that it has. -/
theorem RunRan.warns (ran : RunRan context number before execution) :
    ∀ step ∈ execution.steps, step.trace.warnings = step.outcomes.flatMap (·.warnings) :=
  ran.forall_mem (fun _ _ _ _ => rfl) fun _ _ _ => rfl

/-- A result shows the actions of its execution. -/
theorem RunRan.shownActions_eq (ran : RunRan context number before execution)
    (report : ConstraintReport) (tests : Option (List ExampleResult)) :
    (Engine.resultOf execution report tests).shownActions = execution.outcomes.map (·.trace) := by
  show (execution.steps.map (·.trace)).flatMap (·.actionsApplied) = _
  rw [List.flatMap_map, Execution.outcomes, List.map_flatMap]
  exact List.flatMap_congr ran.shows

/-- Its warnings are those of its outcomes. -/
theorem RunRan.warnings_eq (ran : RunRan context number before execution) :
    (execution.steps.map (·.trace)).flatMap (·.warnings) =
      execution.outcomes.flatMap (·.warnings) := by
  rw [List.flatMap_map, Execution.outcomes, List.flatMap_assoc]
  exact List.flatMap_congr ran.warns

end Runs

/-- The trace of a run and its summary agree. The actions in the trace are numbered from one on.
The firings are the entries of rules that have matched and were not skipped. The log has an entry
for each applied action of the trace and no others, in the same order. The warnings of the trace
are the messages of the issues, in order, and those of conflicts are the messages of the issues
about conflicts. -/
theorem run_summary_agrees (engine : Engine) (program : Program) (payload : Value)
    (options : ExecutionOptions) (result : ExecutionResult)
    (returned : (engine.run program payload options).result = .ok result) :
    result.shownActions.map (·.actionId) =
        (List.range' 1 result.shownActions.length).map actionId ∧
      (result.shownActions.map (·.actionId)).Nodup ∧
      result.ruleFirings = result.trace.countP (fun entry => entry.matched && !entry.skipped) ∧
      List.Forall₂ ActionLog.Tells result.actions (result.shownActions.filter (·.applied)) ∧
      result.trace.flatMap (·.warnings) = result.issues.map (·.message) ∧
      result.conflictWarnings =
        (result.issues.filter (·.kind == .dynamicConflict)).map (·.message) := by
  obtain ⟨start, execution, report, tests, _, executed, _, _, rfl⟩ :=
    Engine.runWith_eq_ok_iff.mp returned
  have ran := (Engine.execute_eq_ok_iff.mp executed).1
  -- Identifiers are given out in the order in which actions are shown.
  have numbered : (execution.outcomes.map (·.trace)).map (·.actionId) =
      (List.range' 1 execution.outcomes.length).map actionId := by
    rw [List.map_map]
    exact ran.acted.numbered
  rw [ran.shownActions_eq, List.length_map]
  refine ⟨numbered, ?_, ?_, journalOf_tells ran.coherent, ?_, ?_⟩
  · rw [numbered]
    exact (List.nodup_range' 1).map actionId_injective
  · show execution.progress.firings = (execution.steps.map (·.trace)).countP _
    rw [ran.firings_eq, Progress.start, Nat.zero_add, List.countP_map]
    rfl
  · exact ran.warnings_eq.trans (warnings_eq_messages ran.coherent)
  · exact (conflict_messages fun _ _ _ split => (split ▸ ran.acted).reportsConflict).symm

/-- A rule copies a text that is not there, counts twice and cuts off the other rule. -/
def relayProgram : Program :=
  .plain "relay" [("text", .string), ("copy", .string), ("count", .number)]
    [{ Rule.plain "copy" 2 (.not (.present ⟨"relay.text", none⟩))
        [.set "relay.copy" (.fact ⟨"relay.text", none⟩), .increment "relay.count" (.int 1),
          .increment "relay.count" (.int 1)] [] with stopProcessing := true },
      .plain "rest" 1 (.present ⟨"relay.count", none⟩) [.emit "counted" []] []]

theorem relayProgram_sorted : sortRules relayProgram.rules = relayProgram.rules :=
  List.mergeSort_of_pairwise (by decide +kernel)

/-- The trace of the relay program shows a refused action, one in conflict and a skipped rule. -/
theorem relay_summary_agrees :
    ∃ result, ((⟨.default, 1⟩ : Engine).run relayProgram (.record []) .once).result =
        .ok result ∧
      (result.trace.map (fun entry => (entry.matched, entry.skipped)) =
          [(true, false), (true, true)] ∧
        result.shownActions.map (fun trace => (trace.applied, trace.conflict)) =
          [(false, false), (true, false), (true, true)]) ∧
      result.ruleFirings = result.trace.countP (fun entry => entry.matched && !entry.skipped) ∧
      List.Forall₂ ActionLog.Tells result.actions (result.shownActions.filter (·.applied)) ∧
      result.trace.flatMap (·.warnings) = result.issues.map (·.message) := by
  have returns : returnsWith (fun result =>
      decide (result.trace.map (fun entry => (entry.matched, entry.skipped)) =
          [(true, false), (true, true)] ∧
        result.shownActions.map (fun trace => (trace.applied, trace.conflict)) =
          [(false, false), (true, false), (true, true)]))
      ((⟨.default, 1⟩ : Engine).run relayProgram (.record []) .once).result = true := by
    simp only [Engine.run, Engine.runWith, Engine.execute, Engine.context, relayProgram_sorted]
    decide +kernel
  obtain ⟨result, returned, shown⟩ := eq_ok_of_returnsWith returns
  obtain ⟨_, _, firings, logged, warned, _⟩ := run_summary_agrees _ _ _ _ result returned
  exact ⟨result, returned, of_decide_eq_true shown, firings, logged, warned⟩

end Rulebook
