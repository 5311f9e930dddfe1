import Rulebook.Proofs.Run.Acted

/-!
Dry runs.

A dry run plans every action and commits none. No action of it changes the facts, so each
condition is evaluated on those that the run has started from, no pass has changed anything,
and there is no second one (`dry_run_touches_nothing`).
-/

namespace Rulebook

/-- A dry action leaves the facts as they are and shows that it was not applied. -/
theorem Effect.untouched_of_dry {catalog : Catalog} {workspace next : Workspace}
    {action : Action} {now : Writer} {outcome : ActionOutcome}
    (effect : Effect catalog false workspace action now outcome next) :
    next.store = workspace.store ∧ outcome.trace.applied = false ∧ outcome.log = none := by
  cases effect <;> exact ⟨rfl, rfl, rfl⟩

section Runs

variable {context : RunContext} (dry : context.options.enableActions = false)

include dry

/-- Dry actions leave the store as it was and mutate nothing. -/
theorem Acted.untouched_of_dry {count : Nat} {before after : Workspace}
    {outcomes : List ActionOutcome} (acted : Acted context count before outcomes after) :
    after.store = before.store ∧
      ∀ outcome ∈ outcomes, outcome.trace.applied = false ∧ outcome.log = none := by
  induction acted with
  | done => exact ⟨rfl, fun _ member => nomatch member⟩
  | step _ _ applied _ ih =>
      rw [dry, Action.apply_eq_ok_iff] at applied
      obtain ⟨same, shown⟩ := applied.untouched_of_dry
      exact ⟨ih.1.trans same, List.forall_mem_cons.mpr ⟨shown, ih.2⟩⟩

/-- In a dry pass every condition is evaluated on the facts at its start, also after a stop. -/
theorem PassRan.evaluated_dry {number : Nat} {rules : List Rule} {before after : Progress}
    {pass : Pass} (ran : PassRan context number rules before pass after)
    (ruled : ∀ rule ∈ rules, rule ∈ context.rules) :
    List.Forall₂ (fun rule step => step.trace.ruleId = rule.id ∧ step.trace.passNumber = number ∧
      rule.condition.evaluate before.workspace.store = .ok step.trace.why)
      (rules.take pass.steps.length) pass.steps := by
  induction ran with
  | done => exact .nil
  | next first _ _ ih =>
      obtain ⟨here, there⟩ := List.forall_mem_cons.mp ruled
      have later := ih there
      -- Nothing was written, so the next rules see the same store.
      rw [((first.actedOn here).acted.untouched_of_dry dry).1] at later
      exact .cons ⟨rfl, rfl, first.evaluated⟩ later
  | capped first => exact .cons ⟨rfl, rfl, first.evaluated⟩ .nil
  | stopped first _ skipped =>
      obtain ⟨here, _⟩ := List.forall_mem_cons.mp ruled
      rw [((first.actedOn here).acted.untouched_of_dry dry).1] at skipped
      refine .cons ⟨rfl, rfl, first.evaluated⟩ ?_
      rw [List.take_of_length_le skipped.length_eq.le]
      refine skipped.imp fun rule step shown => ?_
      obtain ⟨why, evaluated, rfl⟩ := shown
      exact ⟨rfl, rfl, evaluated⟩

/-- A dry pass has changed nothing and is the last one. -/
theorem PassRan.not_continues_dry {number : Nat} {before after : Progress} {pass : Pass}
    (ran : PassRan context number context.rules before pass after) :
    pass.continues context.options = false := by
  have unapplied := ((ran.actedOn fun _ => id).acted.untouched_of_dry dry).2
  have unchanged : pass.mutated = false := by
    refine List.any_eq_false.mpr fun step among => ?_
    refine Bool.eq_false_iff.mp (List.any_eq_false.mpr fun outcome inside => ?_)
    have shown := (unapplied outcome (List.mem_flatMap.mpr ⟨step, among, inside⟩)).1
    simp [ActionOutcome.mutated, shown]
  simp [Pass.continues, unchanged]

end Runs

/-- A dry run touches nothing: its final state is the one that it has started from, no action is
logged or shown as applied, there is one pass even if the run is to loop, and what a trace entry
shows, skipped or not, is how the condition of its rule comes out on the facts of the payload. -/
theorem dry_run_touches_nothing (engine : Engine) (program : Program) (payload : Value)
    (options : ExecutionOptions) (result : ExecutionResult)
    (dry : options.enableActions = false)
    (returned : (engine.run program payload options).result = .ok result) :
    ∃ start execution, Store.ofPayload payload = .ok start ∧
      (engine.execute program start options).result = .ok execution ∧
      result.resultState = start.snapshot ∧ result.actions = [] ∧
      (∀ entry ∈ result.trace, ∀ action ∈ entry.actionsApplied, action.applied = false) ∧
      execution.passes = 1 ∧
      List.Forall₂ (fun rule entry => entry.ruleId = rule.id ∧ entry.passNumber = 1 ∧
        rule.condition.evaluate start = .ok entry.why)
        ((sortRules program.rules).take result.trace.length) result.trace := by
  obtain ⟨start, execution, report, tests, taken, executed, _, _, rfl⟩ :=
    Engine.runWith_eq_ok_iff.mp returned
  have ran := (Engine.execute_eq_ok_iff.mp executed).1
  obtain ⟨same, shown⟩ := ran.acted.untouched_of_dry dry
  refine ⟨start, execution, taken, executed, congrArg Store.snapshot same, ?_, ?_, ?_⟩
  · exact List.filterMap_eq_nil_iff.mpr fun outcome member => (shown outcome member).2
  · intro entry among action inside
    obtain ⟨step, member, rfl⟩ := List.mem_map.mp among
    rw [ran.shows step member] at inside
    obtain ⟨outcome, made, rfl⟩ := List.mem_map.mp inside
    exact (shown outcome (List.mem_flatMap.mpr ⟨step, member, made⟩)).1
  · cases ran with
    | again pass continues => exact nomatch (pass.not_continues_dry dry).symm.trans continues
    | last pass _ =>
        refine ⟨rfl, ?_⟩
        have evaluated := pass.evaluated_dry dry fun _ => id
        simp only [Engine.resultOf, List.length_map, List.forall₂_map_right_iff]
        exact evaluated

/-- A dry run that is to loop and in which the first rule cuts off the second. -/
def ExecutionOptions.dryLooping : ExecutionOptions := ⟨some .firstMatch, 100, false, true, false⟩

/-- The sample program takes one dry pass under looping, and its second rule is skipped. -/
theorem ticket_dry_run :
    ∃ result, ((⟨.default, 1⟩ : Engine).run ticketProgram ticketPayload .dryLooping).result =
        .ok result ∧
      result.trace.map (·.skipped) = [false, true] ∧
      ∃ start execution, Store.ofPayload ticketPayload = .ok start ∧
        ((⟨.default, 1⟩ : Engine).execute ticketProgram start .dryLooping).result =
          .ok execution ∧
        result.resultState = start.snapshot ∧ result.actions = [] ∧
        (∀ entry ∈ result.trace, ∀ action ∈ entry.actionsApplied, action.applied = false) ∧
        execution.passes = 1 ∧
        List.Forall₂ (fun rule entry => entry.ruleId = rule.id ∧ entry.passNumber = 1 ∧
          rule.condition.evaluate start = .ok entry.why)
          ((sortRules ticketProgram.rules).take result.trace.length) result.trace := by
  have returns : returnsWith (fun result => result.trace.map (·.skipped) == [false, true])
      ((⟨.default, 1⟩ : Engine).run ticketProgram ticketPayload .dryLooping).result = true := by
    simp only [Engine.run, Engine.runWith, Engine.execute, Engine.context, ticketProgram_sorted]
    decide +kernel
  obtain ⟨result, returned, skips⟩ := eq_ok_of_returnsWith returns
  exact ⟨result, returned, eq_of_beq skips,
    dry_run_touches_nothing _ _ _ _ result rfl returned⟩

end Rulebook
