import Rulebook.Proofs.Run.Course

/-!
How a pass counts firings.

Only a rule that matches counts, and only while its actions run: the count after a pass is
the count before it and the number of fired steps in its trace (`PassRan.firings_eq`). A
pass that fires and still runs to its last rule leaves the count below the cap
(`PassRan.below_cap`).
-/

namespace Rulebook

def RuleStep.fired (step : RuleStep) : Bool := step.trace.fired

def Pass.firings (pass : Pass) : Nat := pass.steps.countP (·.fired)

def Pass.fires (pass : Pass) : Bool := pass.steps.any (·.fired)

theorem Pass.firings_pos_iff {pass : Pass} : 0 < pass.firings ↔ pass.fires = true := by
  rw [Pass.firings, Pass.fires, List.countP_pos_iff, List.any_eq_true]

@[simp] theorem Progress.acted_firings (progress : Progress) (workspace : Workspace) :
    (progress.acted workspace).firings = progress.firings := rfl

theorem Progress.count_firings (progress : Progress) (matched : Bool) :
    (progress.count matched).firings = progress.firings + matched.toNat := by
  cases matched <;> rfl

@[simp] theorem RunContext.stepOf_fired (context : RunContext) (number : Nat) (rule : Rule)
    (why : ConditionTrace) (outcomes : List ActionOutcome) :
    (context.stepOf number rule why outcomes).fired = why.result := by
  simp [RunContext.stepOf, RuleStep.fired, RuleTrace.fired, ranTrace]

section Counts

variable {context : RunContext} {number : Nat}

/-- Actions never touch the count. -/
theorem Applied.firings_eq {ruleId : String} {actions : List Action} {before after : Progress}
    {outcomes : List ActionOutcome}
    (applied : Applied context ruleId actions before outcomes after) :
    after.firings = before.firings := by
  induction applied with
  | done => rfl
  | step _ _ ih => rw [ih, Progress.acted_firings]

theorem RuleRan.firings_eq {rule : Rule} {before after : Progress} {why : ConditionTrace}
    {outcomes : List ActionOutcome} (ran : RuleRan context rule before why outcomes after) :
    after.firings = before.firings + why.result.toNat := by
  rw [ran.applied.firings_eq, Progress.count_firings]

theorem Skipped.not_fired {store : Store} {rules : List Rule} {steps : List RuleStep}
    (skipped : Skipped number store rules steps) : ∀ step ∈ steps, step.fired = false := by
  refine skipped.forall_mem fun rule why => ?_
  simp [RuleStep.fired, RuleTrace.fired, skippedTrace]

theorem Skipped.firings_eq {store : Store} {rules : List Rule} {steps : List RuleStep}
    (skipped : Skipped number store rules steps) : steps.countP (·.fired) = 0 :=
  List.countP_eq_zero.mpr fun step member => by simp [skipped.not_fired step member]

theorem RunContext.firings_cons (rule : Rule) (why : ConditionTrace)
    (outcomes : List ActionOutcome) (steps : List RuleStep) :
    (context.stepOf number rule why outcomes :: steps).countP (·.fired)
      = why.result.toNat + steps.countP (·.fired) := by
  rw [List.countP_cons, RunContext.stepOf_fired, Nat.add_comm]
  cases why.result <;> rfl

/-- The count after a pass. -/
theorem PassRan.firings_eq {rules : List Rule} {before after : Progress} {pass : Pass}
    (ran : PassRan context number rules before pass after) :
    after.firings = before.firings + pass.firings := by
  induction ran with
  | done => rfl
  | next first _ _ ih =>
      rw [ih, first.firings_eq, Nat.add_assoc]
      exact congrArg _ (RunContext.firings_cons ..).symm
  | capped first =>
      rw [first.firings_eq, Pass.firings, RunContext.firings_cons, List.countP_nil, Nat.add_zero]
  | stopped first _ skipped =>
      rw [first.firings_eq, Pass.firings, RunContext.firings_cons, skipped.firings_eq,
        Nat.add_zero]

/-- A rule that fires leaves the count below the cap, unless the pass is capped. -/
theorem RunContext.firings_lt_of_ne_capped {rule : Rule} {why : ConditionTrace} {after : Progress}
    (uncapped : context.continuation rule why after ≠ .capped) (matched : why.result = true) :
    (after.firings : Int) < context.options.maxRuleFirings :=
  Int.not_le.mp fun reached => uncapped (continuation_eq_capped_iff.mpr ⟨matched, reached⟩)

/-- With no more firings, a rule that comes out the same goes on as it did, unless that was at
the cap. -/
theorem RunContext.continuation_of_le {rule : Rule} {why why' : ConditionTrace}
    {after after' : Progress} (uncapped : context.continuation rule why after ≠ .capped)
    (same : why'.result = why.result) (fewer : after'.firings ≤ after.firings) :
    context.continuation rule why' after' = context.continuation rule why after := by
  have uncapped' : context.continuation rule why' after' ≠ .capped := by
    intro capped
    obtain ⟨matched, reached⟩ := continuation_eq_capped_iff.mp capped
    have below := firings_lt_of_ne_capped uncapped (same ▸ matched)
    omega
  rw [continuation_of_ne_capped uncapped', same, ← continuation_of_ne_capped uncapped]

/-- Where a complete pass has fired, the cap was not reached. -/
theorem PassRan.below_cap {rules : List Rule} {before after : Progress} {pass : Pass}
    (ran : PassRan context number rules before pass after) (complete : pass.continuation = .next)
    (fires : pass.fires = true) : (after.firings : Int) < context.options.maxRuleFirings := by
  induction ran with
  | done => simp [Pass.fires] at fires
  | @next rule rest before why outcomes middle pass after first goesOn later ih =>
      by_cases more : pass.fires = true
      · exact ih complete more
      · have fired : why.result = true := by
          simp only [Pass.fires, List.any_cons, RunContext.stepOf_fired, Bool.or_eq_true] at fires
          exact fires.resolve_right more
        have none : pass.firings = 0 :=
          Nat.eq_zero_of_not_pos fun positive => more (Pass.firings_pos_iff.mp positive)
        rw [later.firings_eq, none]
        exact RunContext.firings_lt_of_ne_capped (by rw [goesOn]; exact nofun) fired
  | capped => cases complete
  | stopped => cases complete

/-- A rule that does not reach the cap stays below it. -/
theorem RuleRan.below_cap {rule : Rule} {before after : Progress} {why : ConditionTrace}
    {outcomes : List ActionOutcome} (ran : RuleRan context rule before why outcomes after)
    (uncapped : context.continuation rule why after ≠ .capped)
    (below : (before.firings : Int) < context.options.maxRuleFirings) :
    (after.firings : Int) < context.options.maxRuleFirings := by
  cases matched : why.result with
  | true => exact RunContext.firings_lt_of_ne_capped uncapped matched
  | false => simpa [ran.firings_eq, matched] using below

/-- A pass that starts below the cap reaches it exactly where it is capped, with the firing of
its last rule; otherwise it stays below. -/
theorem PassRan.capped_or_below {rules : List Rule} {before after : Progress} {pass : Pass}
    (ran : PassRan context number rules before pass after)
    (below : (before.firings : Int) < context.options.maxRuleFirings) :
    (pass.continuation = .capped ∧ (after.firings : Int) = context.options.maxRuleFirings) ∨
      (pass.continuation ≠ .capped ∧ (after.firings : Int) < context.options.maxRuleFirings) := by
  induction ran with
  | done => exact .inr ⟨nofun, below⟩
  | next first goesOn _ ih => exact ih (first.below_cap (by rw [goesOn]; exact nofun) below)
  | @capped _ _ _ why _ after first ends =>
      obtain ⟨matched, reached⟩ := RunContext.continuation_eq_capped_iff.mp ends
      have counted := first.firings_eq
      rw [matched, Bool.toNat_true] at counted
      exact .inl ⟨rfl, by omega⟩
  | stopped first ends _ =>
      exact .inr ⟨nofun, first.below_cap (by rw [ends]; exact nofun) below⟩

/-- A pass after which the run goes on has stayed below the cap. -/
theorem PassRan.below_of_continues {rules : List Rule} {before after : Progress} {pass : Pass}
    (ran : PassRan context number rules before pass after)
    (below : (before.firings : Int) < context.options.maxRuleFirings)
    (continues : pass.continues context.options = true) :
    (after.firings : Int) < context.options.maxRuleFirings := by
  rcases ran.capped_or_below below with ⟨capped, _⟩ | ⟨_, less⟩
  · exact absurd capped (Pass.ne_capped_of_continues continues)
  · exact less

/-- The count after a run. -/
theorem RunRan.firings_eq {before : Progress} {execution : Execution}
    (ran : RunRan context number before execution) :
    execution.progress.firings = before.firings + execution.steps.countP (·.fired) := by
  induction ran with
  | last pass _ => exact pass.firings_eq
  | again pass _ _ ih => rw [ih, pass.firings_eq, List.countP_append, Pass.firings, Nat.add_assoc]

end Counts

end Rulebook
