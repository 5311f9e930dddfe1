import Rulebook.Proofs.Run.Termination

/-!
The states that a run goes through.

`RunVisits` has every state of a run that comes to be: before each pass, after each action,
and so also those of a run that is interrupted or never ends. What no action of a rule can
break holds in all of them (`RunVisits.keeps`), and what is made of every single action
holds of all outcomes of a run (`RunRan.forall_outcome`). Both inductions are made here
once; what is said of runs elsewhere needs a lemma about one action.
-/

namespace Rulebook

/-! ### States -/

/-- The states before and after each of the actions that are applied. -/
inductive ActionsVisit (context : RunContext) (ruleId : String) :
    List Action → Progress → Progress → Prop where
  | here {actions state} : ActionsVisit context ruleId actions state state
  | later {action rest before outcome workspace state} :
      context.act ruleId before action = .ok (outcome, workspace) →
      ActionsVisit context ruleId rest (before.acted workspace) state →
      ActionsVisit context ruleId (action :: rest) before state

/-- The states of a pass from a rule on. -/
inductive PassVisits (context : RunContext) : List Rule → Progress → Progress → Prop where
  | here {rules state} : PassVisits context rules state state
  | actions {rule rest before why state} :
      rule.condition.evaluate before.workspace.store = .ok why →
      ActionsVisit context rule.id (rule.branch why.result) (before.count why.result) state →
      PassVisits context (rule :: rest) before state
  | later {rule rest before why outcomes middle state} :
      RuleRan context rule before why outcomes middle →
      context.continuation rule why middle = .next →
      PassVisits context rest middle state → PassVisits context (rule :: rest) before state

def RunVisits (context : RunContext) (start state : Progress) : Prop :=
  ∃ n before, Reached context start n before ∧ PassVisits context context.rules before state

section Ends

variable {context : RunContext} {number : Nat}

/-- The state in which actions end is one that they go through. -/
theorem Applied.visited {ruleId : String} {actions : List Action} {before after : Progress}
    {outcomes : List ActionOutcome}
    (applied : Applied context ruleId actions before outcomes after) :
    ActionsVisit context ruleId actions before after := by
  induction applied with
  | done => exact .here
  | step acted _ ih => exact .later acted ih

theorem PassRan.visited {rules : List Rule} {before after : Progress} {pass : Pass}
    (ran : PassRan context number rules before pass after) :
    PassVisits context rules before after := by
  induction ran with
  | done => exact .here
  | next first goesOn _ ih => exact .later first goesOn ih
  | capped first _ => exact .actions first.evaluated first.applied.visited
  | stopped first _ _ => exact .actions first.evaluated first.applied.visited

/-- The state in which a run ends is one that it goes through. -/
theorem RunRan.visited {start before : Progress} {execution : Execution}
    (ran : RunRan context number before execution) {n : Nat} (place : number = n + 1)
    (reached : Reached context start n before) : RunVisits context start execution.progress := by
  induction ran generalizing n with
  | last pass _ => exact ⟨n, _, reached, pass.visited⟩
  | again pass continues _ ih =>
      subst place
      exact ih rfl (.again reached (runRules_eq_ok_iff.mpr pass) continues)

end Ends

/-! ### What actions keep -/

/-- The action takes facts with a property to facts with the same property. -/
def RunContext.Keeps (context : RunContext) (holds : Store → Prop) (ruleId : String)
    (action : Action) : Prop :=
  ∀ before outcome workspace, holds before.workspace.store →
    context.act ruleId before action = .ok (outcome, workspace) → holds workspace.store

theorem Rule.mem_actions_of_branch {rule : Rule} {matched : Bool} {action : Action}
    (member : action ∈ rule.branch matched) : action ∈ rule.actions := by
  cases matched with
  | true => exact List.mem_append_left _ member
  | false => exact List.mem_append_right _ member

@[simp] theorem Progress.count_workspace (progress : Progress) (matched : Bool) :
    (progress.count matched).workspace = progress.workspace := by
  cases matched <;> rfl

section Keeps

variable {context : RunContext} {holds : Store → Prop}

/-- What every action keeps holds of each state inside a rule, -/
theorem ActionsVisit.keeps {ruleId : String} {actions : List Action} {before state : Progress}
    (visits : ActionsVisit context ruleId actions before state)
    (each : ∀ action ∈ actions, context.Keeps holds ruleId action)
    (held : holds before.workspace.store) : holds state.workspace.store := by
  induction visits with
  | here => exact held
  | later acted _ ih =>
      obtain ⟨first, rest⟩ := List.forall_mem_cons.mp each
      exact ih rest (first _ _ _ held acted)

/-- and inside a pass. -/
theorem PassVisits.keeps {rules : List Rule} {before state : Progress}
    (visits : PassVisits context rules before state)
    (each : ∀ rule ∈ rules, ∀ action ∈ rule.actions, context.Keeps holds rule.id action)
    (held : holds before.workspace.store) : holds state.workspace.store := by
  have branch : ∀ {rule : Rule} {rest : List Rule} (_ : ∀ rule' ∈ rule :: rest,
      ∀ action ∈ rule'.actions, context.Keeps holds rule'.id action) (matched : Bool),
      ∀ action ∈ rule.branch matched, context.Keeps holds rule.id action := by
    intro rule rest each matched action member
    exact each rule (List.mem_cons_self ..) action (Rule.mem_actions_of_branch member)
  induction visits with
  | here => exact held
  | actions _ inner => exact inner.keeps (branch each _) (by simpa using held)
  | later first _ _ ih =>
      have middle := first.applied.visited.keeps (branch each _) (by simpa using held)
      exact ih (fun rule member => each rule (List.mem_cons_of_mem _ member)) middle

/-- What the actions of all rules keep holds throughout a run. -/
theorem RunVisits.keeps {start state : Progress} (visits : RunVisits context start state)
    (each : ∀ rule ∈ context.rules, ∀ action ∈ rule.actions, context.Keeps holds rule.id action)
    (held : holds start.workspace.store) : holds state.workspace.store := by
  obtain ⟨n, before, reached, visits⟩ := visits
  refine visits.keeps each ?_
  clear visits
  induction reached with
  | start => exact held
  | again _ ran _ ih => exact (runRules_eq_ok_iff.mp ran).visited.keeps each ih

end Keeps

/-! ### Outcomes -/

section Outcomes

variable {context : RunContext} {number : Nat} {holds : ActionOutcome → Prop}

/-- Whatever the facts are, applying the action gives such an outcome. -/
def RunContext.Gives (context : RunContext) (holds : ActionOutcome → Prop) (ruleId : String)
    (action : Action) : Prop :=
  ∀ before outcome workspace, context.act ruleId before action = .ok (outcome, workspace) →
    holds outcome

theorem Applied.forall_outcome {ruleId : String} {actions : List Action}
    {before after : Progress} {outcomes : List ActionOutcome}
    (applied : Applied context ruleId actions before outcomes after)
    (each : ∀ action ∈ actions, context.Gives holds ruleId action) :
    ∀ outcome ∈ outcomes, holds outcome := by
  induction applied with
  | done => simp
  | step acted _ ih =>
      obtain ⟨first, rest⟩ := List.forall_mem_cons.mp each
      exact List.forall_mem_cons.mpr ⟨first _ _ _ acted, ih rest⟩

theorem RuleRan.forall_outcome {rule : Rule} {before after : Progress} {why : ConditionTrace}
    {outcomes : List ActionOutcome} (ran : RuleRan context rule before why outcomes after)
    (each : ∀ action ∈ rule.actions, context.Gives holds rule.id action) :
    ∀ outcome ∈ outcomes, holds outcome :=
  ran.applied.forall_outcome fun action member => each action (Rule.mem_actions_of_branch member)

theorem PassRan.forall_outcome {rules : List Rule} {before after : Progress} {pass : Pass}
    (ran : PassRan context number rules before pass after)
    (each : ∀ rule ∈ rules, ∀ action ∈ rule.actions, context.Gives holds rule.id action) :
    ∀ step ∈ pass.steps, ∀ outcome ∈ step.outcomes, holds outcome := by
  induction ran with
  | done => simp
  | next first _ _ ih =>
      obtain ⟨head, rest⟩ := List.forall_mem_cons.mp each
      exact List.forall_mem_cons.mpr ⟨first.forall_outcome head, ih rest⟩
  | capped first _ =>
      obtain ⟨head, _⟩ := List.forall_mem_cons.mp each
      exact List.forall_mem_singleton.mpr (first.forall_outcome head)
  | stopped first _ skipped =>
      obtain ⟨head, _⟩ := List.forall_mem_cons.mp each
      refine List.forall_mem_cons.mpr ⟨first.forall_outcome head, ?_⟩
      exact skipped.forall_mem fun rule why => by simp

/-- What each action of the rules gives is given throughout a run. -/
theorem RunRan.forall_outcome {before : Progress} {execution : Execution}
    (ran : RunRan context number before execution)
    (each : ∀ rule ∈ context.rules, ∀ action ∈ rule.actions, context.Gives holds rule.id action) :
    ∀ outcome ∈ execution.outcomes, holds outcome := by
  have steps : ∀ step ∈ execution.steps, ∀ outcome ∈ step.outcomes, holds outcome := by
    induction ran with
    | last pass _ => exact pass.forall_outcome each
    | again pass _ _ ih => exact List.forall_mem_append.mpr ⟨pass.forall_outcome each, ih⟩
  intro outcome member
  obtain ⟨step, among, inside⟩ := List.mem_flatMap.mp member
  exact steps step among outcome inside

end Outcomes

end Rulebook
