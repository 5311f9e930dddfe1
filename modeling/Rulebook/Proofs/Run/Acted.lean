import Rulebook.Proofs.Run.Journal
import Rulebook.Proofs.Run.Visited

/-!
The actions of a run, one after another.

Between its actions a run evaluates conditions and counts firings, and neither touches the
facts or the writers. `Acted` leaves all of that out: each action of a run is applied to the
workspace that the one before it has left (`RunRan.acted`). A run has a workspace after each
number of its actions (`Acted.append_iff`), and what holds at every one of them is proved by
induction on `Acted`, with a lemma about one action.
-/

namespace Rulebook

/-- What a search of all items gives, with the last one apart. -/
theorem filterMap_concat {α β : Type} (f : α → Option β) (xs : List α) (x : α) :
    (xs ++ [x]).filterMap f = xs.filterMap f ++ (f x).toList := by
  rw [List.filterMap_append]
  cases made : f x <;> simp [made]

/-- Actions of the rules were applied to a workspace one after another, after `count` earlier
ones, with these outcomes. -/
inductive Acted (context : RunContext) :
    Nat → Workspace → List ActionOutcome → Workspace → Prop where
  | done (count : Nat) (workspace : Workspace) : Acted context count workspace [] workspace
  | step {count before rule action outcome middle outcomes after} :
      rule ∈ context.rules → action ∈ rule.actions →
      action.apply context.catalog context.options.enableActions before
        ⟨rule.id, actionId (count + 1)⟩ = .ok (outcome, middle) →
      Acted context (count + 1) middle outcomes after →
      Acted context count before (outcome :: outcomes) after

section Chains

variable {context : RunContext} {count : Nat} {before after : Workspace}
  {first second : List ActionOutcome}

/-- Stretches of actions are put together, the second numbered on from the first. -/
theorem Acted.append {middle : Workspace} (one : Acted context count before first middle)
    (two : Acted context (count + first.length) middle second after) :
    Acted context count before (first ++ second) after := by
  induction one with
  | done => exact two
  | @step count _ _ _ _ _ outcomes _ ruled listed applied _ ih =>
      rw [List.length_cons, Nat.add_comm outcomes.length, ← Nat.add_assoc] at two
      exact .step ruled listed applied (ih two)

/-- There is a workspace after each number of actions. -/
theorem Acted.append_iff :
    Acted context count before (first ++ second) after ↔ ∃ middle,
      Acted context count before first middle ∧
        Acted context (count + first.length) middle second after := by
  constructor
  · intro acted
    induction first generalizing count before with
    | nil => exact ⟨before, .done count before, acted⟩
    | cons outcome rest ih =>
        cases acted with
        | step ruled listed applied later =>
            obtain ⟨middle, one, two⟩ := ih later
            refine ⟨middle, .step ruled listed applied one, ?_⟩
            rwa [List.length_cons, Nat.add_comm rest.length, ← Nat.add_assoc]
  · rintro ⟨middle, one, two⟩
    exact one.append two

end Chains

/-! ### Runs -/

/-- The actions lead from one state of a run to another, and are counted. -/
structure ActedOn (context : RunContext) (before : Progress) (outcomes : List ActionOutcome)
    (after : Progress) : Prop where
  acted : Acted context before.actionCount before.workspace outcomes after.workspace
  counted : after.actionCount = before.actionCount + outcomes.length

namespace ActedOn

variable {context : RunContext}

theorem nil (progress : Progress) : ActedOn context progress [] progress :=
  ⟨.done _ _, rfl⟩

theorem append {before middle after : Progress} {first second : List ActionOutcome}
    (one : ActedOn context before first middle) (two : ActedOn context middle second after) :
    ActedOn context before (first ++ second) after where
  acted := one.acted.append (one.counted ▸ two.acted)
  counted := by rw [two.counted, one.counted, List.length_append, Nat.add_assoc]

end ActedOn

section Runs

variable {context : RunContext} {number : Nat}

theorem Applied.actedOn {rule : Rule} {actions : List Action} {before after : Progress}
    {outcomes : List ActionOutcome}
    (applied : Applied context rule.id actions before outcomes after) (ruled : rule ∈ context.rules)
    (listed : ∀ action ∈ actions, action ∈ rule.actions) :
    ActedOn context before outcomes after := by
  induction applied with
  | done progress => exact .nil progress
  | @step action rest before outcome workspace outcomes after acted _ ih =>
      obtain ⟨here, there⟩ := List.forall_mem_cons.mp listed
      have one : ActedOn context before [outcome] (before.acted workspace) :=
        ⟨.step ruled here acted (.done _ _), rfl⟩
      exact one.append (ih there)

theorem RuleRan.actedOn {rule : Rule} {before after : Progress} {why : ConditionTrace}
    {outcomes : List ActionOutcome} (ran : RuleRan context rule before why outcomes after)
    (ruled : rule ∈ context.rules) : ActedOn context before outcomes after := by
  have applied := ran.applied.actedOn ruled fun _ => Rule.mem_actions_of_branch
  -- the count of firings is no part of what actions work on
  cases h : why.result <;> rw [h] at applied <;> exact ⟨applied.acted, applied.counted⟩

theorem PassRan.actedOn {rules : List Rule} {before after : Progress} {pass : Pass}
    (ran : PassRan context number rules before pass after)
    (ruled : ∀ rule ∈ rules, rule ∈ context.rules) :
    ActedOn context before (pass.steps.flatMap (·.outcomes)) after := by
  induction ran with
  | done progress => exact .nil progress
  | next first _ _ ih =>
      obtain ⟨here, there⟩ := List.forall_mem_cons.mp ruled
      exact (first.actedOn here).append (ih there)
  | capped first =>
      exact (first.actedOn (ruled _ List.mem_cons_self)).append (.nil _)
  | stopped first _ skipped =>
      rw [List.flatMap_cons, skipped.outcomes_eq, List.append_nil]
      exact first.actedOn (ruled _ List.mem_cons_self)

theorem RunRan.actedOn {before : Progress} {execution : Execution}
    (ran : RunRan context number before execution) :
    ActedOn context before execution.outcomes execution.progress := by
  induction ran with
  | last pass _ => exact pass.actedOn fun _ => id
  | again pass _ _ ih =>
      rw [Execution.outcomes, List.flatMap_append]
      exact (pass.actedOn fun _ => id).append ih

/-- The outcomes of a run are those of its actions, applied one after another to the facts that
it has started from. -/
theorem RunRan.acted {start : Store} {execution : Execution}
    (ran : RunRan context 1 (.start start) execution) :
    Acted context 0 ⟨start, .empty⟩ execution.outcomes execution.progress.workspace :=
  ran.actedOn.acted

end Runs

end Rulebook
