import Rulebook.Proofs.Run.Course

/-!
Runs that are given different things.

A run reads its context in two places: the actions look at the catalog and at whether the run
is live, and what ends a pass is the default mode and the cap on firings. Contexts that agree
on the first apply actions alike (`RunContext.ActsLike`); where they agree on the second as
well, they make the same passes (`RunContext.PassesLike`), with the same log.
-/

namespace Rulebook

namespace RunContext

/-- Every action comes out the same under both. -/
def ActsLike (a b : RunContext) : Prop :=
  ∀ ruleId progress action, a.act ruleId progress action = b.act ruleId progress action

/-- Every pass goes the same way under both; whether another one follows may differ. -/
structure PassesLike (a b : RunContext) : Prop where
  acts : a.ActsLike b
  defaultMode : a.defaultMode = b.defaultMode
  maxRuleFirings : a.options.maxRuleFirings = b.options.maxRuleFirings

end RunContext

section Congruence

variable {a b : RunContext}

theorem applyActions_congr (acts : a.ActsLike b) (ruleId : String) (actions : List Action)
    (progress : Progress) :
    applyActions a ruleId actions progress = applyActions b ruleId actions progress := by
  induction actions generalizing progress with
  | nil => rfl
  | cons action rest ih =>
      have here := acts ruleId progress action
      simp only [RunContext.act] at here
      simp only [applyActions, here, ih]

theorem runRule_congr (alike : a.PassesLike b) (number : Nat) (rule : Rule)
    (progress : Progress) : runRule a number rule progress = runRule b number rule progress := by
  simp only [runRule, applyActions_congr alike.acts, alike.defaultMode, continuationAfter,
    alike.maxRuleFirings]

theorem runRules_congr (alike : a.PassesLike b) (number : Nat) (rules : List Rule)
    (progress : Progress) :
    runRules a number rules progress = runRules b number rules progress := by
  induction rules generalizing progress with
  | nil => rfl
  | cons rule rest ih => simp only [runRules, runRule_congr alike, ih, alike.maxRuleFirings]

/-- A run asks for the rules and whether to loop. -/
theorem runPasses_congr (alike : a.PassesLike b) (rules : a.rules = b.rules)
    (loops : a.options.loopUntilSettled = b.options.loopUntilSettled) (limit number : Nat)
    (progress : Progress) :
    runPasses a limit number progress = runPasses b limit number progress := by
  induction limit generalizing number progress with
  | zero => rfl
  | succ limit ih =>
      have continues : ∀ pass : Pass, pass.continues a.options = pass.continues b.options :=
        fun pass => by rw [Pass.continues, loops, Pass.continues]
      simp only [runPasses, runRules_congr alike, rules, continues, ih]

end Congruence

theorem RuleRan.congr {a b : RunContext} (acts : a.ActsLike b) {rule : Rule}
    {before after : Progress} {why : ConditionTrace} {outcomes : List ActionOutcome}
    (ran : RuleRan a rule before why outcomes after) :
    RuleRan b rule before why outcomes after := by
  refine ⟨ran.evaluated, ?_⟩
  rw [← applyActions_eq_ok_iff, ← applyActions_congr acts]
  exact applyActions_eq_ok_iff.mpr ran.applied

theorem PassRan.congr {a b : RunContext} (alike : a.PassesLike b) {number : Nat}
    {rules : List Rule} {before after : Progress} {pass : Pass}
    (ran : PassRan a number rules before pass after) :
    PassRan b number rules before pass after := by
  rw [← runRules_eq_ok_iff] at ran ⊢
  rwa [← runRules_congr alike]

/-! ### One course for each start -/

section Unique

variable {context : RunContext} {number : Nat}

/-- A rule runs in one way. -/
theorem RuleRan.unique {rule : Rule} {before after after' : Progress}
    {why why' : ConditionTrace} {outcomes outcomes' : List ActionOutcome}
    (first : RuleRan context rule before why outcomes after)
    (second : RuleRan context rule before why' outcomes' after') :
    why = why' ∧ outcomes = outcomes' ∧ after = after' := by
  obtain rfl := Except.ok.inj (first.evaluated.symm.trans second.evaluated)
  have applied := applyActions_eq_ok_iff.mpr first.applied
  rw [applyActions_eq_ok_iff.mpr second.applied] at applied
  cases applied
  exact ⟨rfl, rfl, rfl⟩

theorem Skipped.unique {store : Store} {rules : List Rule} {steps steps' : List RuleStep}
    (first : Skipped number store rules steps) (second : Skipped number store rules steps') :
    steps = steps' := by
  rw [← skipRules_eq_ok_iff] at first second
  exact Except.ok.inj (first.symm.trans second)

theorem PassRan.unique {rules : List Rule} {before after after' : Progress} {pass pass' : Pass}
    (first : PassRan context number rules before pass after)
    (second : PassRan context number rules before pass' after') :
    pass = pass' ∧ after = after' := by
  rw [← runRules_eq_ok_iff] at first second
  rw [second] at first
  cases first
  exact ⟨rfl, rfl⟩

/-- How its first rule has run tells how a pass goes on. -/
theorem PassRan.after_first {rule : Rule} {rest : List Rule} {before middle after : Progress}
    {why : ConditionTrace} {outcomes : List ActionOutcome} {pass : Pass}
    (first : RuleRan context rule before why outcomes middle)
    (ran : PassRan context number (rule :: rest) before pass after) :
    match context.continuation rule why middle with
    | .next => ∃ later, PassRan context number rest middle later after ∧
        pass = { later with steps := context.stepOf number rule why outcomes :: later.steps }
    | .capped => after = middle ∧ pass = ⟨[context.stepOf number rule why outcomes], .capped⟩
    | .stopped => after = middle ∧ ∃ skipped, Skipped number middle.workspace.store rest skipped ∧
        pass = ⟨context.stepOf number rule why outcomes :: skipped, .stopped⟩ := by
  cases ran with
  | next first' goesOn later =>
      obtain ⟨rfl, rfl, rfl⟩ := first.unique first'
      rw [goesOn]
      exact ⟨_, later, rfl⟩
  | capped first' ends =>
      obtain ⟨rfl, rfl, rfl⟩ := first.unique first'
      rw [ends]
      exact ⟨rfl, rfl⟩
  | stopped first' ends skipped =>
      obtain ⟨rfl, rfl, rfl⟩ := first.unique first'
      rw [ends]
      exact ⟨rfl, _, skipped, rfl⟩

/-- Whatever follows, a pass begins with the step of its first rule. -/
theorem PassRan.first_prefix {rule : Rule} {rest : List Rule} {before middle after : Progress}
    {why : ConditionTrace} {outcomes : List ActionOutcome} {pass : Pass}
    (first : RuleRan context rule before why outcomes middle)
    (ran : PassRan context number (rule :: rest) before pass after) :
    [context.stepOf number rule why outcomes] <+: pass.steps := by
  cases ran with
  | next first' | capped first' | stopped first' =>
      obtain ⟨rfl, rfl, rfl⟩ := first.unique first'
      exact List.cons_prefix_cons.mpr ⟨rfl, List.nil_prefix⟩

end Unique

end Rulebook
