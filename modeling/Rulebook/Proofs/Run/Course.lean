import Mathlib.Data.List.Forall2
import Rulebook.Execute.Run

/-!
The course of a run.

The scheduler computes a run together with its log and is bounded from outside. Here a run
is a relation with one constructor for each way to go on, free of the log and of the bound:
`Applied` for the actions of a rule, `PassRan` for a pass, `RunRan` for all passes. The
`…_eq_ok_iff` statements say that the computation returns exactly what the relation
allows, and what is said of whole runs is proved by induction on the relations.
-/

namespace Rulebook

/-! ### Results -/

theorem Except.mapError_eq_ok_iff {ε ε' α : Type} {f : ε → ε'} {x : Except ε α} {a : α} :
    x.mapError f = .ok a ↔ x = .ok a := by
  cases x <;> simp [Except.mapError]

/-! ### Actions -/

def Progress.acted (progress : Progress) (workspace : Workspace) : Progress :=
  { progress with workspace := workspace, actionCount := progress.actionCount + 1 }

def RunContext.act (context : RunContext) (ruleId : String) (progress : Progress)
    (action : Action) : Except Interruption (ActionOutcome × Workspace) :=
  action.apply context.catalog context.options.enableActions progress.workspace
    ⟨ruleId, actionId (progress.actionCount + 1)⟩

/-- Actions were applied one after another, with these outcomes. -/
inductive Applied (context : RunContext) (ruleId : String) :
    List Action → Progress → List ActionOutcome → Progress → Prop where
  | done (progress : Progress) : Applied context ruleId [] progress [] progress
  | step {action rest before outcome workspace outcomes after} :
      context.act ruleId before action = .ok (outcome, workspace) →
      Applied context ruleId rest (before.acted workspace) outcomes after →
      Applied context ruleId (action :: rest) before (outcome :: outcomes) after

/-- The first action, then the others on what it left. -/
theorem applyActions_cons_result (context : RunContext) (ruleId : String) (action : Action)
    (rest : List Action) (before : Progress) :
    (applyActions context ruleId (action :: rest) before).result =
      (context.act ruleId before action).bind fun made =>
        (applyActions context ruleId rest (before.acted made.2)).result.bind fun more =>
          .ok (made.1 :: more.1, more.2) := by
  simp only [applyActions, RunContext.act, Recorded.result_bind, Recorded.result_lift]
  congr 1
  funext made
  cases made.1.refused
  · simp [Progress.acted]
  · simp [Progress.acted, Except.bind]

/-- Applying actions returns where a course of them exists, and returns that course. -/
theorem applyActions_eq_ok_iff {context : RunContext} {ruleId : String} {actions : List Action}
    {before after : Progress} {outcomes : List ActionOutcome} :
    (applyActions context ruleId actions before).result = .ok (outcomes, after) ↔
      Applied context ruleId actions before outcomes after := by
  induction actions generalizing before outcomes with
  | nil =>
      constructor
      · intro returned
        cases returned
        exact .done _
      · rintro ⟨⟩
        rfl
  | cons action rest ih =>
      rw [applyActions_cons_result]
      constructor
      · intro returned
        cases acted : context.act ruleId before action with
        | error e => simp [acted, Except.bind] at returned
        | ok made =>
            obtain ⟨outcome, workspace⟩ := made
            cases more : (applyActions context ruleId rest (before.acted workspace)).result with
            | error e => simp [acted, more, Except.bind] at returned
            | ok pair =>
                simp only [acted, more, Except.bind, Except.ok.injEq, Prod.mk.injEq] at returned
                obtain ⟨rfl, rfl⟩ := returned
                exact .step acted (ih.mp more)
      · rintro ⟨⟩
        rename_i acted more
        simp [acted, ih.mpr more, Except.bind]

/-! ### Rules -/

/-- The actions of a rule that has matched or not. -/
def Rule.branch (rule : Rule) (matched : Bool) : List Action :=
  if matched then rule.thenActions else rule.elseActions

/-- A rule was evaluated and its actions were applied. -/
structure RuleRan (context : RunContext) (rule : Rule) (before : Progress)
    (why : ConditionTrace) (outcomes : List ActionOutcome) (after : Progress) : Prop where
  evaluated : rule.condition.evaluate before.workspace.store = .ok why
  applied :
    Applied context rule.id (rule.branch why.result) (before.count why.result) outcomes after

def RunContext.stepOf (context : RunContext) (number : Nat) (rule : Rule)
    (why : ConditionTrace) (outcomes : List ActionOutcome) : RuleStep :=
  ⟨ranTrace number rule why (why.result && rule.stops context.defaultMode) outcomes, outcomes⟩

/-- How a pass goes on after a rule that has run. -/
def RunContext.continuation (context : RunContext) (rule : Rule) (why : ConditionTrace)
    (after : Progress) : Continuation :=
  continuationAfter context.options why.result (why.result && rule.stops context.defaultMode)
    after.firings

section Continuation

variable {context : RunContext} {number : Nat} {rule : Rule} {why : ConditionTrace}
  {after : Progress}

/-- A pass is capped after a rule that has fired and has the cap reached. -/
theorem RunContext.continuation_eq_capped_iff :
    context.continuation rule why after = .capped ↔
      why.result = true ∧ context.options.maxRuleFirings ≤ after.firings := by
  rw [continuation, continuationAfter]
  split
  · rename_i capped
    simpa using capped
  · rename_i below
    split <;> simpa using below

/-- Below the cap it is the rule that says whether the pass is stopped. -/
theorem RunContext.continuation_of_ne_capped
    (uncapped : context.continuation rule why after ≠ .capped) :
    context.continuation rule why after =
      if why.result && rule.stops context.defaultMode then .stopped else .next := by
  rw [continuation, continuationAfter] at uncapped ⊢
  split at uncapped
  · exact absurd rfl uncapped
  · rename_i below
    rw [if_neg below]

/-- How a pass goes on is shown by the entry of the rule, unless the pass is capped. -/
theorem RunContext.stepOf_stopProcessing {outcomes : List ActionOutcome}
    (uncapped : context.continuation rule why after ≠ .capped) :
    (context.stepOf number rule why outcomes).trace.stopProcessing =
      (context.continuation rule why after == .stopped) := by
  rw [continuation_of_ne_capped uncapped]
  by_cases stops : (why.result && rule.stops context.defaultMode) = true
  · rw [if_pos stops]
    exact stops
  · rw [if_neg stops]
    exact Bool.eq_false_iff.mpr stops

end Continuation

theorem evaluateRule_eq_ok_iff {rule : Rule} {store : Store} {why : ConditionTrace} :
    (evaluateRule rule store).result = .ok why ↔ rule.condition.evaluate store = .ok why :=
  Iff.rfl

/-- Running a rule returns its verdict and the course of the branch it chose. -/
theorem runRule_eq_ok_iff {context : RunContext} {number : Nat} {rule : Rule}
    {before after : Progress} {step : RuleStep} {onward : Continuation} :
    (runRule context number rule before).result = .ok (step, onward, after) ↔
      ∃ why outcomes, RuleRan context rule before why outcomes after ∧
        step = context.stepOf number rule why outcomes ∧
        onward = context.continuation rule why after := by
  simp only [runRule, Recorded.result_bind_eq_ok_iff, evaluateRule_eq_ok_iff]
  constructor
  · rintro ⟨why, evaluated, ⟨outcomes, progress⟩, applied, returned⟩
    cases returned
    exact ⟨why, outcomes, ⟨evaluated, applyActions_eq_ok_iff.mp applied⟩, rfl, rfl⟩
  · rintro ⟨why, outcomes, ran, rfl, rfl⟩
    exact ⟨why, ran.evaluated, (outcomes, after), applyActions_eq_ok_iff.mpr ran.applied, rfl⟩

/-- The rules after a stop were evaluated on the same facts and no more. -/
def Skipped (number : Nat) (store : Store) (rules : List Rule) (steps : List RuleStep) : Prop :=
  List.Forall₂ (fun rule step => ∃ why, rule.condition.evaluate store = .ok why ∧
    step = ⟨skippedTrace number rule why, []⟩) rules steps

/-- Skipping rules returns where each of them can be evaluated. -/
theorem skipRules_eq_ok_iff {number : Nat} {store : Store} {rules : List Rule}
    {steps : List RuleStep} :
    (skipRules number store rules).result = .ok steps ↔ Skipped number store rules steps := by
  induction rules generalizing steps with
  | nil =>
      constructor
      · intro returned
        cases returned
        exact .nil
      · rintro ⟨⟩
        rfl
  | cons rule rest ih =>
      simp only [skipRules, Recorded.result_bind_eq_ok_iff, evaluateRule_eq_ok_iff]
      constructor
      · rintro ⟨why, evaluated, more, skipped, returned⟩
        cases returned
        exact .cons ⟨why, evaluated, rfl⟩ (ih.mp skipped)
      · rintro ⟨⟩
        rename_i first more
        obtain ⟨why, evaluated, rfl⟩ := first
        exact ⟨why, evaluated, _, ih.mpr more, rfl⟩

/-- What holds of every skipped step. -/
theorem Skipped.forall_mem {number : Nat} {store : Store} {rules : List Rule}
    {steps : List RuleStep} {holds : RuleStep → Prop} (skipped : Skipped number store rules steps)
    (cut : ∀ rule why, holds ⟨skippedTrace number rule why, []⟩) : ∀ step ∈ steps, holds step := by
  induction skipped with
  | nil => simp
  | cons first _ ih =>
      obtain ⟨why, _, rfl⟩ := first
      exact List.forall_mem_cons.mpr ⟨cut _ _, ih⟩

/-! ### Passes -/

/-- A pass ran from a rule on. -/
inductive PassRan (context : RunContext) (number : Nat) :
    List Rule → Progress → Pass → Progress → Prop where
  | done (progress : Progress) : PassRan context number [] progress ⟨[], .next⟩ progress
  | next {rule rest before why outcomes middle pass after} :
      RuleRan context rule before why outcomes middle →
      context.continuation rule why middle = .next →
      PassRan context number rest middle pass after →
      PassRan context number (rule :: rest) before
        { pass with steps := context.stepOf number rule why outcomes :: pass.steps } after
  | capped {rule rest before why outcomes after} :
      RuleRan context rule before why outcomes after →
      context.continuation rule why after = .capped →
      PassRan context number (rule :: rest) before
        ⟨[context.stepOf number rule why outcomes], .capped⟩ after
  | stopped {rule rest before why outcomes skipped after} :
      RuleRan context rule before why outcomes after →
      context.continuation rule why after = .stopped →
      Skipped number after.workspace.store rest skipped →
      PassRan context number (rule :: rest) before
        ⟨context.stepOf number rule why outcomes :: skipped, .stopped⟩ after

/-- A pass returns where a course through its rules exists. -/
theorem runRules_eq_ok_iff {context : RunContext} {number : Nat} {rules : List Rule}
    {before after : Progress} {pass : Pass} :
    (runRules context number rules before).result = .ok (pass, after) ↔
      PassRan context number rules before pass after := by
  induction rules generalizing before pass with
  | nil =>
      constructor
      · intro returned
        cases returned
        exact .done _
      · rintro ⟨⟩
        rfl
  | cons rule rest ih =>
      simp only [runRules, Recorded.result_bind_eq_ok_iff, Prod.exists, runRule_eq_ok_iff]
      constructor
      · rintro ⟨step, onward, middle, ⟨why, outcomes, ran, rfl, goesOn⟩, returned⟩
        cases onward with
        | next =>
            obtain ⟨⟨more, progress⟩, later, returned⟩ := Recorded.result_bind_eq_ok_iff.mp returned
            cases returned
            exact .next ran goesOn.symm (ih.mp later)
        | capped =>
            cases returned
            exact .capped ran goesOn.symm
        | stopped =>
            obtain ⟨skipped, skips, returned⟩ := Recorded.result_bind_eq_ok_iff.mp returned
            cases returned
            exact .stopped ran goesOn.symm (skipRules_eq_ok_iff.mp skips)
      · intro ran
        cases ran with
        | next first goesOn later =>
            refine ⟨_, .next, _, ⟨_, _, first, rfl, goesOn.symm⟩, ?_⟩
            exact Recorded.result_bind_eq_ok_iff.mpr ⟨_, ih.mpr later, rfl⟩
        | capped first goesOn => exact ⟨_, .capped, _, ⟨_, _, first, rfl, goesOn.symm⟩, rfl⟩
        | stopped first goesOn skips =>
            refine ⟨_, .stopped, _, ⟨_, _, first, rfl, goesOn.symm⟩, ?_⟩
            exact Recorded.result_bind_eq_ok_iff.mpr ⟨_, skipRules_eq_ok_iff.mpr skips, rfl⟩

/-- What holds of every step that a pass can leave. -/
theorem PassRan.forall_mem {context : RunContext} {number : Nat} {rules : List Rule}
    {before after : Progress} {pass : Pass} {holds : RuleStep → Prop}
    (ran : PassRan context number rules before pass after)
    (made : ∀ rule why outcomes, holds (context.stepOf number rule why outcomes))
    (cut : ∀ rule why, holds ⟨skippedTrace number rule why, []⟩) :
    ∀ step ∈ pass.steps, holds step := by
  induction ran with
  | done => simp
  | next _ _ _ ih => exact List.forall_mem_cons.mpr ⟨made _ _ _, ih⟩
  | capped => exact List.forall_mem_singleton.mpr (made _ _ _)
  | stopped _ _ skipped => exact List.forall_mem_cons.mpr ⟨made _ _ _, skipped.forall_mem cut⟩

/-! ### Runs -/

/-- A run goes on after a pass that mutated and was neither stopped nor capped. -/
theorem Pass.continues_iff {pass : Pass} {options : ExecutionOptions} :
    pass.continues options = true ↔
      options.loopUntilSettled = true ∧ pass.mutated = true ∧ pass.continuation = .next := by
  simp [Pass.continues, and_assoc]

theorem Pass.ne_capped_of_continues {pass : Pass} {options : ExecutionOptions}
    (continues : pass.continues options = true) : pass.continuation ≠ .capped := by
  rw [(continues_iff.mp continues).2.2]
  exact nofun

/-- A run went on from a pass to its end. -/
inductive RunRan (context : RunContext) : Nat → Progress → Execution → Prop where
  | last {number before pass after} :
      PassRan context number context.rules before pass after →
      pass.continues context.options = false →
      RunRan context number before ⟨pass.steps, after, number, pass.continuation == .capped⟩
  | again {number before pass middle execution} :
      PassRan context number context.rules before pass middle →
      pass.continues context.options = true →
      RunRan context (number + 1) middle execution →
      RunRan context number before
        { execution with steps := pass.steps ++ execution.steps }

theorem RunRan.number_le {context : RunContext} {number : Nat} {before : Progress}
    {execution : Execution} (ran : RunRan context number before execution) :
    number ≤ execution.passes := by
  induction ran with
  | last => exact Nat.le_refl _
  | again _ _ _ ih => exact Nat.le_of_succ_le ih

/-- What holds of every step that a run can leave. -/
theorem RunRan.forall_mem {context : RunContext} {number : Nat} {before : Progress}
    {execution : Execution} {holds : RuleStep → Prop} (ran : RunRan context number before execution)
    (made : ∀ number rule why outcomes, holds (context.stepOf number rule why outcomes))
    (cut : ∀ number rule why, holds ⟨skippedTrace number rule why, []⟩) :
    ∀ step ∈ execution.steps, holds step := by
  induction ran with
  | last pass _ => exact pass.forall_mem (made _) (cut _)
  | again pass _ _ ih => exact List.forall_mem_append.mpr ⟨pass.forall_mem (made _) (cut _), ih⟩

/-- The scheduler returns a run if it is allowed as many passes as the run has. -/
theorem runPasses_eq_ok_iff {context : RunContext} {limit number : Nat} {before : Progress}
    {execution : Execution} :
    (runPasses context limit number before).result = .ok execution ↔
      RunRan context number before execution ∧ execution.passes < number + limit := by
  induction limit generalizing number before execution with
  | zero =>
      constructor
      · intro returned
        cases returned
      · rintro ⟨ran, few⟩
        -- Without passes left there is no execution, and each one takes a pass at least.
        have := ran.number_le
        omega
  | succ limit ih =>
      simp only [runPasses, Recorded.result_bind_eq_ok_iff, Prod.exists, runRules_eq_ok_iff]
      constructor
      · rintro ⟨pass, middle, ran, returned⟩
        split at returned
        · rename_i continues
          obtain ⟨more, later, returned⟩ := Recorded.result_bind_eq_ok_iff.mp returned
          cases returned
          obtain ⟨laterRan, few⟩ := ih.mp later
          exact ⟨.again ran continues laterRan, by simp only; omega⟩
        · rename_i ends
          cases returned
          exact ⟨.last ran (by simpa using ends), by simp⟩
      · rintro ⟨ran, few⟩
        cases ran with
        | last ran ends => exact ⟨_, _, ran, by simp [ends]⟩
        | again ran continues later =>
            refine ⟨_, _, ran, ?_⟩
            rw [if_pos continues]
            exact Recorded.result_bind_eq_ok_iff.mpr
              ⟨_, ih.mpr ⟨later, by simp only at few; omega⟩, rfl⟩

/-! ### Executions -/

namespace Engine

/-- Execution returns where a course of passes exists. -/
theorem execute_eq_ok_iff {engine : Engine} {program : Program} {store : Store}
    {options : ExecutionOptions} {execution : Execution} :
    (engine.execute program store options).result = .ok execution ↔
      RunRan (engine.context program options) 1 (.start store) execution ∧
        execution.passes ≤ engine.passLimit := by
  rw [execute, runPasses_eq_ok_iff, Nat.add_comm, Nat.lt_succ_iff]

theorem measure_result (engine : Engine) (result : ExecutionResult) :
    (engine.measure result).result = .ok () := by
  unfold measure
  split
  · -- whatever is emitted, also the conflicts that may be none, never fails
    simp only [Recorded.result_bind, Recorded.result_emit, Except.bind]
    split <;> rfl
  · rfl

/-- An execution returns when its payload is one, its rules run to an end, its constraints
can be checked, and its examples return. -/
theorem runWith_eq_ok_iff {engine : Engine} {program : Program} {payload : Value}
    {options : ExecutionOptions} {tests : Recorded Interruption (Option (List ExampleResult))}
    {result : ExecutionResult} :
    (engine.runWith program payload options tests).result = .ok result ↔
      ∃ start execution report testReport, Store.ofPayload payload = .ok start ∧
        (engine.execute program start options).result = .ok execution ∧
        checkConstraints execution.progress.workspace.store program.constraints = .ok report ∧
        tests.result = .ok testReport ∧ result = resultOf execution report testReport := by
  simp only [runWith, Recorded.result_bind_eq_ok_iff, Recorded.result_inScope,
    Recorded.result_lift, Except.mapError_eq_ok_iff, measure_result]
  constructor
  · rintro ⟨_, ⟨start, taken, execution, executed, report, checked, testReport, tested, _, _,
      returned⟩, _, _, same⟩
    cases returned
    cases same
    exact ⟨start, execution, report, testReport, taken, executed, checked, tested, rfl⟩
  · rintro ⟨start, execution, report, testReport, taken, executed, checked, tested, rfl⟩
    exact ⟨_, ⟨start, taken, execution, executed, report, checked, testReport, tested, (), rfl,
      rfl⟩, (), trivial, rfl⟩

end Engine

end Rulebook
