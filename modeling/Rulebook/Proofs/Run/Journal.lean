import Mathlib.Data.List.Nodup
import Mathlib.Data.List.Range
import Rulebook.Proofs.Run.Effect
import Rulebook.Proofs.Run.Firings
import Rulebook.Proofs.Run.Plain

/-!
The action log as a journal.

A log entry says where its action has written and what. Writing the entries again, in
order, over the state that a run has started from gives the state that it has ended in, and
writing those of the earlier rules gives the state that a rule was evaluated on
(`run_journal_exact`). What one action logs is what it does (`Effect.replay_log`), and
`Journalled` carries this through actions, passes and runs, together with the numbering
that tells the entries of one action from those of another.
-/

namespace Rulebook

/-! ### Replaying -/

/-- Writes what a log entry says was written. An event has no path and writes nothing. -/
def ActionLog.redo (store : Store) (log : ActionLog) : Except StoreError Store :=
  match log.path with
  | none => .ok store
  | some path =>
      if path = routeSlot then .ok (store.writeRoute log.after)
      else (store.write path log.after).map Prod.snd

/-- Writes what a journal says was written, in order. -/
def Store.replay (store : Store) (journal : List ActionLog) : Except StoreError Store :=
  journal.foldlM ActionLog.redo store

theorem Store.replay_append (store : Store) (first second : List ActionLog) :
    store.replay (first ++ second) = (store.replay first).bind (·.replay second) :=
  List.foldlM_append

def journalOf (outcomes : List ActionOutcome) : List ActionLog := outcomes.filterMap (·.log)

theorem journalOf_append (first second : List ActionOutcome) :
    journalOf (first ++ second) = journalOf first ++ journalOf second :=
  List.filterMap_append

theorem journalOf_singleton (outcome : ActionOutcome) :
    journalOf [outcome] = outcome.log.toList := by
  cases log : outcome.log <;> simp [journalOf, log]

namespace Effect

variable {catalog : Catalog} {live : Bool} {workspace next : Workspace} {action : Action}
  {now : Writer} {outcome : ActionOutcome}

/-- What a live action logs is what it has written. -/
theorem replay_log (effect : Effect catalog true workspace action now outcome next) :
    workspace.store.replay outcome.log.toList = .ok next.store := by
  cases effect with
  | refused => rfl
  | event => rfl
  | route => rfl
  | @field target entity name before after issues _ split =>
      have other : target ≠ routeSlot := splitPath?_ne_routeSlot split
      simp [Action.writeOutcome, Store.replay, ActionLog.redo, other, Store.write, split,
        Except.map]

theorem actionId_eq (effect : Effect catalog live workspace action now outcome next) :
    outcome.trace.actionId = now.actionId := by
  cases effect <;> rfl

/-- A log carries the identifier of the outcome it stands beside. -/
theorem log_actionId (effect : Effect catalog live workspace action now outcome next) :
    ∀ log ∈ outcome.log, log.actionId = outcome.trace.actionId := by
  cases effect with
  | refused => simp [Action.refusedOutcome]
  | event => cases live <;> simp [Action.eventOutcome]
  | field => cases live <;> simp [Action.writeOutcome]
  | route => cases live <;> simp [Action.writeOutcome]

end Effect

/-! ### The invariant -/

/-- Numbers are read back from identifiers. -/
theorem actionId_injective : Function.Injective actionId := by
  intro m n same
  have texts : Nat.repr m = Nat.repr n := (String.append_right_inj "act-").mp same
  have digits : Nat.toDigits 10 m = Nat.toDigits 10 n := by
    rw [← Nat.toList_repr, ← Nat.toList_repr, texts]
  rw [← @Nat.ofDigitChars_ten_toDigits m, digits, Nat.ofDigitChars_ten_toDigits]

/-- These outcomes lead from one state to another: what they log is what was written, and
the actions are numbered on from those before. -/
structure Journalled (before : Progress) (outcomes : List ActionOutcome) (after : Progress) :
    Prop where
  replayed : before.workspace.store.replay (journalOf outcomes) = .ok after.workspace.store
  counted : after.actionCount = before.actionCount + outcomes.length
  numbered : outcomes.map (·.trace.actionId) =
    (List.range' (before.actionCount + 1) outcomes.length).map actionId
  named : ∀ outcome ∈ outcomes, ∀ log ∈ outcome.log, log.actionId = outcome.trace.actionId

namespace Journalled

theorem nil (progress : Progress) : Journalled progress [] progress :=
  ⟨rfl, rfl, rfl, fun _ member => nomatch member⟩

/-- Journalled stretches are put together: replay goes on, and identifiers stay apart by number. -/
theorem append {before middle after : Progress} {first second : List ActionOutcome}
    (one : Journalled before first middle) (two : Journalled middle second after) :
    Journalled before (first ++ second) after where
  replayed := by
    rw [journalOf_append, Store.replay_append, one.replayed]
    exact two.replayed
  counted := by rw [two.counted, one.counted, List.length_append, Nat.add_assoc]
  numbered := by
    rw [List.map_append, one.numbered, two.numbered, one.counted, ← List.map_append,
      List.length_append, Nat.add_right_comm, List.range'_append_1]
  named := by
    intro outcome member
    rcases List.mem_append.mp member with earlier | later
    · exact one.named outcome earlier
    · exact two.named outcome later

/-- Replaying goes on from the state that was reached. -/
theorem replay_more {before after : Progress} {outcomes : List ActionOutcome}
    (journalled : Journalled before outcomes after) (more : List ActionLog) :
    before.workspace.store.replay (journalOf outcomes ++ more) =
      after.workspace.store.replay more := by
  rw [Store.replay_append, journalled.replayed]
  rfl

/-- The numbers of the actions tell them apart. -/
theorem distinct {before after : Progress} {outcomes : List ActionOutcome}
    (journalled : Journalled before outcomes after) :
    (outcomes.map (·.trace.actionId)).Nodup := by
  rw [journalled.numbered]
  exact (List.nodup_range' 1).map actionId_injective

end Journalled

/-! ### Actions, passes, runs -/

theorem Skipped.outcomes_eq {number : Nat} {store : Store} {rules : List Rule}
    {steps : List RuleStep} (skipped : Skipped number store rules steps) :
    steps.flatMap (·.outcomes) = [] :=
  List.flatMap_eq_nil_iff.mpr (skipped.forall_mem fun _ _ => rfl)

section Runs

variable {context : RunContext} (live : context.options.enableActions = true)

include live

theorem Applied.journalled {ruleId : String} {actions : List Action} {before after : Progress}
    {outcomes : List ActionOutcome}
    (applied : Applied context ruleId actions before outcomes after) :
    Journalled before outcomes after := by
  induction applied with
  | done progress => exact .nil progress
  | @step action rest before outcome workspace outcomes after acted _ ih =>
      rw [RunContext.act, live, Action.apply_eq_ok_iff] at acted
      have one : Journalled before [outcome] (before.acted workspace) :=
        { replayed := by
            rw [journalOf_singleton]
            exact acted.replay_log
          counted := rfl
          numbered := by simp [acted.actionId_eq]
          named := by simpa using acted.log_actionId }
      exact one.append ih

theorem RuleRan.journalled {rule : Rule} {before after : Progress} {why : ConditionTrace}
    {outcomes : List ActionOutcome} (ran : RuleRan context rule before why outcomes after) :
    Journalled before outcomes after := by
  have applied := ran.applied.journalled live
  cases h : why.result <;> rw [h] at applied <;> exact ⟨applied.1, applied.2, applied.3, applied.4⟩

/-- In a pass, the skipped rules add nothing. -/
theorem PassRan.journalled {number : Nat} {rules : List Rule} {before after : Progress}
    {pass : Pass} (ran : PassRan context number rules before pass after) :
    Journalled before (pass.steps.flatMap (·.outcomes)) after := by
  induction ran with
  | done progress => exact .nil progress
  | next first _ _ ih => exact (first.journalled live).append ih
  | capped first => exact (first.journalled live).append (.nil _)
  | stopped first _ skipped =>
      rw [List.flatMap_cons, skipped.outcomes_eq, List.append_nil]
      exact first.journalled live

theorem RunRan.journalled {number : Nat} {before : Progress} {execution : Execution}
    (ran : RunRan context number before execution) :
    Journalled before execution.outcomes execution.progress := by
  induction ran with
  | last pass _ => exact pass.journalled live
  | again pass _ _ ih =>
      rw [Execution.outcomes, List.flatMap_append]
      exact (pass.journalled live).append ih

end Runs

/-! ### What conditions were evaluated on -/

def journalOfSteps (steps : List RuleStep) : List ActionLog :=
  journalOf (steps.flatMap (·.outcomes))

theorem journalOfSteps_append (first second : List RuleStep) :
    journalOfSteps (first ++ second) =
      journalOf (first.flatMap (·.outcomes)) ++ journalOfSteps second := by
  rw [journalOfSteps, List.flatMap_append, journalOf_append]
  rfl

theorem journalOfSteps_cons (step : RuleStep) (steps : List RuleStep) :
    journalOfSteps (step :: steps) = journalOf step.outcomes ++ journalOfSteps steps := by
  rw [journalOfSteps, List.flatMap_cons, journalOf_append]
  rfl

/-- A step that was not skipped shows how the condition of its rule came out on this store. -/
def RuleStep.Explained (step : RuleStep) (rule : Option Rule) (store : Except StoreError Store) :
    Prop :=
  step.trace.skipped = false → ∃ r s, rule = some r ∧ store = .ok s ∧
    step.trace.ruleId = r.id ∧ r.condition.evaluate s = .ok step.trace.why

theorem Skipped.skipped {number : Nat} {store : Store} {rules : List Rule}
    {steps : List RuleStep} (skipped : Skipped number store rules steps) :
    ∀ step ∈ steps, step.trace.skipped = true :=
  skipped.forall_mem fun _ _ => rfl

@[simp] theorem RunContext.stepOf_outcomes (context : RunContext) (number : Nat) (rule : Rule)
    (why : ConditionTrace) (outcomes : List ActionOutcome) :
    (context.stepOf number rule why outcomes).outcomes = outcomes := rfl

section Explanations

variable {context : RunContext}

/-- The why of a rule is its condition on the store it found. -/
theorem RuleRan.explained {number : Nat} {rule : Rule} {before after : Progress}
    {why : ConditionTrace} {outcomes : List ActionOutcome}
    (ran : RuleRan context rule before why outcomes after) :
    (context.stepOf number rule why outcomes).Explained (some rule) (.ok before.workspace.store) :=
  fun _ => ⟨rule, _, rfl, rfl, rfl, ran.evaluated⟩

/-- A complete pass has a step for each rule, and no pass has more. -/
theorem PassRan.length_le {number : Nat} {rules : List Rule} {before after : Progress}
    {pass : Pass} (ran : PassRan context number rules before pass after) :
    pass.steps.length ≤ rules.length ∧
      (pass.continuation = .next → pass.steps.length = rules.length) := by
  induction ran with
  | done => exact ⟨Nat.le_refl _, fun _ => rfl⟩
  | next _ _ _ ih =>
      exact ⟨Nat.succ_le_succ ih.1, fun complete => congrArg _ (ih.2 complete)⟩
  | capped => exact ⟨by simp, nofun⟩
  | stopped _ _ skipped => exact ⟨Nat.succ_le_succ skipped.length_eq.ge, nofun⟩

variable (live : context.options.enableActions = true)

include live

/-- In a pass, that store is what the journal of the earlier steps replays to. -/
theorem PassRan.explained {number : Nat} {rules : List Rule} {before after : Progress}
    {pass : Pass} (ran : PassRan context number rules before pass after) {i : Nat} {step : RuleStep}
    (place : pass.steps[i]? = some step) :
    step.Explained rules[i]?
      (before.workspace.store.replay (journalOfSteps (pass.steps.take i))) := by
  induction ran generalizing i with
  | done => cases place
  | next first _ _ ih =>
      cases i with
      | zero =>
          cases place
          exact first.explained
      | succ i =>
          -- The journal of the first step replays to the store that the second one finds.
          rw [List.take_succ_cons, journalOfSteps_cons, RunContext.stepOf_outcomes,
            (first.journalled live).replay_more]
          exact ih place
  | capped first =>
      cases i with
      | zero =>
          cases place
          exact first.explained
      | succ i => cases place
  | stopped first _ skipped =>
      cases i with
      | zero =>
          cases place
          exact first.explained
      | succ i =>
          intro ran
          exact absurd (ran.symm.trans (skipped.skipped step (List.mem_of_getElem? place)))
            Bool.false_ne_true

/-- In a run, the journal of the earlier passes comes before. -/
theorem RunRan.explained {number : Nat} {before : Progress} {execution : Execution}
    (ran : RunRan context number before execution) {i : Nat} {step : RuleStep}
    (place : execution.steps[i]? = some step) :
    step.Explained context.rules[i % context.rules.length]?
      (before.workspace.store.replay (journalOfSteps (execution.steps.take i))) := by
  induction ran generalizing i with
  | last pass _ =>
      have inside := (List.getElem?_eq_some_iff.mp place).1
      rw [Nat.mod_eq_of_lt (Nat.lt_of_lt_of_le inside pass.length_le.1)]
      exact pass.explained live place
  | @again number before pass middle execution ran continues _ ih =>
      have complete := ran.length_le.2 (Pass.continues_iff.mp continues).2.2
      rcases Nat.lt_or_ge i pass.steps.length with inside | beyond
      · rw [List.getElem?_append_left inside] at place
        rw [List.take_append_of_le_length (Nat.le_of_lt inside),
          Nat.mod_eq_of_lt (complete ▸ inside)]
        exact ran.explained live place
      · -- A later pass finds the store that the whole journal of this one replays to.
        obtain ⟨j, rfl⟩ := Nat.exists_eq_add_of_le beyond
        rw [List.getElem?_append_right beyond, Nat.add_sub_cancel_left] at place
        rw [List.take_length_add_append, journalOfSteps_append, (ran.journalled live).replay_more,
          complete, Nat.add_mod_left]
        exact ih place

end Explanations

/-! ### The journal of a result -/

/-- A step shows the traces of the outcomes that it has. -/
theorem PassRan.shows {context : RunContext} {number : Nat} {rules : List Rule}
    {before after : Progress} {pass : Pass} (ran : PassRan context number rules before pass after) :
    ∀ step ∈ pass.steps, step.trace.actionsApplied = step.outcomes.map (·.trace) :=
  ran.forall_mem (fun _ _ _ => rfl) fun _ _ => rfl

theorem RunRan.shows {context : RunContext} {number : Nat} {before : Progress}
    {execution : Execution} (ran : RunRan context number before execution) :
    ∀ step ∈ execution.steps, step.trace.actionsApplied = step.outcomes.map (·.trace) :=
  ran.forall_mem (fun _ _ _ _ => rfl) fun _ _ _ => rfl

/-- Entries are told apart by the actions that they belong to. -/
theorem Journalled.journalOf_left {before after : Progress} {first second : List ActionOutcome}
    (journalled : Journalled before (first ++ second) after) :
    (journalOf (first ++ second)).filter
        (fun log => (first.map (·.trace)).any (·.actionId == log.actionId)) =
      journalOf first := by
  have distinct := journalled.distinct
  rw [List.map_append] at distinct
  rw [journalOf_append, List.filter_append, List.filter_eq_self.mpr, List.filter_eq_nil_iff.mpr,
    List.append_nil]
  · intro log member found
    obtain ⟨outcome, inside, logged⟩ := List.mem_filterMap.mp member
    obtain ⟨trace, among, same⟩ := List.any_eq_true.mp found
    obtain ⟨other, earlier, rfl⟩ := List.mem_map.mp among
    have id := journalled.named outcome (List.mem_append_right _ inside) log logged
    rw [beq_iff_eq, id] at same
    exact List.disjoint_of_nodup_append distinct (List.mem_map_of_mem earlier)
      (same ▸ List.mem_map_of_mem inside)
  · intro log member
    obtain ⟨outcome, inside, logged⟩ := List.mem_filterMap.mp member
    have id := journalled.named outcome (List.mem_append_left _ inside) log logged
    exact List.any_eq_true.mpr ⟨_, List.mem_map_of_mem inside, beq_iff_eq.mpr id.symm⟩

/-- The log entries of the actions that the first entries of the trace have applied. -/
def ExecutionResult.journalBefore (result : ExecutionResult) (i : Nat) : List ActionLog :=
  result.actions.filter fun log =>
    ((result.trace.take i).flatMap (·.actionsApplied)).any (·.actionId == log.actionId)

/-- The journal before a step, read off the result by identifiers, is that of the earlier steps. -/
theorem RunRan.journalBefore_eq {context : RunContext}
    (live : context.options.enableActions = true) {number : Nat} {before : Progress}
    {execution : Execution} (ran : RunRan context number before execution)
    (report : ConstraintReport) (tests : Option (List ExampleResult)) (i : Nat) :
    (Engine.resultOf execution report tests).journalBefore i =
      journalOfSteps (execution.steps.take i) := by
  have journalled := ran.journalled live
  have shown : ((execution.steps.map (·.trace)).take i).flatMap (·.actionsApplied) =
      ((execution.steps.take i).flatMap (·.outcomes)).map (·.trace) := by
    rw [← List.map_take, List.flatMap_map, List.map_flatMap]
    exact List.flatMap_congr fun step member => ran.shows step (List.mem_of_mem_take member)
  have split : execution.outcomes = (execution.steps.take i).flatMap (·.outcomes) ++
      (execution.steps.drop i).flatMap (·.outcomes) := by
    rw [← List.flatMap_append, List.take_append_drop]
    rfl
  rw [split] at journalled
  rw [ExecutionResult.journalBefore, journalOfSteps, ← journalled.journalOf_left, ← split]
  simp only [Engine.resultOf, shown]
  rfl

/-- Replaying the log of a live run over the facts that it has started from gives its final
state, and what a trace entry shows is how the condition of its rule comes out on the state
that the log entries of the earlier rules give. -/
theorem run_journal_exact (engine : Engine) (program : Program) (payload : Value)
    (options : ExecutionOptions) (result : ExecutionResult)
    (live : options.enableActions = true)
    (returned : (engine.run program payload options).result = .ok result) :
    ∃ start final, Store.ofPayload payload = .ok start ∧
      start.replay result.actions = .ok final ∧ final.snapshot = result.resultState ∧
      ∀ i entry, result.trace[i]? = some entry → entry.skipped = false →
        ∃ rule store, (sortRules program.rules)[i % program.rules.length]? = some rule ∧
          entry.ruleId = rule.id ∧ start.replay (result.journalBefore i) = .ok store ∧
          rule.condition.evaluate store = .ok entry.why := by
  obtain ⟨start, execution, report, tests, taken, executed, _, _, rfl⟩ :=
    Engine.runWith_eq_ok_iff.mp returned
  have ran := (Engine.execute_eq_ok_iff.mp executed).1
  refine ⟨start, execution.progress.workspace.store, taken, (ran.journalled live).replayed, rfl, ?_⟩
  intro i entry place unskipped
  have shown : (execution.steps.map (·.trace))[i]? = some entry := place
  rw [List.getElem?_map] at shown
  obtain ⟨step, stepPlace, rfl⟩ := Option.map_eq_some_iff.mp shown
  obtain ⟨rule, store, rulePlace, replayed, ruleId, evaluated⟩ :=
    ran.explained live stepPlace unskipped
  have rules : (engine.context program options).rules.length = program.rules.length :=
    List.length_mergeSort ..
  rw [rules] at rulePlace
  exact ⟨rule, store, rulePlace, ruleId, (ran.journalBefore_eq live ..).symm ▸ replayed, evaluated⟩

/-- A program with an action of each kind, and a rule that is evaluated after them. -/
def ticketProgram : Program :=
  .plain "ticket" [("text", .string), ("count", .number), ("notes", .string)]
    [.plain "take" 2 (.present ⟨"ticket.text", none⟩)
      [.set "ticket.text" (.literal (.text "taken") none), .increment "ticket.count" (.int 1),
       .append "ticket.notes" (.literal (.text "seen") none), .emit "taken" [],
       .route "desk" none] [],
     .plain "close" 1 (.compare (.fact ⟨"ticket.count", none⟩) .equals (.literal (.int 1) none))
      [.increment "ticket.count" (.int 1)] []]

def ticketPayload : Value := Record.payload "ticket" [("text", .text "late")]

theorem ticketProgram_sorted : sortRules ticketProgram.rules = ticketProgram.rules :=
  List.mergeSort_of_pairwise (by decide +kernel)

theorem ticket_returns :
    ∃ result, ((⟨.default, 1⟩ : Engine).run ticketProgram ticketPayload .once).result =
      .ok result := by
  have returns : returnsWith (·.success)
      ((⟨.default, 1⟩ : Engine).run ticketProgram ticketPayload .once).result = true := by
    simp only [Engine.run, Engine.runWith, Engine.execute, Engine.context, ticketProgram_sorted]
    decide +kernel
  obtain ⟨result, returned, _⟩ := eq_ok_of_returnsWith returns
  exact ⟨result, returned⟩

theorem ticket_journal_exact :
    ∃ result, ((⟨.default, 1⟩ : Engine).run ticketProgram ticketPayload .once).result =
        .ok result ∧
      ∃ start final, Store.ofPayload ticketPayload = .ok start ∧
        start.replay result.actions = .ok final ∧ final.snapshot = result.resultState ∧
        ∀ i entry, result.trace[i]? = some entry → entry.skipped = false →
          ∃ rule store, (sortRules ticketProgram.rules)[i % ticketProgram.rules.length]? =
              some rule ∧
            entry.ruleId = rule.id ∧ start.replay (result.journalBefore i) = .ok store ∧
            rule.condition.evaluate store = .ok entry.why := by
  obtain ⟨result, returned⟩ := ticket_returns
  exact ⟨result, returned, run_journal_exact _ _ _ _ result rfl returned⟩

end Rulebook
