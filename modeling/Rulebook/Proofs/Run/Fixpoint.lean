import Rulebook.Proofs.Run.Calm
import Rulebook.Proofs.Run.Firings
import Rulebook.Proofs.Run.Interruption
import Rulebook.Proofs.Run.Passes
import Rulebook.Proofs.Run.Plain

/-!
Settled runs are fixpoints, but for spelling.

A run settles with a pass that changes nothing. Run again on its final state, the program
makes that pass once more: the store differs from the one that the pass has started from in
the spelling of numbers only, and conditions and actions do not see spelling, apart from
`contains`, which looks at the text of a number, and the increment by a whole number, which
is exact on integers and rounded on floating point numbers. Where these two keep away from
facts that the pass has respelt, the final state is the same again
(`settled_run_is_fixpoint`); where they do not, it may change (`respelt_fact_unsettles`).
-/

namespace Rulebook

/-! ### Calm passes -/

section Passes

variable {loose : String → String → Prop} {context : RunContext} {number : Nat}

/-- The outcomes changed nothing, and what they have respelt is loose. -/
def Quiet (loose : String → String → Prop) (outcomes : List ActionOutcome) : Prop :=
  ∀ outcome ∈ outcomes, outcome.mutated = false ∧ outcome.Covered loose

/-- The rule does not look for loose facts with `contains`, nor does it add to them. -/
structure Rule.Heedless (loose : String → String → Prop) (rule : Rule) : Prop where
  unseeking : rule.condition.Unseeking loose
  exactly : ∀ matched, ∀ action ∈ rule.branch matched, action.Exact loose

variable (live : context.options.enableActions = true)

include live

/-- Quiet actions respell what they write, the loose paths apart. -/
theorem Applied.alikeBut {ruleId : String} {actions : List Action} {before after : Progress}
    {outcomes : List ActionOutcome} (applied : Applied context ruleId actions before outcomes after)
    (keyed : before.workspace.store.Keyed) (quiet : Quiet loose outcomes)
    (exactly : ∀ action ∈ actions, action.Exact loose) :
    before.workspace.store.AlikeBut loose after.workspace.store := by
  induction applied with
  | done => exact .refl _
  | step acted rest ih =>
      rw [RunContext.act, live, Action.apply_eq_ok_iff] at acted
      obtain ⟨here, there⟩ := List.forall_mem_cons.mp quiet
      obtain ⟨exactHere, exactThere⟩ := List.forall_mem_cons.mp exactly
      have calm := acted.calm here.1 here.2 exactHere
      have keyedNext := acted.keyed keyed
      exact calm.alikeBut.trans keyed keyedNext (rest.keyed keyedNext)
        (ih keyedNext there exactThere)

/-- Calm actions can be applied once more on an alike store. -/
theorem Applied.repeats {ruleId : String} {actions : List Action} {before after : Progress}
    {outcomes : List ActionOutcome} (applied : Applied context ruleId actions before outcomes after)
    (keyed : before.workspace.store.Keyed) (quiet : Quiet loose outcomes)
    (exactly : ∀ action ∈ actions, action.Exact loose) (again : Progress)
    (keyedAgain : again.workspace.store.Keyed)
    (alike : before.workspace.store.AlikeBut loose again.workspace.store) :
    ∃ outcomes' after', Applied context ruleId actions again outcomes' after' ∧
      after.workspace.store.AlikeBut loose after'.workspace.store ∧
      (∀ outcome ∈ outcomes', outcome.mutated = false) ∧
      (again.workspace.store.Unmixed → after'.workspace.store.Unmixed) := by
  induction applied generalizing again with
  | done => exact ⟨[], again, .done again, alike, by simp, id⟩
  | @step action actions before outcome workspace outcomes after acted rest ih =>
      rw [RunContext.act, live, Action.apply_eq_ok_iff] at acted
      obtain ⟨here, there⟩ := List.forall_mem_cons.mp quiet
      obtain ⟨exactHere, exactThere⟩ := List.forall_mem_cons.mp exactly
      -- What an action leaves alone here it leaves alone on any state that is alike.
      have calm := acted.calm here.1 here.2 exactHere
      obtain ⟨outcome', next, effect, alikeNext, unchanged, unmixed⟩ :=
        calm.repeats alike keyed keyedAgain again.workspace.tracker
          ⟨ruleId, actionId (again.actionCount + 1)⟩
      have actedAgain : context.act ruleId again action = .ok (outcome', next) := by
        rw [RunContext.act, live, Action.apply_eq_ok_iff]
        exact effect
      obtain ⟨outcomes', after', applied', alikeAfter, unchangedRest, unmixedRest⟩ :=
        ih (acted.keyed keyed) there exactThere (again.acted next) (effect.keyed keyedAgain)
          alikeNext
      exact ⟨outcome' :: outcomes', after', .step actedAgain applied', alikeAfter,
        List.forall_mem_cons.mpr ⟨unchanged, unchangedRest⟩, unmixedRest ∘ unmixed⟩

/-- So does a quiet rule. -/
theorem RuleRan.alikeBut {rule : Rule} {before after : Progress} {why : ConditionTrace}
    {outcomes : List ActionOutcome} (ran : RuleRan context rule before why outcomes after)
    (keyed : before.workspace.store.Keyed) (quiet : Quiet loose outcomes)
    (heedless : rule.Heedless loose) :
    before.workspace.store.AlikeBut loose after.workspace.store := by
  have keyedCount : (before.count why.result).workspace.store.Keyed := by
    rwa [Progress.count_workspace]
  have drift := ran.applied.alikeBut live keyedCount quiet (heedless.exactly _)
  rwa [Progress.count_workspace] at drift

/-- A calm rule can be run once more on an alike store, and does not come to the cap if it
has not come there before. -/
theorem RuleRan.repeats {rule : Rule} {before after : Progress} {why : ConditionTrace}
    {outcomes : List ActionOutcome} (ran : RuleRan context rule before why outcomes after)
    (goesOn : context.continuation rule why after = .next) (keyed : before.workspace.store.Keyed)
    (quiet : Quiet loose outcomes) (heedless : rule.Heedless loose) (again : Progress)
    (keyedAgain : again.workspace.store.Keyed)
    (alike : before.workspace.store.AlikeBut loose again.workspace.store)
    (fewer : again.firings ≤ before.firings) :
    ∃ why' outcomes' after', RuleRan context rule again why' outcomes' after' ∧
      context.continuation rule why' after' = .next ∧ after'.firings ≤ after.firings ∧
      after.workspace.store.AlikeBut loose after'.workspace.store ∧
      (∀ outcome ∈ outcomes', outcome.mutated = false) ∧
      (again.workspace.store.Unmixed → after'.workspace.store.Unmixed) := by
  obtain ⟨why', evaluated, same⟩ :=
    Condition.evaluate_alike alike keyed keyedAgain rule.condition ran.evaluated
  have same := same heedless.unseeking
  obtain ⟨outcomes', after', applied, alikeAfter, unchanged, unmixed⟩ :=
    ran.applied.repeats live (by rwa [Progress.count_workspace]) quiet (heedless.exactly _)
      (again.count why.result) (by rwa [Progress.count_workspace])
      (by simpa only [Progress.count_workspace] using alike)
  have ranAgain : RuleRan context rule again why' outcomes' after' :=
    ⟨evaluated, by rw [same]; exact applied⟩
  have fewerAfter : after'.firings ≤ after.firings := by
    rw [ranAgain.firings_eq, ran.firings_eq, same]
    exact Nat.add_le_add_right fewer _
  have onward :=
    RunContext.continuation_of_le (by rw [goesOn]; exact nofun) same fewerAfter
  exact ⟨why', outcomes', after', ranAgain, onward.trans goesOn, fewerAfter, alikeAfter, unchanged,
    by rwa [Progress.count_workspace] at unmixed⟩

/-- A calm pass drifts to an alike store. -/
theorem PassRan.alikeBut {rules : List Rule} {before after : Progress} {pass : Pass}
    (ran : PassRan context number rules before pass after) (complete : pass.continuation = .next)
    (keyed : before.workspace.store.Keyed) (quiet : ∀ step ∈ pass.steps, Quiet loose step.outcomes)
    (heedless : ∀ rule ∈ rules, rule.Heedless loose) :
    before.workspace.store.AlikeBut loose after.workspace.store := by
  induction ran with
  | done => exact .refl _
  | next first _ later ih =>
      obtain ⟨here, there⟩ := List.forall_mem_cons.mp quiet
      obtain ⟨rule, rules⟩ := List.forall_mem_cons.mp heedless
      have keyedNext := first.keyed keyed
      exact (first.alikeBut live keyed here rule).trans keyed keyedNext (later.keyed keyedNext)
        (ih complete keyedNext there rules)
  | capped => cases complete
  | stopped => cases complete

/-- A calm pass can be made once more on an alike store, and changes nothing again. -/
theorem PassRan.repeats {rules : List Rule} {before after : Progress} {pass : Pass}
    (ran : PassRan context number rules before pass after) (complete : pass.continuation = .next)
    (keyed : before.workspace.store.Keyed) (quiet : ∀ step ∈ pass.steps, Quiet loose step.outcomes)
    (heedless : ∀ rule ∈ rules, rule.Heedless loose) (again : Progress)
    (keyedAgain : again.workspace.store.Keyed)
    (alike : before.workspace.store.AlikeBut loose again.workspace.store)
    (fewer : again.firings ≤ before.firings) (number' : Nat) :
    ∃ pass' after', PassRan context number' rules again pass' after' ∧
      pass'.continuation = .next ∧ pass'.mutated = false ∧
      after.workspace.store.AlikeBut loose after'.workspace.store ∧
      (again.workspace.store.Unmixed → after'.workspace.store.Unmixed) := by
  induction ran generalizing again with
  | done => exact ⟨⟨[], .next⟩, again, .done again, rfl, rfl, alike, id⟩
  | next first goesOn _ ih =>
      obtain ⟨here, there⟩ := List.forall_mem_cons.mp quiet
      obtain ⟨rule, rules⟩ := List.forall_mem_cons.mp heedless
      obtain ⟨why', outcomes', middle', firstAgain, goesOnAgain, fewerNext, alikeNext, unchanged,
        unmixed⟩ := first.repeats live goesOn keyed here rule again keyedAgain alike fewer
      obtain ⟨pass', after', laterAgain, completeAgain, unchangedRest, alikeAfter, unmixedRest⟩ :=
        ih complete (first.keyed keyed) there rules middle' (firstAgain.keyed keyedAgain) alikeNext
          fewerNext
      refine ⟨_, after', .next firstAgain goesOnAgain laterAgain, completeAgain, ?_, alikeAfter,
        unmixedRest ∘ unmixed⟩
      -- Neither the first step nor a later one mutates.
      rw [Pass.mutated, List.any_cons, ← Pass.mutated, unchangedRest, Bool.or_false]
      simpa [RuleStep.mutated] using unchanged
  | capped => cases complete
  | stopped => cases complete

end Passes

/-! ### The last pass -/

def ExecutionResult.lastPass (result : ExecutionResult) : List RuleTrace :=
  result.trace.filter fun entry => result.trace.getLast?.any (·.passNumber == entry.passNumber)

/-- The run was not cut off by the cap, nor its last pass by a rule. -/
def ExecutionResult.settled (result : ExecutionResult) : Bool :=
  !result.hitRuleLimit && result.lastPass.all (!·.stopProcessing)

/-- The last pass has written a field another way than it was, or has set it to such a
field. -/
inductive ExecutionResult.Respelt (result : ExecutionResult) : String → String → Prop where
  | written {entry trace path entity name} :
      entry ∈ result.lastPass → trace ∈ entry.actionsApplied → trace.applied = true →
      trace.path = some path → splitPath? path = some (entity, name) →
      trace.before ≠ trace.after → Respelt result entity name
  | copied {entry trace target ref entity name entity' name'} :
      entry ∈ result.lastPass → trace ∈ entry.actionsApplied → trace.applied = true →
      trace.action = .set target (.fact ref) → splitPath? target = some (entity, name) →
      splitPath? ref.path = some (entity', name') → Respelt result entity' name' →
      Respelt result entity name

/-- A settled result hit no limit and its last pass was not stopped. -/
theorem ExecutionResult.settled_iff {result : ExecutionResult} : result.settled = true ↔
    result.hitRuleLimit = false ∧ ∀ entry ∈ result.lastPass, entry.stopProcessing = false := by
  simp [settled]

theorem ExecutionResult.covered {result : ExecutionResult} {entry : RuleTrace}
    {outcome : ActionOutcome} (last : entry ∈ result.lastPass)
    (shown : outcome.trace ∈ entry.actionsApplied) : outcome.Covered result.Respelt where
  respelt applied path changed split := .written last shown applied path split changed
  copied applied action free split := by
    obtain ⟨entity', name', splitRef, respelt⟩ := free
    exact .copied last shown applied action split splitRef respelt

section LastPass

variable {context : RunContext} {number : Nat}

/-- Only an entry that says so stops a pass. -/
theorem PassRan.stopProcessing {rules : List Rule} {before after : Progress} {pass : Pass}
    (ran : PassRan context number rules before pass after)
    (stopped : pass.continuation = .stopped) :
    ∃ step ∈ pass.steps, step.trace.stopProcessing = true := by
  induction ran with
  | done => cases stopped
  | next _ _ _ ih =>
      obtain ⟨step, member, stops⟩ := ih stopped
      exact ⟨step, List.mem_cons_of_mem _ member, stops⟩
  | capped => cases stopped
  | @stopped rule _ _ why _ _ _ _ ends _ =>
      refine ⟨_, List.mem_cons_self, ?_⟩
      rw [RunContext.stepOf_stopProcessing (by rw [ends]; exact nofun), ends]
      rfl

/-- Every run ends with a pass. -/
theorem RunRan.last_pass {before : Progress} {execution : Execution}
    (ran : RunRan context number before execution) (keyed : before.workspace.store.Keyed) :
    ∃ earlier start pass, PassRan context execution.passes context.rules start pass
        execution.progress ∧
      start.workspace.store.Keyed ∧ pass.continues context.options = false ∧
      execution.hitRuleLimit = (pass.continuation == .capped) ∧
      execution.steps = earlier ++ pass.steps := by
  induction ran with
  | last ran ends => exact ⟨[], _, _, ran, keyed, ends, rfl, rfl⟩
  | @again _ _ pass _ _ ran _ _ ih =>
      obtain ⟨earlier, start, last, lastRan, keyedStart, ends, limit, steps⟩ := ih (ran.keyed keyed)
      refine ⟨pass.steps ++ earlier, start, last, lastRan, keyedStart, ends, limit, ?_⟩
      rw [steps, List.append_assoc]

/-- The steps of a run's last pass are the last pass of its trace. -/
theorem PassRan.mem_lastPass {rules : List Rule} {before after : Progress} {pass : Pass}
    {execution : Execution} {earlier : List RuleStep}
    (ran : PassRan context number rules before pass after)
    (steps : execution.steps = earlier ++ pass.steps) (report : ConstraintReport)
    (tests : Option (List ExampleResult)) :
    ∀ step ∈ pass.steps, step.trace ∈ (Engine.resultOf execution report tests).lastPass := by
  intro step member
  have trace : (Engine.resultOf execution report tests).trace =
      (earlier ++ pass.steps).map (·.trace) := by rw [← steps]; rfl
  have nonempty : pass.steps ≠ [] := List.ne_nil_of_mem member
  rw [ExecutionResult.lastPass, trace, List.mem_filter]
  refine ⟨List.mem_map_of_mem (List.mem_append_right _ member), ?_⟩
  rw [List.getLast?_map, List.getLast?_append_of_ne_nil _ nonempty,
    List.getLast?_eq_some_getLast nonempty]
  simp [ran.passNumber_eq _ (List.getLast_mem nonempty), ran.passNumber_eq _ member]

/-- The last pass of a settled run went through all rules and changed nothing. -/
theorem RunRan.quiet_of_settled {before : Progress} {execution : Execution}
    {report : ConstraintReport} {tests : Option (List ExampleResult)}
    (ran : RunRan context number before execution) (keyed : before.workspace.store.Keyed)
    (loops : context.options.loopUntilSettled = true)
    (settled : (Engine.resultOf execution report tests).settled = true) :
    ∃ start pass, PassRan context execution.passes context.rules start pass execution.progress ∧
      start.workspace.store.Keyed ∧ pass.continuation = .next ∧
      ∀ step ∈ pass.steps,
        Quiet (Engine.resultOf execution report tests).Respelt step.outcomes := by
  obtain ⟨unlimited, unstopped⟩ := ExecutionResult.settled_iff.mp settled
  obtain ⟨earlier, start, pass, last, keyedStart, ends, limit, steps⟩ := ran.last_pass keyed
  have shown := last.mem_lastPass steps report tests
  have complete : pass.continuation = .next := by
    cases continuation : pass.continuation with
    | next => rfl
    | capped =>
        rw [continuation] at limit
        exact nomatch limit.symm.trans unlimited
    | stopped =>
        obtain ⟨step, member, stops⟩ := last.stopProcessing continuation
        exact nomatch stops.symm.trans (unstopped _ (shown step member))
  have unchanged : pass.mutated = false := by
    by_contra mutated
    have continues : pass.continues context.options = true :=
      Pass.continues_iff.mpr ⟨loops, by simpa using mutated, complete⟩
    exact nomatch continues.symm.trans ends
  refine ⟨start, pass, last, keyedStart, complete, ?_⟩
  intro step member outcome among
  constructor
  · simp only [Pass.mutated, RuleStep.mutated, List.any_eq_false, Bool.not_eq_true] at unchanged
    exact unchanged step member outcome among
  · refine ExecutionResult.covered (shown step member) ?_
    rw [last.shows step member]
    exact List.mem_map_of_mem among

end LastPass

/-! ### Running again -/

/-- Constraints that can be checked on a store can be checked on an alike one. -/
theorem Engine.checkConstraints_alike {loose : String → String → Prop} {s t : Store}
    (alike : s.AlikeBut loose t) (keyedS : s.Keyed) (keyedT : t.Keyed)
    {constraints : List Constraint} {report : ConstraintReport}
    (checked : checkConstraints s constraints = .ok report) :
    ∃ report', checkConstraints t constraints = .ok report' := by
  rw [returns_iff, checkConstraints_fails_iff]
  rintro ⟨constraint, member, trips⟩
  have sound : ¬ Fails (constraint.assertion.evaluate s) := fun fails =>
    returns_iff.mp ⟨report, checked⟩ (checkConstraints_fails_iff.mpr
      ⟨constraint, member, (Condition.evaluate_fails_iff _).mp fails⟩)
  obtain ⟨why, evaluated⟩ := returns_iff.mpr sound
  obtain ⟨why', evaluated', _⟩ := Condition.evaluate_alike alike keyedS keyedT _ evaluated
  exact returns_iff.mp ⟨why', evaluated'⟩ ((Condition.evaluate_fails_iff _).mpr trips)

/-- A live run that has settled can be made once more on its final state. If its last pass
has stopped nowhere and no rule heeds what that pass has respelt, the final state is the
same again, but for the spelling of those facts, and as a document it is just the same
unless an object in a fact holds a boolean. -/
theorem settled_run_is_fixpoint (engine : Engine) (program : Program) (payload : Value)
    (options : ExecutionOptions) (result : ExecutionResult) (keyed : payload.Keyed)
    (loops : options.loopUntilSettled = true) (live : options.enableActions = true)
    (returned : (engine.run program payload options).result = .ok result)
    (settled : result.settled = true)
    (heedless : ∀ rule ∈ program.rules, rule.Heedless result.Respelt) :
    ∃ again, (engine.run program (.record result.resultState) options).result = .ok again ∧
      Store.AlikeBut result.Respelt ⟨result.resultState⟩ ⟨again.resultState⟩ ∧
      (Store.Unmixed ⟨result.resultState⟩ →
        Value.SameDocument (.record result.resultState) (.record again.resultState)) := by
  obtain ⟨start, execution, report, tests, taken, executed, checked, tested, rfl⟩ :=
    Engine.runWith_eq_ok_iff.mp returned
  obtain ⟨ran, passes⟩ := Engine.execute_eq_ok_iff.mp executed
  obtain ⟨before, pass, last, keyedBefore, complete, quiet⟩ :=
    ran.quiet_of_settled (Store.keyed_of_ofPayload keyed taken) loops settled
  have heedless : ∀ rule ∈ (engine.context program options).rules,
      rule.Heedless (Engine.resultOf execution report tests).Respelt :=
    fun rule member => heedless rule (List.mem_mergeSort.mp member)
  -- what the last pass has drifted to is where the second run starts
  have keyedFinal := last.keyed keyedBefore
  have drift := last.alikeBut live complete keyedBefore quiet heedless
  obtain ⟨pass', final', again, completeAgain, unchangedAgain, alike, unmixed⟩ :=
    last.repeats live complete keyedBefore quiet heedless
      (.start execution.progress.workspace.store) keyedFinal drift (Nat.zero_le _) 1
  have keyedAgain := again.keyed keyedFinal
  obtain ⟨report', checkedAgain⟩ :=
    Engine.checkConstraints_alike alike keyedFinal keyedAgain checked
  have executedAgain : (engine.execute program execution.progress.workspace.store options).result =
      .ok ⟨pass'.steps, final', 1, pass'.continuation == .capped⟩ := by
    refine Engine.execute_eq_ok_iff.mpr ⟨.last again ?_, ran.number_le.trans passes⟩
    simp [Pass.continues, unchangedAgain]
  exact ⟨_, Engine.runWith_eq_ok_iff.mpr ⟨_, _, _, _, keyedFinal.ofPayload_snapshot, executedAgain,
    checkedAgain, tested, rfl⟩, alike, fun unmixedFinal =>
      alike.sameDocument keyedFinal keyedAgain unmixedFinal (unmixed unmixedFinal)⟩

/-! ### Fixed programs -/

/-- The run settles in one state, and once more from there it ends in the other. -/
def Engine.drifts (engine : Engine) (program : Program) (payload : Value)
    (options : ExecutionOptions) (first second : Record) : Bool :=
  ((engine.run program payload options).result.toOption.any fun result =>
    result.settled && decide (result.resultState = first)) &&
  ((engine.run program (.record first) options).result.toOption.any fun again =>
    decide (again.resultState = second))

/-- Drift is a settled run whose own result runs to another one. -/
theorem Engine.drifts_iff {engine : Engine} {program : Program} {payload : Value}
    {options : ExecutionOptions} {first second : Record} :
    engine.drifts program payload options first second = true ↔
      ∃ result again, (engine.run program payload options).result = .ok result ∧
        result.settled = true ∧ result.resultState = first ∧
        (engine.run program (.record first) options).result = .ok again ∧
        again.resultState = second := by
  unfold drifts
  cases (engine.run program payload options).result <;>
    cases (engine.run program (.record first) options).result <;>
    simp [Except.toOption, and_assoc]

/-- Copies a number over another one while that is 1. -/
def markProgram : Program :=
  .plain "note" [("mark", .number), ("source", .number)]
    [.plain "copy" 1 (.compare (.fact ⟨"note.mark", none⟩) .equals (.literal (.int 1) none))
      [.set "note.mark" (.fact ⟨"note.source", none⟩)] []]

def markFacts (mark : Value) : Record := [("mark", mark), ("source", .float (.ofInt 1))]

/-- No condition searches a text for the mark, so its respelling is not seen again. -/
theorem respelt_mark_stays :
    let engine : Engine := ⟨.default, 100⟩
    let payload := Record.payload "note" (markFacts (.int 1))
    payload.Keyed ∧ (ExecutionOptions.looping 100).loopUntilSettled = true ∧
      (ExecutionOptions.looping 100).enableActions = true ∧
      ∃ result, (engine.run markProgram payload (.looping 100)).result = .ok result ∧
        result.settled = true ∧ (∀ rule ∈ markProgram.rules, rule.Heedless result.Respelt) ∧
        ∃ again, (engine.run markProgram (.record result.resultState) (.looping 100)).result =
            .ok again ∧
          Store.AlikeBut result.Respelt ⟨result.resultState⟩ ⟨again.resultState⟩ ∧
          (Store.Unmixed ⟨result.resultState⟩ →
            Value.SameDocument (.record result.resultState) (.record again.resultState)) := by
  intro engine payload
  have keyed : payload.Keyed := by
    refine Record.keyed_payload (by decide) ?_
    simp only [markFacts, List.forall_mem_cons]
    exact ⟨.scalar rfl, .scalar rfl, by simp⟩
  have drifts : engine.drifts markProgram payload (.looping 100)
      [("note", .record (markFacts (.float (.ofInt 1))))]
      [("note", .record (markFacts (.float (.ofInt 1))))] = true := by
    decide +kernel
  obtain ⟨result, _, returned, settled, _⟩ := Engine.drifts_iff.mp drifts
  have heedless : ∀ rule ∈ markProgram.rules, rule.Heedless result.Respelt := by
    intro rule member
    obtain rfl := List.mem_singleton.mp member
    constructor
    · intro path _ seeks
      cases seeks
    · intro matched action among target d entity name increments
      cases matched <;> simp [Rule.branch, Rule.plain] at among
      cases among.symm.trans increments
  exact ⟨keyed, rfl, rfl, result, returned, settled, heedless,
    settled_run_is_fixpoint _ _ _ _ result keyed rfl rfl returned settled heedless⟩

/-- A program that is settled on a payload and is not done with the facts that it leaves. -/
def Engine.Unsettled (engine : Engine) (program : Program) (payload : Value)
    (options : ExecutionOptions) : Prop :=
  payload.Keyed ∧ options.loopUntilSettled = true ∧ options.enableActions = true ∧
    ∃ result again, (engine.run program payload options).result = .ok result ∧
      result.settled = true ∧
      (engine.run program (.record result.resultState) options).result = .ok again ∧
      ¬ Value.SameDocument (.record result.resultState) (.record again.resultState)

/-- A drift shows the settled state is no fixpoint, since the entity's fields differ. -/
theorem Engine.unsettled_of_drifts {engine : Engine} {program : Program} {payload : Value}
    {cap : Int} (entity : String) (first second : Record) (keyed : payload.Keyed)
    (drifts : engine.drifts program payload (.looping cap) [(entity, .record first)]
      [(entity, .record second)] = true)
    (differs : ¬ Value.SameDocument (.record first) (.record second)) :
    engine.Unsettled program payload (.looping cap) := by
  obtain ⟨result, again, returned, settled, final, returnedAgain, other⟩ := drifts_iff.mp drifts
  refine ⟨keyed, rfl, rfl, result, again, returned, settled, final ▸ returnedAgain, ?_⟩
  rw [final, other]
  intro same
  have fields : ∀ facts : Value,
      Fields.get? (Key.text entity) [(Key.text entity, facts)] = some facts :=
    fun facts => by simp [Fields.get?]
  exact differs (same.get? (fields _) (fields _))

/-- Looks for a mark in a text, and respells the mark while it is found. -/
def lookProgram : Program :=
  .plain "note" [("text", .string), ("mark", .number), ("source", .number), ("flag", .number)]
    [.plain "look" 1
      (.compare (.fact ⟨"note.text", none⟩) .contains (.fact ⟨"note.mark", none⟩))
      [.set "note.mark" (.fact ⟨"note.source", none⟩)]
      [.set "note.flag" (.literal (.int 1) none)]]

def lookFacts (mark : Value) (flag : Int) : Record :=
  [("text", .text "mark 1 of 2"), ("mark", mark), ("source", .float (.ofInt 1)),
    ("flag", .int flag)]

/-- A text that is searched for the mark sees the spelling, -/
theorem look_unsettled :
    (⟨.default, 100⟩ : Engine).Unsettled lookProgram
      (Record.payload "note" (lookFacts (.int 1) 0)) (.looping 100) := by
  refine Engine.unsettled_of_drifts "note" (lookFacts (.float (.ofInt 1)) 0)
    (lookFacts (.float (.ofInt 1)) 1) ?_ (by decide +kernel) fun same => ?_
  · refine Record.keyed_payload (by decide) ?_
    simp only [lookFacts, List.forall_mem_cons]
    exact ⟨.scalar rfl, .scalar rfl, .scalar rfl, .scalar rfl, by simp⟩
  · have flags : Value.SameDocument (.int 0) (.int 1) := @same.get? _ _ (.text "flag") _ _ rfl rfl
    rcases flags.scalar rfl with equal | ⟨p, zero, one⟩
    · cases equal
    · exact absurd (zero.trans one.symm) (by decide +kernel)

/-- Adds 1 to a number that is too large for it, and respells the number afterwards. -/
def addProgram : Program :=
  .plain "meter" [("count", .number), ("seen", .number), ("base", .number)]
    [.plain "add" 1 (.present ⟨"meter.count", none⟩)
      [.increment "meter.count" (.int 1), .set "meter.seen" (.fact ⟨"meter.count", none⟩),
        .set "meter.count" (.fact ⟨"meter.base", none⟩)] []]

def addFacts (count seen : Value) : Record :=
  [("count", count), ("seen", seen), ("base", .int (2 ^ 53))]

/-- and an increment sees which of two equal numbers it starts from. -/
theorem add_unsettled :
    (⟨.default, 100⟩ : Engine).Unsettled addProgram
      (Record.payload "meter" (addFacts (.float (.ofInt (2 ^ 53))) (.int (2 ^ 53))))
      (.looping 2) := by
  refine Engine.unsettled_of_drifts "meter" (addFacts (.int (2 ^ 53)) (.float (.ofInt (2 ^ 53))))
    (addFacts (.int (2 ^ 53)) (.int (2 ^ 53 + 1))) ?_ (by decide +kernel) fun same => ?_
  · refine Record.keyed_payload (by decide) ?_
    simp only [addFacts, List.forall_mem_cons]
    exact ⟨.scalar rfl, .scalar rfl, .scalar rfl, by simp⟩
  · have seen : Value.SameDocument (.float (.ofInt (2 ^ 53))) (.int (2 ^ 53 + 1)) :=
      @same.get? _ _ (.text "seen") _ _ rfl rfl
    rcases seen.scalar rfl with equal | ⟨p, before, after⟩
    · cases equal
    · exact absurd (before.trans after.symm) (by decide +kernel)

/-- Copies an object over another one that it agrees with. -/
def mixProgram : Program :=
  .plain "box" [("left", .string), ("right", .string), ("source", .string)]
    [.plain "mix" 1 (.present ⟨"box.source", none⟩)
      [.set "box.left" (.fact ⟨"box.right", none⟩),
        .set "box.right" (.fact ⟨"box.source", none⟩)] []]

def mixFacts (left right : Value) : Record :=
  [("left", .record [("a", left)]), ("right", .record [("a", right)]),
    ("source", .record [("a", .bool true)])]

/-- An object agrees with another one that holds a boolean for its number. -/
theorem mix_unsettled :
    (⟨.default, 100⟩ : Engine).Unsettled mixProgram
      (Record.payload "box" (mixFacts (.int 1) (.int 1))) (.looping 100) := by
  have keyed : ∀ v : Value, v.isScalar = true → (Value.record [("a", v)]).Keyed := fun v plain =>
    Value.keyed_record (List.nodup_singleton _) (List.forall_mem_singleton.mpr (.scalar plain))
  refine Engine.unsettled_of_drifts "box" (mixFacts (.int 1) (.bool true))
    (mixFacts (.bool true) (.bool true)) ?_ (by decide +kernel) fun same => ?_
  · refine Record.keyed_payload (by decide) ?_
    simp only [mixFacts, List.forall_mem_cons]
    exact ⟨keyed _ rfl, keyed _ rfl, keyed _ rfl, by simp⟩
  · have left : Value.SameDocument (.record [("a", .int 1)]) (.record [("a", .bool true)]) :=
      @same.get? _ _ (.text "left") _ _ rfl rfl
    have inside : Value.SameDocument (.int 1) (.bool true) :=
      @left.get? _ _ (.text "a") _ _ rfl rfl
    rcases inside.scalar rfl with equal | ⟨p, _, placed⟩
    · cases equal
    · cases placed

/-- A settled run need not be a fixpoint where a text is looked for in the spelling of a
respelt number, where a whole amount is added to one, and where an object holds a boolean. -/
theorem respelt_fact_unsettles :
    (⟨.default, 100⟩ : Engine).Unsettled lookProgram
        (Record.payload "note" (lookFacts (.int 1) 0)) (.looping 100) ∧
      (⟨.default, 100⟩ : Engine).Unsettled addProgram
        (Record.payload "meter" (addFacts (.float (.ofInt (2 ^ 53))) (.int (2 ^ 53))))
        (.looping 2) ∧
      (⟨.default, 100⟩ : Engine).Unsettled mixProgram
        (Record.payload "box" (mixFacts (.int 1) (.int 1))) (.looping 100) :=
  ⟨look_unsettled, add_unsettled, mix_unsettled⟩

end Rulebook
