import Rulebook.Proofs.Run.Context
import Rulebook.Proofs.Run.Interruption
import Rulebook.Proofs.Run.Keyed
import Rulebook.Proofs.Run.Passes
import Rulebook.Proofs.Run.Retelling

/-!
Passes do not look back.

A run that loops keeps the writers, the number of actions and the count of firings from pass to
pass. None of this is read by conditions and actions, and below the cap not by the passes
either: each pass is retold by a run of its own on the state that it has started from
(`PassRan.retold`). A looping run is therefore the same as its passes run in turn, each on the
result of the one before, but that runs in turn check the constraints after each of them
(`passes_run_in_turn`, `wrapped_note_fails_in_turn`).
-/

namespace Rulebook

/-! ### Retold passes -/

section Steps

variable {context : RunContext} {number : Nat}

/-- Skipping does not depend on the number of the pass, which only stands in the entries. -/
theorem Skipped.retold {store : Store} {rules : List Rule} {steps : List RuleStep}
    (skipped : Skipped number store rules steps) (number' : Nat) :
    ∃ steps', Skipped number' store rules steps' ∧
      List.Forall₂ RuleTrace.Retold (steps.map (·.trace)) (steps'.map (·.trace)) := by
  induction skipped with
  | nil => exact ⟨[], .nil, .nil⟩
  | @cons rule _ _ _ first _ ih =>
      obtain ⟨why, evaluated, rfl⟩ := first
      obtain ⟨steps', skipped', retold⟩ := ih
      exact ⟨_ :: steps', .cons ⟨why, evaluated, rfl⟩ skipped',
        .cons ⟨rfl, rfl, rfl, rfl, rfl, rfl, rfl, rfl, .nil⟩ retold⟩

variable (live : context.options.enableActions = true)

include live

/-- A rule that is retold on the same facts leaves the same facts, and counts as before. -/
theorem RuleRan.retold_same {rule : Rule} {before after again : Progress} {why : ConditionTrace}
    {outcomes : List ActionOutcome} (ran : RuleRan context rule before why outcomes after)
    (facts : again.workspace.store = before.workspace.store)
    (fewer : again.firings ≤ before.firings) :
    ∃ outcomes' after', RuleRan context rule again why outcomes' after' ∧
      List.Forall₂ ActionOutcome.Retold outcomes outcomes' ∧
      after'.workspace.store = after.workspace.store ∧ after'.firings ≤ after.firings := by
  obtain ⟨outcomes', after', ran', retold⟩ :=
    ran.retold live (fun path _ => congrArg (Store.content · path) facts.symm)
  refine ⟨outcomes', after', ran', retold, ?_, ?_⟩
  · rw [(ran'.journalled live).store_eq, (ran.journalled live).store_eq, facts,
      writesOf_retold retold]
  · rw [ran'.firings_eq, ran.firings_eq]
    exact Nat.add_le_add_right fewer _

/-- A pass that is not capped can be made again on the same facts, with whatever history but no
more firings, and tells the same. -/
theorem PassRan.retold {rules : List Rule} {before after again : Progress} {pass : Pass}
    (ran : PassRan context number rules before pass after) (uncapped : pass.continuation ≠ .capped)
    (facts : again.workspace.store = before.workspace.store)
    (fewer : again.firings ≤ before.firings) (number' : Nat) :
    ∃ pass' after', PassRan context number' rules again pass' after' ∧
      after'.workspace.store = after.workspace.store ∧
      List.Forall₂ RuleTrace.Retold pass.block pass'.block := by
  induction ran generalizing again with
  | done => exact ⟨⟨[], .next⟩, again, .done again, facts, .nil⟩
  | @next rule rest before why outcomes middle pass after first goesOn _ ih =>
      obtain ⟨outcomes', middle', first', retold, factsNext, fewerNext⟩ :=
        first.retold_same live facts fewer
      -- With fewer firings before it the cap is no closer, so the rule goes on as it did.
      have onward := RunContext.continuation_of_le (by rw [goesOn]; exact nofun) rfl fewerNext
      obtain ⟨pass', after', later', factsAfter, blocks⟩ := ih uncapped factsNext fewerNext
      exact ⟨_, after', .next first' (onward.trans goesOn) later', factsAfter,
        .cons (RunContext.stepOf_retold retold number' rule why) blocks⟩
  | capped => exact absurd rfl uncapped
  | @stopped rule rest before why outcomes skipped after first ends cut =>
      obtain ⟨outcomes', after', first', retold, factsAfter, fewerAfter⟩ :=
        first.retold_same live facts fewer
      have onward := RunContext.continuation_of_le (by rw [ends]; exact nofun) rfl fewerAfter
      obtain ⟨skipped', cut', blocks⟩ := cut.retold number'
      exact ⟨_, after', .stopped first' (onward.trans ends) (factsAfter ▸ cut'), factsAfter,
        .cons (RunContext.stepOf_retold retold number' rule why) blocks⟩

end Steps

/-! ### Runs in turn -/

/-- The same options for a run of one pass. -/
def ExecutionOptions.single (options : ExecutionOptions) : ExecutionOptions :=
  { options with loopUntilSettled := false }

/-- The constraints can be checked on this state: none of them meets a pattern that is refused
for another reason than its spelling, or searches a text for a value that cannot be written. -/
def Program.Checks (program : Program) (store : Store) : Prop :=
  ∀ constraint ∈ program.constraints, ¬ constraint.assertion.Trips store

theorem Program.checks_iff {program : Program} {store : Store} :
    (∃ report, checkConstraints store program.constraints = .ok report) ↔ program.Checks store := by
  rw [returns_iff, Engine.checkConstraints_fails_iff]
  simp [Checks]

namespace Engine

/-- Runs a program so many times, first on a payload and then each time on the state that the
run before has ended in. -/
def runInTurn (engine : Engine) (program : Program) (options : ExecutionOptions) :
    Nat → Value → Recorded Interruption (List ExecutionResult)
  | 0, _ => return []
  | n + 1, payload => do
      let result ← engine.run program payload options
      let results ← engine.runInTurn program options n (.record result.resultState)
      return result :: results

variable {engine : Engine} {program : Program} {options : ExecutionOptions} {payload : Value}

/-- Runs in turn return where the first does and the others do from its state. -/
theorem runInTurn_succ_eq_ok_iff {n : Nat} {results : List ExecutionResult} :
    (engine.runInTurn program options (n + 1) payload).result = .ok results ↔
      ∃ first rest, (engine.run program payload options).result = .ok first ∧
        (engine.runInTurn program options n (.record first.resultState)).result = .ok rest ∧
        results = first :: rest := by
  simp only [runInTurn, Recorded.result_bind_eq_ok_iff]
  constructor
  · rintro ⟨first, ran, rest, later, returned⟩
    cases returned
    exact ⟨first, rest, ran, later, rfl⟩
  · rintro ⟨first, rest, ran, later, rfl⟩
    exact ⟨first, ran, rest, later, rfl⟩

/-- There are as many results as runs. -/
theorem runInTurn_length {n : Nat} {results : List ExecutionResult}
    (returned : (engine.runInTurn program options n payload).result = .ok results) :
    results.length = n := by
  induction n generalizing payload results with
  | zero =>
      cases returned
      rfl
  | succ n ih =>
      obtain ⟨first, rest, _, later, rfl⟩ := runInTurn_succ_eq_ok_iff.mp returned
      rw [List.length_cons, ih later]

end Engine

section Turns

variable {engine : Engine} {program : Program} {options : ExecutionOptions} {payload : Value}
  {number : Nat} {before middle : Progress} {pass : Pass} {tests : Option (List ExampleResult)}
  (live : options.enableActions = true) (passes : 0 < engine.passLimit)
  (tested : (if options.evaluateExamples then
      some <$> engine.runExamples program (.default engine.settings)
    else pure none : Recorded Interruption (Option (List ExampleResult))).result = .ok tests)

include live passes tested

/-- A pass of a looping run is retold by a run of its own, which then checks the constraints. -/
theorem PassRan.single_run
    (ran : PassRan (engine.context program options) number (sortRules program.rules) before pass
      middle) (uncapped : pass.continuation ≠ .capped)
    (taken : Store.ofPayload payload = .ok before.workspace.store) :
    ∃ execution, execution.progress.workspace.store = middle.workspace.store ∧
      List.Forall₂ RuleTrace.Retold pass.block (execution.steps.map (·.trace)) ∧
      ∀ result, (engine.run program payload options.single).result = .ok result ↔
        ∃ report, checkConstraints middle.workspace.store program.constraints = .ok report ∧
          result = Engine.resultOf execution report tests := by
  obtain ⟨pass', after', again, facts, blocks⟩ :=
    @PassRan.retold _ _ live _ _ _ (.start before.workspace.store) _ ran uncapped rfl
      (Nat.zero_le _) 1
  have alike : (engine.context program options).PassesLike
      (engine.context program options.single) := ⟨fun _ _ _ => rfl, rfl, rfl⟩
  have executed := Engine.execute_single passes rfl (again.congr alike)
  refine ⟨⟨pass'.steps, after', 1, pass'.continuation == .capped⟩, facts, blocks, ?_⟩
  intro result
  constructor
  · intro returned
    obtain ⟨start, execution, report, testReport, taken', executed', checked, tested', rfl⟩ :=
      Engine.runWith_eq_ok_iff.mp returned
    cases taken.symm.trans taken'
    cases executed.symm.trans executed'
    cases tested.symm.trans tested'
    exact ⟨report, facts ▸ checked, rfl⟩
  · rintro ⟨report, checked, rfl⟩
    exact Engine.runWith_eq_ok_iff.mpr
      ⟨_, _, report, tests, taken, executed, facts ▸ checked, tested, rfl⟩

/-- Runs in turn retell the passes of a run, where they return. -/
theorem RunRan.in_turn {execution : Execution}
    (ran : RunRan (engine.context program options) number before execution)
    (unlimited : execution.hitRuleLimit = false) (named : before.workspace.store.Named)
    (taken : Store.ofPayload payload = .ok before.workspace.store) {n : Nat}
    (turns : execution.passes + 1 = number + n) {results : List ExecutionResult}
    (returned : (engine.runInTurn program options.single n payload).result = .ok results) :
    results.getLast?.map (·.resultState) = some execution.progress.workspace.store.snapshot ∧
      ∀ i result, results[i]? = some result →
        List.Forall₂ RuleTrace.Retold (execution.passEntries (number + i)) result.trace := by
  induction ran generalizing payload n results with
  | @last number before pass after ran _ =>
      obtain rfl : n = 1 := by
        simp only at turns
        omega
      obtain ⟨first, rest, ranOnce, later, rfl⟩ := Engine.runInTurn_succ_eq_ok_iff.mp returned
      cases later
      obtain ⟨execution, facts, blocks, single⟩ :=
        ran.single_run live passes tested (by simpa using unlimited) taken
      obtain ⟨report, _, rfl⟩ := (single first).mp ranOnce
      refine ⟨congrArg (fun store => some (Store.snapshot store)) facts, ?_⟩
      intro i result place
      cases i with
      | zero =>
          cases place
          have entries := ran.filter_block
          rw [← entries] at blocks
          exact blocks
      | succ i => cases place
  | @again number before pass middle execution ran continues laterRan ih =>
      have more := laterRan.number_le
      obtain ⟨m, rfl⟩ : ∃ m, n = m + 1 := ⟨n - 1, by simp only at turns; omega⟩
      obtain ⟨first, rest, ranOnce, later, rfl⟩ := Engine.runInTurn_succ_eq_ok_iff.mp returned
      have uncapped := Pass.ne_capped_of_continues continues
      obtain ⟨execution', facts, blocks, single⟩ :=
        ran.single_run live passes tested uncapped taken
      obtain ⟨report, _, rfl⟩ := (single first).mp ranOnce
      have namedNext := ran.named named
      -- The next run starts from what this one returned, which is the store the next pass found.
      have takenNext :
          Store.ofPayload (.record (Engine.resultOf execution' report tests).resultState) =
            .ok middle.workspace.store := by
        rw [← facts] at namedNext ⊢
        exact namedNext.ofPayload_snapshot
      obtain ⟨final, each⟩ := ih unlimited namedNext takenNext
        (by simp only at turns; omega) later
      refine ⟨?_, ?_⟩
      · cases rest with
        | nil => cases final
        | cons second rest => exact final
      · intro i result place
        rw [laterRan.passEntries_again ran]
        cases i with
        | zero =>
            cases place
            rw [Nat.add_zero, if_pos rfl]
            exact blocks
        | succ i =>
            rw [if_neg (by omega), Nat.add_comm i, ← Nat.add_assoc]
            exact each i result place

/-- Runs in turn return when the constraints can be checked on every state between two passes. -/
theorem RunRan.in_turn_returns_iff {execution : Execution} {start : Progress}
    (ran : RunRan (engine.context program options) number before execution)
    (unlimited : execution.hitRuleLimit = false) (named : before.workspace.store.Named)
    (taken : Store.ofPayload payload = .ok before.workspace.store)
    (checks : program.Checks execution.progress.workspace.store) {k : Nat} (place : number = k + 1)
    (reached : Reached (engine.context program options) start k before) {n : Nat}
    (turns : execution.passes + 1 = number + n) :
    (∃ results, (engine.runInTurn program options.single n payload).result = .ok results) ↔
      ∀ j between, k < j → Reached (engine.context program options) start j between →
        program.Checks between.workspace.store := by
  induction ran generalizing payload n k with
  | @last number before pass after ran ends =>
      subst place
      obtain rfl : n = 1 := by
        simp only at turns
        omega
      obtain ⟨_, _, _, single⟩ :=
        ran.single_run live passes tested (by simpa using unlimited) taken
      obtain ⟨report, checked⟩ := Program.checks_iff.mpr checks
      refine iff_of_true ⟨_, Engine.runInTurn_succ_eq_ok_iff.mpr
        ⟨_, _, (single _).mpr ⟨report, checked, rfl⟩, rfl, rfl⟩⟩ ?_
      intro j between later reachedLater
      -- No pass comes after the last, so no state between passes is left to be checked.
      have none := Made.reached_le ⟨before, reached, runRules_eq_ok_iff.mpr ran⟩ ends reachedLater
      exact absurd none (Nat.not_le_of_lt later)
  | @again number before pass middle execution ran continues laterRan ih =>
      subst place
      have more := laterRan.number_le
      obtain ⟨m, rfl⟩ : ∃ m, n = m + 1 := ⟨n - 1, by simp only at turns; omega⟩
      have uncapped := Pass.ne_capped_of_continues continues
      have reachedNext := reached.again (runRules_eq_ok_iff.mpr ran) continues
      obtain ⟨execution', facts, _, single⟩ := ran.single_run live passes tested uncapped taken
      have namedNext := ran.named named
      have takenNext : Store.ofPayload (.record execution'.progress.workspace.store.snapshot) =
          .ok middle.workspace.store := by
        rw [← facts] at namedNext ⊢
        exact namedNext.ofPayload_snapshot
      have later := ih unlimited namedNext takenNext checks rfl reachedNext
        (by simp only at turns; omega : execution.passes + 1 = k + 1 + 1 + m)
      constructor
      · rintro ⟨results, returned⟩
        obtain ⟨first, rest, ranOnce, laterOnce, rfl⟩ :=
          Engine.runInTurn_succ_eq_ok_iff.mp returned
        obtain ⟨report, checked, rfl⟩ := (single first).mp ranOnce
        intro j between after reachedLater
        -- The state after this pass is checked by its own run, any later one by a later run.
        rcases Nat.lt_or_eq_of_le after with further | rfl
        · exact later.mp ⟨rest, laterOnce⟩ j between further reachedLater
        · rw [reachedLater.unique reachedNext]
          exact Program.checks_iff.mp ⟨report, checked⟩
      · intro sound
        obtain ⟨report, checked⟩ :=
          Program.checks_iff.mpr (sound (k + 1) middle (Nat.lt_succ_self k) reachedNext)
        obtain ⟨rest, laterOnce⟩ := later.mpr fun j between after =>
          sound j between (Nat.lt_of_succ_lt after)
        exact ⟨_, Engine.runInTurn_succ_eq_ok_iff.mpr
          ⟨_, rest, (single _).mpr ⟨report, checked, rfl⟩, laterOnce, rfl⟩⟩

end Turns

/-! ### Results -/

/-- A live run that returns below its cap is told again by its passes run in turn, each a run
that does not loop on the result of the one before: there are as many results as passes, the
last of them has the final state, and each shows what its pass shows, but for the numbers of
the actions and for what was written in other passes. Unlike the passes, the runs also check
the constraints after each pass, and return when that can be done. -/
theorem passes_run_in_turn (engine : Engine) (program : Program) (payload : Value)
    (options : ExecutionOptions) (result : ExecutionResult) (live : options.enableActions = true)
    (returned : (engine.run program payload options).result = .ok result)
    (unlimited : result.hitRuleLimit = false) :
    ∃ start execution, Store.ofPayload payload = .ok start ∧
      (engine.execute program start options).result = .ok execution ∧
      ((∃ results,
          (engine.runInTurn program options.single execution.passes payload).result =
            .ok results) ↔
        ∀ n between, 0 < n →
          Reached (engine.context program options) (.start start) n between →
          program.Checks between.workspace.store) ∧
      ∀ results,
        (engine.runInTurn program options.single execution.passes payload).result = .ok results →
        results.length = execution.passes ∧
        results.getLast?.map (·.resultState) = some result.resultState ∧
        ∀ i single, results[i]? = some single →
          List.Forall₂ RuleTrace.Retold (result.passEntries (i + 1)) single.trace := by
  obtain ⟨start, execution, report, tests, taken, executed, checked, tested, rfl⟩ :=
    Engine.runWith_eq_ok_iff.mp returned
  obtain ⟨ran, few⟩ := Engine.execute_eq_ok_iff.mp executed
  have passes : 0 < engine.passLimit := Nat.lt_of_lt_of_le ran.number_le few
  have named : (Progress.start start).workspace.store.Named := Store.named_of_ofPayload taken
  refine ⟨start, execution, taken, executed, ?_, ?_⟩
  · exact ran.in_turn_returns_iff live passes tested unlimited named taken
      (Program.checks_iff.mp ⟨report, checked⟩) rfl .start (Nat.add_comm _ _)
  · intro results inTurn
    obtain ⟨final, each⟩ :=
      ran.in_turn live passes tested unlimited named taken (Nat.add_comm _ _) inTurn
    refine ⟨Engine.runInTurn_length inTurn, final, ?_⟩
    intro i single place
    rw [Nat.add_comm i]
    exact each i single place

/-- A tally that is counted up to 2 and then left alone. -/
def pairProgram : Program :=
  .plain "tally" [("count", .number)]
    [.plain "up" 0 (.compare (.fact ⟨"tally.count", none⟩) .less (.literal (.int 2) none))
      [.increment "tally.count" (.int 1)] []]

/-- The run takes three passes, and three single runs in turn tell the same. -/
theorem pair_runs_in_turn :
    let engine : Engine := ⟨.default, 3⟩
    (ExecutionOptions.looping 100).enableActions = true ∧
      ∃ result results, (engine.run pairProgram tallyPayload (.looping 100)).result = .ok result ∧
        result.hitRuleLimit = false ∧
        (engine.runInTurn pairProgram (ExecutionOptions.looping 100).single 3 tallyPayload).result =
          .ok results ∧
        results.length = 3 ∧
        results.getLast?.map (·.resultState) = some result.resultState ∧
        ∀ i single, results[i]? = some single →
          List.Forall₂ RuleTrace.Retold (result.passEntries (i + 1)) single.trace := by
  intro engine
  have settles : returnsWith (fun result => !result.hitRuleLimit)
      (engine.run pairProgram tallyPayload (.looping 100)).result = true := by
    decide +kernel
  have passes : (Store.ofPayload tallyPayload).toOption.any (fun start =>
      returnsWith (fun execution => execution.passes == 3)
        (engine.execute pairProgram start (.looping 100)).result) = true := by
    decide +kernel
  have single : returnsWith (fun _ => true) (engine.runInTurn pairProgram
      (ExecutionOptions.looping 100).single 3 tallyPayload).result = true := by
    decide +kernel
  obtain ⟨result, returned, unlimited⟩ := eq_ok_of_returnsWith settles
  obtain ⟨results, inTurn, _⟩ := eq_ok_of_returnsWith single
  rw [Bool.not_eq_true'] at unlimited
  obtain ⟨start, execution, taken, executed, _, agree⟩ :=
    passes_run_in_turn engine pairProgram tallyPayload (.looping 100) result rfl returned unlimited
  have three : execution.passes = 3 := by
    simpa [taken, executed, returnsWith, Except.toOption] using passes
  rw [three] at agree
  exact ⟨rfl, result, results, returned, unlimited, inTurn, agree results inTurn⟩

/-- A note that is given a text in the first pass and made a list in the second, which is then
stopped. The pattern of the constraint has a repetition that is too large, so that no text can
be matched against it. -/
def wrapProgram : Program :=
  { Program.plain "note" [("text", .string)]
      [{ Rule.plain "wrap" 0 (.present ⟨"note.text", none⟩)
          [.append "note.text" (.literal (.text "b") none)]
          [.set "note.text" (.literal (.text "a") none)] with stopProcessing := true }] with
    constraints :=
      [⟨"short", "short", .matching (.fact ⟨"note.text", none⟩) "a{4294967295}" false, .warn⟩] }

/-- The looping run returns, as the text has been made a list by then. The first of the runs in
turn does not: it ends with the text and checks the constraint. -/
theorem wrapped_note_fails_in_turn :
    (∃ result, ((⟨.default, 2⟩ : Engine).run wrapProgram (.object []) (.looping 100)).result =
        .ok result ∧ result.hitRuleLimit = false) ∧
      ((⟨.default, 2⟩ : Engine).run wrapProgram (.object [])
        (ExecutionOptions.looping 100).single).result = .error (.pattern .repetitionTooLarge) := by
  have settles : returnsWith (fun result => !result.hitRuleLimit)
      ((⟨.default, 2⟩ : Engine).run wrapProgram (.object []) (.looping 100)).result = true := by
    decide +kernel
  obtain ⟨result, returned, unlimited⟩ := eq_ok_of_returnsWith settles
  refine ⟨⟨result, returned, by simpa using unlimited⟩, ?_⟩
  apply eq_error_of_endsWith
  decide +kernel

end Rulebook
