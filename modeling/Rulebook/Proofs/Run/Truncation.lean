import Mathlib.Data.List.Infix
import Rulebook.Proofs.Run.Context
import Rulebook.Proofs.Run.Passes

/-!
What the cap cuts off.

The cap on firings decides nothing but where a run ends: a run with a lower cap is the
beginning of the run with a higher one, and the whole of it where it does not hit its cap
(`RunRan.raised`). In the same way a run that does not loop is the first pass of the one that
does.
-/

namespace Rulebook

/-- The second context is the first one with a higher cap. -/
structure RunContext.CapRaised (low high : RunContext) : Prop where
  acts : low.ActsLike high
  rules : low.rules = high.rules
  defaultMode : low.defaultMode = high.defaultMode
  loops : low.options.loopUntilSettled = high.options.loopUntilSettled
  cap_le : low.options.maxRuleFirings ≤ high.options.maxRuleFirings

/-! ### A higher cap -/

section Raised

variable {low high : RunContext} {number : Nat}

theorem RunContext.CapRaised.stepOf (raised : low.CapRaised high) (rule : Rule)
    (why : ConditionTrace) (outcomes : List ActionOutcome) :
    low.stepOf number rule why outcomes = high.stepOf number rule why outcomes := by
  rw [RunContext.stepOf, RunContext.stepOf, raised.defaultMode]

theorem RunContext.CapRaised.continues (raised : low.CapRaised high) (pass : Pass) :
    pass.continues low.options = pass.continues high.options := by
  rw [Pass.continues, Pass.continues, raised.loops]

/-- A pass that is not capped goes on in the same way under a higher cap. -/
theorem RunContext.CapRaised.continuation (raised : low.CapRaised high) {rule : Rule}
    {why : ConditionTrace} {after : Progress}
    (uncapped : low.continuation rule why after ≠ .capped) :
    high.continuation rule why after = low.continuation rule why after := by
  have uncappedHigh : high.continuation rule why after ≠ .capped := by
    intro capped
    obtain ⟨matched, reached⟩ := continuation_eq_capped_iff.mp capped
    exact uncapped (continuation_eq_capped_iff.mpr ⟨matched, raised.cap_le.trans reached⟩)
  rw [continuation_of_ne_capped uncapped, continuation_of_ne_capped uncappedHigh,
    raised.defaultMode]

/-- Under a higher cap a pass has the same steps up to where it is capped, and is the same
where it is not. -/
theorem PassRan.raised (raised : low.CapRaised high) {rules : List Rule}
    {before after after' : Progress} {pass pass' : Pass}
    (ran : PassRan low number rules before pass after)
    (ran' : PassRan high number rules before pass' after') :
    (pass.continuation = .capped ∧ pass.steps <+: pass'.steps) ∨
      (pass.continuation ≠ .capped ∧ pass = pass' ∧ after = after') := by
  induction ran generalizing pass' with
  | done =>
      cases ran'
      exact .inr ⟨nofun, rfl, rfl⟩
  | next first goesOn _ ih =>
      have onward := ran'.after_first (first.congr raised.acts)
      rw [raised.continuation (by rw [goesOn]; exact nofun), goesOn] at onward
      obtain ⟨pass', later', rfl⟩ := onward
      rw [raised.stepOf]
      rcases ih later' with ⟨capped, beginning⟩ | ⟨uncapped, rfl, rfl⟩
      · exact .inl ⟨capped, List.cons_prefix_cons.mpr ⟨rfl, beginning⟩⟩
      · exact .inr ⟨uncapped, rfl, rfl⟩
  | capped first _ =>
      -- the other pass may go on from here
      rw [raised.stepOf]
      exact .inl ⟨rfl, ran'.first_prefix (first.congr raised.acts)⟩
  | stopped first ends skipped =>
      have onward := ran'.after_first (first.congr raised.acts)
      rw [raised.continuation (by rw [ends]; exact nofun), ends] at onward
      obtain ⟨rfl, skipped', cut, rfl⟩ := onward
      obtain rfl := skipped.unique cut
      rw [raised.stepOf]
      exact .inr ⟨nofun, rfl, rfl⟩

/-- Under a higher cap a run has the same steps up to where it is capped, and is the same
where it is not. -/
theorem RunRan.raised (raised : low.CapRaised high) {before : Progress}
    {execution execution' : Execution} (ran : RunRan low number before execution)
    (ran' : RunRan high number before execution') :
    (execution.hitRuleLimit = true ∧ execution.steps <+: execution'.steps) ∨
      (execution.hitRuleLimit = false ∧ execution = execution') := by
  induction ran generalizing execution' with
  | @last number before pass after ran ends =>
      rw [raised.rules] at ran
      rw [raised.continues] at ends
      cases ran' with
      | last ran' _ =>
          rcases ran.raised raised ran' with ⟨capped, beginning⟩ | ⟨uncapped, rfl, rfl⟩
          · exact .inl ⟨by simp [capped], beginning⟩
          · exact .inr ⟨by simpa using uncapped, rfl⟩
      | again ran' continues' _ =>
          rcases ran.raised raised ran' with ⟨capped, beginning⟩ | ⟨_, rfl, rfl⟩
          · exact .inl ⟨by simp [capped], beginning.trans (List.prefix_append _ _)⟩
          · cases ends.symm.trans continues'
  | @again number before pass middle execution ran continues _ ih =>
      rw [raised.rules] at ran
      -- A pass that goes on was not capped, so it is the same pass under the higher cap.
      have uncapped := Pass.ne_capped_of_continues continues
      rw [raised.continues] at continues
      cases ran' with
      | last ran' ends' =>
          rcases ran.raised raised ran' with ⟨capped, _⟩ | ⟨_, rfl, rfl⟩
          · exact absurd capped uncapped
          · cases continues.symm.trans ends'
      | again ran' _ later' =>
          rcases ran.raised raised ran' with ⟨capped, _⟩ | ⟨_, rfl, rfl⟩
          · exact absurd capped uncapped
          · rcases ih later' with ⟨hit, beginning⟩ | ⟨unlimited, rfl⟩
            · exact .inl ⟨hit, (List.prefix_append_right_inj _).mpr beginning⟩
            · exact .inr ⟨unlimited, rfl⟩

end Raised

/-! ### The count at the end -/

/-- A run that starts below the cap ends with the count at the cap exactly where it hits the
cap, and below it otherwise. -/
theorem RunRan.capped_or_below {context : RunContext} {number : Nat} {before : Progress}
    {execution : Execution} (ran : RunRan context number before execution)
    (below : (before.firings : Int) < context.options.maxRuleFirings) :
    (execution.hitRuleLimit = true ∧
        (execution.progress.firings : Int) = context.options.maxRuleFirings) ∨
      (execution.hitRuleLimit = false ∧
        (execution.progress.firings : Int) < context.options.maxRuleFirings) := by
  induction ran with
  | last pass _ =>
      rcases pass.capped_or_below below with ⟨capped, reached⟩ | ⟨uncapped, less⟩
      · exact .inl ⟨by simp [capped], reached⟩
      · exact .inr ⟨by simpa using uncapped, less⟩
  | again pass continues _ ih => exact ih (pass.below_of_continues below continues)

/-- A run that does not loop makes the first pass of the one that does. -/
theorem RunRan.passEntries_single {single looping : RunContext}
    (alike : single.PassesLike looping) (rules : single.rules = looping.rules)
    (once : single.options.loopUntilSettled = false) {number : Nat} {before : Progress}
    {execution execution' : Execution} (ran : RunRan single number before execution)
    (ran' : RunRan looping number before execution') :
    execution.steps.map (·.trace) = execution'.passEntries number := by
  cases ran with
  | again _ continues => cases once.symm.trans (Pass.continues_iff.mp continues).1
  | last pass _ =>
      rw [rules] at pass
      have first := pass.congr alike
      cases ran' with
      | last pass' _ =>
          obtain ⟨rfl, rfl⟩ := first.unique pass'
          exact pass'.filter_block.symm
      | again pass' _ later =>
          obtain ⟨rfl, rfl⟩ := first.unique pass'
          rw [later.passEntries_again pass', if_pos rfl]
          rfl

/-! ### Results -/

/-- What the one result shows of its run is the beginning of what the other shows. -/
structure ExecutionResult.BeginningOf (short long : ExecutionResult) : Prop where
  trace : short.trace <+: long.trace
  actions : short.actions <+: long.actions
  issues : short.issues <+: long.issues
  conflictWarnings : short.conflictWarnings <+: long.conflictWarnings

theorem Engine.resultOf_beginningOf {short long : Execution} (steps : short.steps <+: long.steps)
    (report report' : ConstraintReport) (tests tests' : Option (List ExampleResult)) :
    (resultOf short report tests).BeginningOf (resultOf long report' tests') := by
  have outcomes : short.outcomes <+: long.outcomes := steps.flatMap _
  exact ⟨steps.map _, outcomes.filterMap _, outcomes.flatMap _, outcomes.filterMap _⟩

/-- The cap only truncates. A run that returns counts firings up to its cap and has hit it
exactly when the count is there. With a higher cap it shows the same and perhaps more, and the
result is the same where the lower cap was not hit. A run that does not loop shows the first
pass of the one that does. -/
theorem cap_only_truncates (engine : Engine) (program : Program) (payload : Value)
    (options : ExecutionOptions) (positive : 0 < options.maxRuleFirings) :
    (∀ result, (engine.run program payload options).result = .ok result →
      (result.ruleFirings : Int) ≤ options.maxRuleFirings ∧
      (result.hitRuleLimit = true ↔ (result.ruleFirings : Int) = options.maxRuleFirings)) ∧
    (∀ higher short long, options.maxRuleFirings < higher →
      (engine.run program payload options).result = .ok short →
      (engine.run program payload { options with maxRuleFirings := higher }).result = .ok long →
      short.BeginningOf long ∧ (short.hitRuleLimit = false → short = long)) ∧
    (∀ single looping,
      (engine.run program payload { options with loopUntilSettled := false }).result =
        .ok single →
      (engine.run program payload { options with loopUntilSettled := true }).result =
        .ok looping →
      single.trace = looping.passEntries 1) := by
  refine ⟨?_, ?_, ?_⟩
  · intro result returned
    obtain ⟨start, execution, report, tests, _, executed, _, _, rfl⟩ :=
      Engine.runWith_eq_ok_iff.mp returned
    rcases (Engine.execute_eq_ok_iff.mp executed).1.capped_or_below positive with
      ⟨hit, reached⟩ | ⟨unlimited, less⟩
    · exact ⟨Int.le_of_eq reached, iff_of_true hit reached⟩
    · exact ⟨Int.le_of_lt less,
        iff_of_false (Bool.eq_false_iff.mp unlimited) (Int.ne_of_lt less)⟩
  · intro higher short long less returned returned'
    obtain ⟨start, execution, report, tests, taken, executed, checked, tested, rfl⟩ :=
      Engine.runWith_eq_ok_iff.mp returned
    obtain ⟨start', execution', report', tests', taken', executed', checked', tested', rfl⟩ :=
      Engine.runWith_eq_ok_iff.mp returned'
    obtain rfl := Except.ok.inj (taken.symm.trans taken')
    have raised : (engine.context program options).CapRaised
        (engine.context program { options with maxRuleFirings := higher }) :=
      ⟨fun _ _ _ => rfl, rfl, rfl, rfl, Int.le_of_lt less⟩
    rcases (Engine.execute_eq_ok_iff.mp executed).1.raised raised
        (Engine.execute_eq_ok_iff.mp executed').1 with ⟨hit, steps⟩ | ⟨_, rfl⟩
    · refine ⟨Engine.resultOf_beginningOf steps .., fun unlimited => ?_⟩
      cases hit.symm.trans unlimited
    · -- the same execution has the same report and the same examples
      obtain rfl := Except.ok.inj (checked.symm.trans checked')
      obtain rfl := Except.ok.inj (tested.symm.trans tested')
      exact ⟨Engine.resultOf_beginningOf List.prefix_rfl .., fun _ => rfl⟩
  · intro single looping returned returned'
    obtain ⟨start, execution, report, tests, taken, executed, _, _, rfl⟩ :=
      Engine.runWith_eq_ok_iff.mp returned
    obtain ⟨start', execution', report', tests', taken', executed', _, _, rfl⟩ :=
      Engine.runWith_eq_ok_iff.mp returned'
    obtain rfl := Except.ok.inj (taken.symm.trans taken')
    have alike : (engine.context program { options with loopUntilSettled := false }).PassesLike
        (engine.context program { options with loopUntilSettled := true }) :=
      ⟨fun _ _ _ => rfl, rfl, rfl⟩
    exact (Engine.execute_eq_ok_iff.mp executed).1.passEntries_single alike rfl rfl
      (Engine.execute_eq_ok_iff.mp executed').1

/-- The tally with two caps, and without looping. -/
theorem tally_truncated :
    0 < (ExecutionOptions.looping 2).maxRuleFirings ∧
    ∃ short long single,
      ((⟨.default, 4⟩ : Engine).run tallyProgram tallyPayload (.looping 2)).result = .ok short ∧
      ((⟨.default, 4⟩ : Engine).run tallyProgram tallyPayload (.looping 3)).result = .ok long ∧
      ((⟨.default, 4⟩ : Engine).run tallyProgram tallyPayload
        { ExecutionOptions.looping 2 with loopUntilSettled := false }).result = .ok single ∧
      short.hitRuleLimit = true ∧ short.ruleFirings = 2 ∧ short.BeginningOf long ∧
      single.trace = short.passEntries 1 := by
  have hits : returnsWith (·.hitRuleLimit)
      ((⟨.default, 4⟩ : Engine).run tallyProgram tallyPayload (.looping 2)).result = true := by
    decide +kernel
  have goesOn : returnsWith (fun _ => true)
      ((⟨.default, 4⟩ : Engine).run tallyProgram tallyPayload (.looping 3)).result = true := by
    decide +kernel
  have ends : returnsWith (fun _ => true)
      ((⟨.default, 4⟩ : Engine).run tallyProgram tallyPayload
        { ExecutionOptions.looping 2 with loopUntilSettled := false }).result = true := by
    decide +kernel
  obtain ⟨short, returned, hit⟩ := eq_ok_of_returnsWith hits
  obtain ⟨long, returned', _⟩ := eq_ok_of_returnsWith goesOn
  obtain ⟨single, returnedOnce, _⟩ := eq_ok_of_returnsWith ends
  obtain ⟨counted, truncated, first⟩ :=
    cap_only_truncates ⟨.default, 4⟩ tallyProgram tallyPayload (.looping 2) (by decide)
  exact ⟨by decide, short, long, single, returned, returned', returnedOnce, hit,
    Int.ofNat.inj ((counted short returned).2.mp hit),
    (truncated 3 short long (by decide) returned returned').1,
    first single short returnedOnce returned⟩

end Rulebook
