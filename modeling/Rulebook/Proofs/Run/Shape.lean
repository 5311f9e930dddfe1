import Rulebook.Proofs.Run.Firings
import Rulebook.Proofs.Run.Journal
import Rulebook.Proofs.Run.Keyed
import Rulebook.Proofs.Run.Plain
import Rulebook.Proofs.Run.Visited

/-!
The shape of a trace.

A pass leaves a block of entries, one for each rule that it comes to. There are three kinds
of blocks, one for each way in which a pass ends: through all rules (`RanThrough`), stopped at
a rule with the later ones cut off (`StoppedAt`), and capped at a rule (`CappedAt`). A run
leaves the blocks of its passes one after another. All but the last went through all rules
and changed something (`run_trace_shape`), and the last is capped exactly when the count of
firings has reached the cap, which no earlier rule has done.
-/

namespace Rulebook

/-! ### Blocks -/

/-- The entry belongs to this rule in this pass. -/
structure RuleTrace.Of (number : Nat) (rule : Rule) (entry : RuleTrace) : Prop where
  ruleId : entry.ruleId = rule.id
  ruleName : entry.ruleName = rule.name
  priority : entry.priority = rule.priority
  passNumber : entry.passNumber = number

/-- The actions of the rule were run. -/
structure RuleTrace.RanFor (number : Nat) (rule : Rule) (entry : RuleTrace) : Prop
    extends entry.Of number rule where
  unskipped : entry.skipped = false

/-- The rule was cut off: its condition is shown as it comes out on the final facts, and no
actions are. -/
structure RuleTrace.CutFor (number : Nat) (final : Store) (rule : Rule) (entry : RuleTrace) : Prop
    extends entry.Of number rule where
  skipped : entry.skipped = true
  evaluated : rule.condition.evaluate final = .ok entry.why
  unstopped : entry.stopProcessing = false
  inactive : entry.actionsApplied = [] ∧ entry.stateDiff = [] ∧ entry.warnings = []

/-- The block has an entry for each rule, in order, and none of them stops the pass. -/
def RanThrough (number : Nat) (rules : List Rule) (block : List RuleTrace) : Prop :=
  List.Forall₂ (fun rule entry => entry.RanFor number rule ∧ entry.stopProcessing = false)
    rules block

/-- The block goes on to a rule that stops the pass, and cuts off the rules after it. -/
def StoppedAt (number : Nat) (final : Store) (rules : List Rule) (block : List RuleTrace) : Prop :=
  ∃ earlier rule later ran entry cut, rules = earlier ++ rule :: later ∧
    block = ran ++ entry :: cut ∧ RanThrough number earlier ran ∧ entry.RanFor number rule ∧
    entry.stopProcessing = true ∧ List.Forall₂ (RuleTrace.CutFor number final) later cut

/-- The block goes on to a rule that fires, and ends there. -/
def CappedAt (number : Nat) (rules : List Rule) (block : List RuleTrace) : Prop :=
  ∃ earlier rule later ran entry, rules = earlier ++ rule :: later ∧ block = ran ++ [entry] ∧
    RanThrough number earlier ran ∧ entry.RanFor number rule ∧ entry.fired = true

/-- Some action of the block was applied and has changed the facts. -/
def Changes (block : List RuleTrace) : Prop :=
  ∃ entry ∈ block, ∃ action ∈ entry.actionsApplied, action.applied = true ∧
    ∃ diff ∈ entry.stateDiff, action.path = some diff.path ∧ action.before = diff.before ∧
      action.after = diff.after

section Cons

variable {number : Nat} {final : Store} {rule : Rule} {rest : List Rule} {entry : RuleTrace}
  {block : List RuleTrace}

theorem StoppedAt.cons (first : entry.RanFor number rule) (onward : entry.stopProcessing = false)
    (stopped : StoppedAt number final rest block) :
    StoppedAt number final (rule :: rest) (entry :: block) := by
  obtain ⟨earlier, stopping, later, ran, stop, cut, rfl, rfl, through, more⟩ := stopped
  exact ⟨rule :: earlier, stopping, later, entry :: ran, stop, cut, rfl, rfl,
    .cons ⟨first, onward⟩ through, more⟩

theorem CappedAt.cons (first : entry.RanFor number rule) (onward : entry.stopProcessing = false)
    (capped : CappedAt number rest block) : CappedAt number (rule :: rest) (entry :: block) := by
  obtain ⟨earlier, firing, later, ran, last, rfl, rfl, through, more⟩ := capped
  exact ⟨rule :: earlier, firing, later, entry :: ran, last, rfl, rfl,
    .cons ⟨first, onward⟩ through, more⟩

end Cons

/-! ### Passes -/

/-- The entries that a pass leaves in the trace. -/
def Pass.block (pass : Pass) : List RuleTrace := pass.steps.map (·.trace)

section Passes

variable {context : RunContext} {number : Nat}

theorem RunContext.stepOf_ranFor (context : RunContext) (number : Nat) (rule : Rule)
    (why : ConditionTrace) (outcomes : List ActionOutcome) :
    (context.stepOf number rule why outcomes).trace.RanFor number rule :=
  ⟨⟨rfl, rfl, rfl, rfl⟩, rfl⟩

theorem Skipped.cut {store : Store} {rules : List Rule} {steps : List RuleStep}
    (skipped : Skipped number store rules steps) :
    List.Forall₂ (RuleTrace.CutFor number store) rules (steps.map (·.trace)) := by
  refine List.forall₂_map_right_iff.mpr (skipped.imp ?_)
  rintro rule step ⟨why, evaluated, rfl⟩
  exact ⟨⟨rfl, rfl, rfl, rfl⟩, rfl, evaluated, rfl, rfl, rfl, rfl⟩

/-- The block of a pass, by the way in which the pass has ended. -/
theorem PassRan.shape {rules : List Rule} {before after : Progress} {pass : Pass}
    (ran : PassRan context number rules before pass after) :
    (pass.continuation = .next ∧ RanThrough number rules pass.block) ∨
      (pass.continuation = .stopped ∧ StoppedAt number after.workspace.store rules pass.block) ∨
      (pass.continuation = .capped ∧ CappedAt number rules pass.block) := by
  induction ran with
  | done => exact .inl ⟨rfl, .nil⟩
  | @next rule rest _ why outcomes middle pass after _ goesOn _ ih =>
      have first := context.stepOf_ranFor number rule why outcomes
      have onward : (context.stepOf number rule why outcomes).trace.stopProcessing = false := by
        rw [RunContext.stepOf_stopProcessing (by rw [goesOn]; exact nofun), goesOn]
        rfl
      rcases ih with ⟨ends, through⟩ | ⟨ends, stopped⟩ | ⟨ends, capped⟩
      · exact .inl ⟨ends, .cons ⟨first, onward⟩ through⟩
      · exact .inr (.inl ⟨ends, stopped.cons first onward⟩)
      · exact .inr (.inr ⟨ends, capped.cons first onward⟩)
  | @capped rule rest _ why outcomes after _ ends =>
      refine .inr (.inr ⟨rfl, [], rule, rest, [], _, rfl, rfl, .nil,
        context.stepOf_ranFor number rule why outcomes, ?_⟩)
      have matched := (RunContext.continuation_eq_capped_iff.mp ends).1
      exact (context.stepOf_fired number rule why outcomes).trans matched
  | @stopped rule rest _ why outcomes skipped after _ ends cut =>
      refine .inr (.inl ⟨rfl, [], rule, rest, [], _, _, rfl, rfl, .nil,
        context.stepOf_ranFor number rule why outcomes, ?_, cut.cut⟩)
      rw [RunContext.stepOf_stopProcessing (by rw [ends]; exact nofun), ends]
      rfl

end Passes

/-! ### Changes -/

/-- What an outcome shows as changed is what its action was applied to. -/
def ActionOutcome.Shown (outcome : ActionOutcome) : Prop :=
  ∀ diff ∈ outcome.diffs, outcome.trace.path = some diff.path ∧
    outcome.trace.before = diff.before ∧ outcome.trace.after = diff.after

/-- Every outcome of an action is shown as its kind asks. -/
theorem RunContext.gives_shown (context : RunContext) (ruleId : String) (action : Action) :
    context.Gives ActionOutcome.Shown ruleId action := by
  have written : ∀ {live now path before after issues conflict},
      (action.writeOutcome live now path before after issues conflict).Shown := by
    intro live now path before after issues conflict diff member
    unfold Action.writeOutcome at member
    split at member
    · rw [List.mem_singleton.mp member]
      exact ⟨rfl, rfl, rfl⟩
    · cases member
  intro before outcome workspace acted
  cases Action.apply_eq_ok_iff.mp acted with
  | refused => exact fun _ member => nomatch member
  | event => exact fun _ member => nomatch member
  | field => exact written
  | route => exact written

theorem PassRan.shows_diffs {context : RunContext} {number : Nat} {rules : List Rule}
    {before after : Progress} {pass : Pass} (ran : PassRan context number rules before pass after) :
    ∀ step ∈ pass.steps, step.trace.stateDiff = step.outcomes.flatMap (·.diffs) :=
  ran.forall_mem (fun _ _ _ => rfl) fun _ _ => rfl

/-- A pass that has changed the facts shows an action that did. -/
theorem PassRan.changes {context : RunContext} {number : Nat} {rules : List Rule}
    {before after : Progress} {pass : Pass} (ran : PassRan context number rules before pass after)
    (mutated : pass.mutated = true) : Changes pass.block := by
  obtain ⟨step, member, changed⟩ := List.any_eq_true.mp mutated
  obtain ⟨outcome, inside, moved⟩ := List.any_eq_true.mp changed
  simp only [ActionOutcome.mutated, Bool.and_eq_true, Bool.not_eq_true', List.isEmpty_eq_false_iff]
    at moved
  obtain ⟨diff, differs⟩ := List.exists_mem_of_ne_nil _ moved.2
  have shown : outcome.Shown :=
    ran.forall_outcome (fun _ _ _ _ => context.gives_shown _ _) step member outcome inside
  refine ⟨step.trace, List.mem_map_of_mem member, outcome.trace, ?_, moved.1, diff, ?_,
    shown diff differs⟩
  · rw [ran.shows step member]
    exact List.mem_map_of_mem inside
  · rw [ran.shows_diffs step member]
    exact List.mem_flatMap.mpr ⟨outcome, inside, differs⟩

/-- A pass after which the run goes on has gone through all rules and shows a change. -/
theorem PassRan.continued {context : RunContext} {number : Nat} {rules : List Rule}
    {before after : Progress} {pass : Pass} (ran : PassRan context number rules before pass after)
    (continues : pass.continues context.options = true) :
    RanThrough number rules pass.block ∧ Changes pass.block := by
  obtain ⟨_, mutated, complete⟩ := Pass.continues_iff.mp continues
  refine ⟨?_, ran.changes mutated⟩
  rcases ran.shape with ⟨_, through⟩ | ⟨stopped, _⟩ | ⟨capped, _⟩
  · exact through
  · cases complete.symm.trans stopped
  · cases complete.symm.trans capped

/-- A pass that starts below the cap is capped exactly where its block ends with a firing and
the count has reached the cap. -/
theorem PassRan.capped_iff {context : RunContext} {number : Nat} {rules : List Rule}
    {before after : Progress} {pass : Pass} (ran : PassRan context number rules before pass after)
    (below : (before.firings : Int) < context.options.maxRuleFirings) :
    pass.continuation = .capped ↔ CappedAt number rules pass.block ∧
      (after.firings : Int) = context.options.maxRuleFirings := by
  constructor
  · intro capped
    rcases ran.capped_or_below below with ⟨_, reached⟩ | ⟨uncapped, _⟩
    · rcases ran.shape with ⟨next, _⟩ | ⟨stopped, _⟩ | ⟨_, atRule⟩
      · cases capped.symm.trans next
      · cases capped.symm.trans stopped
      · exact ⟨atRule, reached⟩
    · exact absurd capped uncapped
  · rintro ⟨_, reached⟩
    rcases ran.capped_or_below below with ⟨capped, _⟩ | ⟨_, less⟩
    · exact capped
    · exact absurd reached (Int.ne_of_lt less)

/-! ### Runs -/

section Runs

variable {context : RunContext} {number : Nat}

/-- A run is made of passes, all below the cap but perhaps the last, and all complete and with
changes but the last. -/
theorem RunRan.passes {before : Progress} {execution : Execution}
    (ran : RunRan context number before execution)
    (below : (before.firings : Int) < context.options.maxRuleFirings) :
    ∃ (earlier : List Pass) (last : Pass) (start : Progress),
      execution.steps.map (·.trace) = (earlier.map Pass.block).flatten ++ last.block ∧
      (∀ i pass, earlier[i]? = some pass → pass.continues context.options = true ∧
        ∃ p q, PassRan context (number + i) context.rules p pass q) ∧
      PassRan context (number + earlier.length) context.rules start last execution.progress ∧
      (start.firings : Int) < context.options.maxRuleFirings ∧
      execution.hitRuleLimit = (last.continuation == .capped) := by
  induction ran with
  | @last number before pass after ran _ =>
      refine ⟨[], pass, before, rfl, ?_, ran, below, rfl⟩
      intro i pass place
      cases place
  | @again number before pass middle execution ran continues _ ih =>
      -- A run that goes on has not reached the cap, so the next pass starts below it as well.
      have belowNext := ran.below_of_continues below continues
      obtain ⟨earlier, last, start, blocks, each, lastRan, belowLast, limit⟩ := ih belowNext
      refine ⟨pass :: earlier, last, start, ?_, ?_, ?_, belowLast, limit⟩
      · rw [List.map_append, blocks, List.map_cons, List.flatten_cons, List.append_assoc]
        rfl
      · intro i later place
        cases i with
        | zero =>
            cases place
            exact ⟨continues, _, _, ran⟩
        | succ i =>
            obtain ⟨goesOn, p, q, laterRan⟩ := each i later place
            exact ⟨goesOn, p, q, by rwa [Nat.add_comm i, ← Nat.add_assoc]⟩
      · rwa [List.length_cons, Nat.add_comm earlier.length, ← Nat.add_assoc]

end Runs

/-- The trace of a run that is allowed a firing is that of its passes, one block after another:
one pass unless the run loops. The blocks before the last one go through all rules and show a
change. The last one goes through all rules, or is stopped at a rule, with the conditions of the
later rules as they come out on the final facts, or ends, exactly where the run has hit the
limit, at the rule whose firing has reached it. -/
theorem run_trace_shape (engine : Engine) (program : Program) (payload : Value)
    (options : ExecutionOptions) (result : ExecutionResult) (positive : 0 < options.maxRuleFirings)
    (returned : (engine.run program payload options).result = .ok result) :
    ∃ (earlier : List (List RuleTrace)) (last : List RuleTrace) (final : Store),
      result.trace = earlier.flatten ++ last ∧
      (options.loopUntilSettled = false → earlier = []) ∧
      (∀ i block, earlier[i]? = some block →
        RanThrough (i + 1) (sortRules program.rules) block ∧ Changes block) ∧
      Store.ofPayload (.record result.resultState) = .ok final ∧
      (RanThrough (earlier.length + 1) (sortRules program.rules) last ∨
        StoppedAt (earlier.length + 1) final (sortRules program.rules) last ∨
        result.hitRuleLimit = true) ∧
      (result.hitRuleLimit = true ↔ CappedAt (earlier.length + 1) (sortRules program.rules) last ∧
        (result.trace.countP (·.fired) : Int) = options.maxRuleFirings) := by
  obtain ⟨start, execution, report, tests, taken, executed, _, _, rfl⟩ :=
    Engine.runWith_eq_ok_iff.mp returned
  have ran := (Engine.execute_eq_ok_iff.mp executed).1
  obtain ⟨earlier, last, lastStart, blocks, each, lastRan, below, limit⟩ := ran.passes positive
  have named : execution.progress.workspace.store.Named :=
    (ran.visited rfl .start).keeps (fun _ _ _ _ => RunContext.keeps_named _ _ _)
      (Store.named_of_ofPayload taken)
  -- Skipped rules do not fire, so counting the trace counts all firings.
  have counted : ((execution.steps.map (·.trace)).countP (·.fired) : Int) =
      execution.progress.firings := by
    rw [ran.firings_eq, List.countP_map]
    simp [Progress.start]
    rfl
  have hit : (Engine.resultOf execution report tests).hitRuleLimit = true ↔
      last.continuation = .capped := by
    simp [Engine.resultOf, limit]
  rw [Nat.add_comm, ← earlier.length_map Pass.block] at lastRan
  refine ⟨earlier.map Pass.block, last.block, execution.progress.workspace.store, blocks, ?_, ?_,
    named.ofPayload_snapshot, ?_, ?_⟩
  · intro single
    cases earlier with
    | nil => rfl
    | cons pass _ =>
        have loops := (Pass.continues_iff.mp (each 0 pass rfl).1).1
        cases single.symm.trans loops
  · intro i block place
    rw [List.getElem?_map] at place
    obtain ⟨pass, passPlace, rfl⟩ := Option.map_eq_some_iff.mp place
    obtain ⟨continues, p, q, passRan⟩ := each i pass passPlace
    rw [Nat.add_comm] at passRan
    exact passRan.continued continues
  · rcases lastRan.shape with ⟨_, through⟩ | ⟨_, stopped⟩ | ⟨capped, _⟩
    · exact .inl through
    · exact .inr (.inl stopped)
    · exact .inr (.inr (hit.mpr capped))
  · have atLimit := lastRan.capped_iff below
    rw [← counted] at atLimit
    exact hit.trans atLimit

/-- A tally that is counted up in every pass, until the cap ends the run. -/
def tallyProgram : Program :=
  .plain "tally" [("count", .number)]
    [.plain "up" 0 (.present ⟨"tally.count", none⟩) [.increment "tally.count" (.int 1)] []]

def tallyPayload : Value := Record.payload "tally" [("count", .int 0)]

/-- The count goes up twice, and then the cap ends the second pass. -/
theorem tally_trace_shape :
    ∃ (result : ExecutionResult) (earlier : List (List RuleTrace)) (last : List RuleTrace),
      ((⟨.default, 3⟩ : Engine).run tallyProgram tallyPayload (.looping 2)).result = .ok result ∧
      result.trace = earlier.flatten ++ last ∧
      (∀ i block, earlier[i]? = some block →
        RanThrough (i + 1) (sortRules tallyProgram.rules) block ∧ Changes block) ∧
      CappedAt (earlier.length + 1) (sortRules tallyProgram.rules) last ∧
      (result.trace.countP (·.fired) : Int) = 2 := by
  have hits : returnsWith (·.hitRuleLimit)
      ((⟨.default, 3⟩ : Engine).run tallyProgram tallyPayload (.looping 2)).result = true := by
    decide +kernel
  obtain ⟨result, returned, hit⟩ := eq_ok_of_returnsWith hits
  obtain ⟨earlier, last, final, trace, _, blocks, _, _, capped⟩ :=
    run_trace_shape ⟨.default, 3⟩ tallyProgram tallyPayload (.looping 2) result (by decide) returned
  exact ⟨result, earlier, last, returned, trace, blocks, capped.mp hit⟩

end Rulebook
