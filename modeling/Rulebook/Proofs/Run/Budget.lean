import Mathlib.Algebra.BigOperators.Group.List.Basic
import Rulebook.Proofs.Run.Passes
import Rulebook.Proofs.Run.Summary

/-!
What the cap pays for.

The cap counts firings, and neither passes nor actions. Where rules that do not match do no more
than send events, a pass that changes the facts has fired, so each pass that is followed by
another takes the count further (`Reached.le_firings`). The firings of a run then pay for its
passes, and for the actions in them: those of the rules that match, one by one, and once in each
pass those of all the others (`PassVisits.spent`).
-/

namespace Rulebook

/-! ### Rules -/

/-- Where the rule does not match, it only sends events. -/
def Rule.QuietElse (rule : Rule) : Prop :=
  ∀ action ∈ rule.elseActions, ∃ name payload, action = .emit name payload

def longestThen (rules : List Rule) : Nat := (rules.map (·.thenActions.length)).max?.getD 0

def elseTotal (rules : List Rule) : Nat := (rules.map (·.elseActions.length)).sum

theorem length_le_longestThen {rules : List Rule} {rule : Rule} (member : rule ∈ rules) :
    rule.thenActions.length ≤ longestThen rules := by
  have listed : rule.thenActions.length ∈ rules.map (·.thenActions.length) :=
    List.mem_map_of_mem member
  obtain ⟨most, found⟩ := Option.isSome_iff_exists.mp (List.isSome_max?_of_mem listed)
  rw [longestThen, found]
  exact (List.max?_eq_some_iff.mp found).2 _ listed

theorem elseTotal_eq_of_perm {rules others : List Rule} (perm : rules.Perm others) :
    elseTotal rules = elseTotal others :=
  (perm.map _).sum_eq

/-! ### Firings pay for passes -/

section Passes

variable {context : RunContext} {number : Nat}

theorem RunContext.gives_unmutated (context : RunContext) (ruleId name : String)
    (payload : Record) :
    context.Gives (fun outcome => outcome.mutated = false) ruleId (.emit name payload) := by
  intro before outcome workspace acted
  cases acted
  exact Bool.and_false _

/-- Without a match a quiet rule changes nothing. -/
theorem RuleRan.matched_of_mutated {rule : Rule} {before after : Progress} {why : ConditionTrace}
    {outcomes : List ActionOutcome} (ran : RuleRan context rule before why outcomes after)
    (quiet : rule.QuietElse) (mutated : outcomes.any (·.mutated) = true) : why.result = true := by
  by_contra unmatched
  have applied := ran.applied
  rw [Bool.eq_false_iff.mpr unmatched] at applied
  have unmutated : ∀ outcome ∈ outcomes, outcome.mutated = false := by
    refine applied.forall_outcome fun action member => ?_
    obtain ⟨name, payload, rfl⟩ := quiet action member
    exact context.gives_unmutated rule.id name payload
  obtain ⟨outcome, member, changed⟩ := List.any_eq_true.mp mutated
  exact Bool.false_ne_true ((unmutated outcome member).symm.trans changed)

/-- In a pass of quiet rules only those that fire change the facts. -/
theorem PassRan.fired_of_mutated {rules : List Rule} {before after : Progress} {pass : Pass}
    (ran : PassRan context number rules before pass after)
    (quiet : ∀ rule ∈ rules, rule.QuietElse) :
    ∀ step ∈ pass.steps, step.mutated = true → step.fired = true := by
  have first : ∀ {rule before why outcomes after}, rule.QuietElse →
      RuleRan context rule before why outcomes after →
      (context.stepOf number rule why outcomes).mutated = true →
      (context.stepOf number rule why outcomes).fired = true := by
    intro rule before why outcomes after quiet ran mutated
    rw [RunContext.stepOf_fired]
    exact ran.matched_of_mutated quiet mutated
  induction ran with
  | done => exact fun _ member => nomatch member
  | next ran _ _ ih =>
      obtain ⟨here, there⟩ := List.forall_mem_cons.mp quiet
      exact List.forall_mem_cons.mpr ⟨first here ran, ih there⟩
  | capped ran _ =>
      exact List.forall_mem_singleton.mpr (first (List.forall_mem_cons.mp quiet).1 ran)
  | stopped ran _ skipped =>
      refine List.forall_mem_cons.mpr ⟨first (List.forall_mem_cons.mp quiet).1 ran, ?_⟩
      exact skipped.forall_mem fun _ _ mutated => nomatch mutated

/-- Each pass that is followed by another takes the count further. -/
theorem Reached.le_firings {start before : Progress} {n : Nat}
    (reached : Reached context start n before)
    (quiet : ∀ rule ∈ context.rules, rule.QuietElse) : n ≤ before.firings := by
  induction reached with
  | start => exact Nat.zero_le _
  | @again n before pass after _ ran continues ih =>
      have ran := runRules_eq_ok_iff.mp ran
      obtain ⟨step, member, changed⟩ :=
        List.any_eq_true.mp (Pass.continues_iff.mp continues).2.1
      have fires : pass.fires = true :=
        List.any_eq_true.mpr ⟨step, member, ran.fired_of_mutated quiet step member changed⟩
      have positive := Pass.firings_pos_iff.mpr fires
      rw [ran.firings_eq]
      omega

/-- A pass after which the run goes on leaves the count below the cap. -/
theorem Reached.below_cap {start before : Progress} {n : Nat}
    (reached : Reached context start n before)
    (below : (start.firings : Int) < context.options.maxRuleFirings) :
    (before.firings : Int) < context.options.maxRuleFirings := by
  induction reached with
  | start => exact below
  | again _ ran continues ih => exact (runRules_eq_ok_iff.mp ran).below_of_continues ih continues

/-- So the cap bounds the passes. -/
theorem Reached.lt_cap {start before : Progress} {n : Nat}
    (reached : Reached context start n before) (quiet : ∀ rule ∈ context.rules, rule.QuietElse)
    (below : (start.firings : Int) < context.options.maxRuleFirings) :
    n < context.options.maxRuleFirings :=
  Int.lt_of_le_of_lt (Int.ofNat_le.mpr (reached.le_firings quiet)) (reached.below_cap below)

/-- The last pass of a run starts from a state that the run reaches. -/
theorem RunRan.passes_reached {start before : Progress} {execution : Execution}
    (ran : RunRan context number before execution) {n : Nat} (place : number = n + 1)
    (reached : Reached context start n before) :
    ∃ m last, execution.passes = m + 1 ∧ Reached context start m last := by
  induction ran generalizing n with
  | last => exact ⟨n, _, place, reached⟩
  | again pass continues _ ih =>
      subst place
      exact ih rfl (.again reached (runRules_eq_ok_iff.mpr pass) continues)

/-- No step of a run belongs to a pass after its last. -/
theorem RunRan.passNumber_le {before : Progress} {execution : Execution}
    (ran : RunRan context number before execution) :
    ∀ step ∈ execution.steps, step.trace.passNumber ≤ execution.passes := by
  induction ran with
  | last pass _ => exact fun step member => Nat.le_of_eq (pass.passNumber_eq step member)
  | again pass _ later ih =>
      refine List.forall_mem_append.mpr ⟨fun step member => ?_, ih⟩
      rw [pass.passNumber_eq step member]
      exact Nat.le_of_succ_le later.number_le

end Passes

/-! ### Firings pay for actions -/

section Actions

variable {context : RunContext}

theorem Progress.count_actionCount (progress : Progress) (matched : Bool) :
    (progress.count matched).actionCount = progress.actionCount := by
  cases matched <;> rfl

/-- Inside a rule at most its actions are counted. -/
theorem ActionsVisit.actionCount_le {ruleId : String} {actions : List Action}
    {before state : Progress} (visits : ActionsVisit context ruleId actions before state) :
    state.actionCount ≤ before.actionCount + actions.length := by
  induction visits with
  | here => exact Nat.le_add_right _ _
  | later _ _ ih =>
      simp only [Progress.acted, List.length_cons] at ih ⊢
      omega

/-- A firing is counted before the actions of its rule, so they leave the count alone. -/
theorem ActionsVisit.firings_eq {ruleId : String} {actions : List Action}
    {before state : Progress} (visits : ActionsVisit context ruleId actions before state) :
    state.firings = before.firings := by
  induction visits with
  | here => rfl
  | later _ _ ih => rw [ih, Progress.acted_firings]

/-- The actions of a rule are paid for by its firing, or are some of those for no match. -/
theorem Rule.branch_length_le {rule : Rule} {most : Nat}
    (longest : rule.thenActions.length ≤ most) (matched : Bool) :
    (rule.branch matched).length ≤ most * matched.toNat + rule.elseActions.length := by
  cases matched with
  | true =>
      rw [Bool.toNat_true, Nat.mul_one]
      exact Nat.le_add_right_of_le longest
  | false => exact Nat.le_add_left _ _

/-- Up to any state inside a rule, the actions spent are bounded by the firings. -/
theorem ActionsVisit.spent {rule : Rule} {matched : Bool} {before state : Progress} {most : Nat}
    (visits : ActionsVisit context rule.id (rule.branch matched) (before.count matched) state)
    (longest : rule.thenActions.length ≤ most) :
    state.actionCount + most * before.firings ≤
      before.actionCount + most * state.firings + rule.elseActions.length := by
  have counted := visits.actionCount_le
  rw [Progress.count_actionCount] at counted
  have paid := rule.branch_length_le longest matched
  -- what is left is linear in the counts and the two products
  rw [visits.firings_eq, Progress.count_firings, Nat.mul_add]
  omega

/-- What a pass has applied so far is paid for by its firings, but for the actions of rules that
do not match. -/
theorem PassVisits.spent {rules : List Rule} {before state : Progress} {most : Nat}
    (visits : PassVisits context rules before state)
    (longest : ∀ rule ∈ rules, rule.thenActions.length ≤ most) :
    state.actionCount + most * before.firings ≤
      before.actionCount + most * state.firings + elseTotal rules := by
  induction visits with
  | here => exact Nat.le_add_right _ _
  | actions _ inner =>
      have spent := inner.spent (List.forall_mem_cons.mp longest).1
      rw [elseTotal, List.map_cons, List.sum_cons]
      omega
  | later first _ _ ih =>
      obtain ⟨here, there⟩ := List.forall_mem_cons.mp longest
      have spent := first.applied.visited.spent here
      have later := ih there
      rw [elseTotal] at later ⊢
      rw [List.map_cons, List.sum_cons]
      omega

/-- A pass that starts below the cap does not count beyond it. -/
theorem PassVisits.firings_le {rules : List Rule} {before state : Progress}
    (visits : PassVisits context rules before state)
    (below : (before.firings : Int) < context.options.maxRuleFirings) :
    (state.firings : Int) ≤ context.options.maxRuleFirings := by
  induction visits with
  | here => exact Int.le_of_lt below
  | @actions _ _ _ why _ _ inner =>
      rw [inner.firings_eq, Progress.count_firings]
      have one := Bool.toNat_le why.result
      omega
  | later first goesOn _ ih => exact ih (first.below_cap (by rw [goesOn]; exact nofun) below)

/-- What a run has applied in its passes so far. -/
theorem Reached.spent {start before : Progress} {n most : Nat}
    (reached : Reached context start n before) (fresh : start.actionCount = 0)
    (longest : ∀ rule ∈ context.rules, rule.thenActions.length ≤ most) :
    before.actionCount ≤ most * before.firings + n * elseTotal context.rules := by
  induction reached with
  | start => simp [fresh]
  | again _ ran _ ih =>
      have spent := (runRules_eq_ok_iff.mp ran).visited.spent longest
      rw [Nat.succ_mul]
      omega

/-- What a run of quiet rules has applied at any time. -/
theorem RunVisits.spent {start : Store} {state : Progress} {most : Nat}
    (visits : RunVisits context (.start start) state)
    (positive : 0 < context.options.maxRuleFirings)
    (quiet : ∀ rule ∈ context.rules, rule.QuietElse)
    (longest : ∀ rule ∈ context.rules, rule.thenActions.length ≤ most) :
    state.actionCount ≤ context.options.maxRuleFirings * most
      + context.options.maxRuleFirings * elseTotal context.rules := by
  obtain ⟨n, before, reached, visits⟩ := visits
  have passes := reached.lt_cap quiet positive
  have few := visits.firings_le (reached.below_cap positive)
  obtain ⟨cap, limit⟩ := Int.eq_ofNat_of_zero_le (Int.le_of_lt positive)
  rw [limit] at passes few ⊢
  have earlier := reached.spent rfl longest
  have later := visits.spent longest
  have firings := Nat.mul_le_mul_left most (Int.ofNat_le.mp few)
  -- the pass that is under way is one of those that the cap allows
  have others := Nat.mul_le_mul_right (elseTotal context.rules) (Int.ofNat_lt.mp passes)
  rw [Nat.mul_comm most cap] at firings
  rw [Nat.succ_mul] at others
  have bound : state.actionCount ≤ cap * most + cap * elseTotal context.rules := by omega
  exact_mod_cast bound

end Actions

/-! ### Runs -/

/-- Where rules that do not match only send events, the cap bounds every run, also one that is
interrupted. No run comes to a pass beyond the cap. At no time has it applied more actions than
the longest match has for each firing, and all rules without a match for each pass, that the cap
allows. A result shows no more passes and actions than these. -/
theorem quiet_else_bounds_run (engine : Engine) (program : Program) (options : ExecutionOptions)
    (positive : 0 < options.maxRuleFirings) (quiet : ∀ rule ∈ program.rules, rule.QuietElse) :
    (∀ start n before, Reached (engine.context program options) (.start start) n before →
      n + 1 ≤ options.maxRuleFirings) ∧
    (∀ start state, RunVisits (engine.context program options) (.start start) state →
      state.actionCount ≤ options.maxRuleFirings * longestThen program.rules
        + options.maxRuleFirings * elseTotal program.rules) ∧
    ∀ payload result, (engine.run program payload options).result = .ok result →
      ∃ start execution, Store.ofPayload payload = .ok start ∧
        (engine.execute program start options).result = .ok execution ∧
        execution.passes ≤ options.maxRuleFirings ∧
        (∀ entry ∈ result.trace, entry.passNumber ≤ execution.passes) ∧
        result.shownActions.length ≤ options.maxRuleFirings * longestThen program.rules
          + options.maxRuleFirings * elseTotal program.rules := by
  have sorted : (sortRules program.rules).Perm program.rules := List.mergeSort_perm ..
  have quietSorted : ∀ rule ∈ sortRules program.rules, rule.QuietElse := by
    intro rule member
    exact quiet rule (sorted.mem_iff.mp member)
  have longest : ∀ rule ∈ sortRules program.rules,
      rule.thenActions.length ≤ longestThen program.rules := by
    intro rule member
    exact length_le_longestThen (sorted.mem_iff.mp member)
  -- A pass without a firing changes nothing and is the last, so the firings bound the passes.
  have passes : ∀ start n before,
      Reached (engine.context program options) (.start start) n before →
        n < options.maxRuleFirings := by
    intro start n before reached
    exact reached.lt_cap quietSorted positive
  have spent : ∀ start state, RunVisits (engine.context program options) (.start start) state →
      state.actionCount ≤ options.maxRuleFirings * longestThen program.rules
        + options.maxRuleFirings * elseTotal program.rules := by
    intro start state visits
    rw [← elseTotal_eq_of_perm sorted]
    exact visits.spent positive quietSorted longest
  refine ⟨passes, spent, ?_⟩
  intro payload result returned
  obtain ⟨start, execution, report, tests, taken, executed, _, _, rfl⟩ :=
    Engine.runWith_eq_ok_iff.mp returned
  have ran := (Engine.execute_eq_ok_iff.mp executed).1
  refine ⟨start, execution, taken, executed, ?_, List.forall_mem_map.mpr ran.passNumber_le, ?_⟩
  · obtain ⟨m, last, count, reached⟩ := ran.passes_reached rfl .start
    rw [count]
    exact passes start m last reached
  · have counted : execution.progress.actionCount = execution.outcomes.length :=
      ran.actedOn.counted.trans (Nat.zero_add _)
    rw [ran.shownActions_eq, List.length_map, ← counted]
    exact spent start _ (ran.visited rfl .start)

/-- A gauge that is filled up to two, and asks for a note in every pass. -/
def gaugeProgram : Program :=
  .plain "gauge" [("count", .number), ("note", .string)]
    [.plain "fill" 1 (.compare (.fact ⟨"gauge.count", none⟩) .less (.literal (.int 2) none))
      [.increment "gauge.count" (.int 1), .emit "filled" []] [.emit "full" []],
     .plain "ask" 0 (.present ⟨"gauge.note", none⟩) [] [.emit "noteless" []]]

def gaugePayload : Value := Record.payload "gauge" [("count", .int 0)]

theorem gaugeProgram_sorted : sortRules gaugeProgram.rules = gaugeProgram.rules :=
  List.mergeSort_of_pairwise (by decide +kernel)

/-- The gauge is settled in the third pass. -/
theorem gauge_bounded :
    0 < (ExecutionOptions.looping 3).maxRuleFirings ∧
    (∀ rule ∈ gaugeProgram.rules, rule.QuietElse) ∧
    ∃ result, ((⟨.default, 3⟩ : Engine).run gaugeProgram gaugePayload (.looping 3)).result =
        .ok result ∧
      result.trace.map (·.passNumber) = [1, 1, 2, 2, 3, 3] ∧ result.shownActions.length = 8 ∧
      ∃ start execution, Store.ofPayload gaugePayload = .ok start ∧
        ((⟨.default, 3⟩ : Engine).execute gaugeProgram start (.looping 3)).result =
          .ok execution ∧
        execution.passes ≤ (3 : Int) ∧
        (∀ entry ∈ result.trace, entry.passNumber ≤ execution.passes) ∧
        result.shownActions.length ≤ (3 : Int) * longestThen gaugeProgram.rules
          + (3 : Int) * elseTotal gaugeProgram.rules := by
  have quiet : ∀ rule ∈ gaugeProgram.rules, rule.QuietElse := by
    refine List.forall_mem_cons.mpr ⟨?_, List.forall_mem_singleton.mpr ?_⟩
    · exact List.forall_mem_singleton.mpr ⟨"full", [], rfl⟩
    · exact List.forall_mem_singleton.mpr ⟨"noteless", [], rfl⟩
  have returns : returnsWith (fun result =>
      (result.trace.map (·.passNumber), result.shownActions.length) == ([1, 1, 2, 2, 3, 3], 8))
      ((⟨.default, 3⟩ : Engine).run gaugeProgram gaugePayload (.looping 3)).result = true := by
    simp only [Engine.run, Engine.runWith, Engine.execute, Engine.context, gaugeProgram_sorted]
    decide +kernel
  obtain ⟨result, returned, shown⟩ := eq_ok_of_returnsWith returns
  obtain ⟨passes, actions⟩ := Prod.mk.inj (eq_of_beq shown)
  exact ⟨by decide, quiet, result, returned, passes, actions,
    (quiet_else_bounds_run _ gaugeProgram (.looping 3) (by decide) quiet).2.2 _ result returned⟩

end Rulebook
