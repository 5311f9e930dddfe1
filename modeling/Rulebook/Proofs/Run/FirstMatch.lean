import Rulebook.Proofs.Run.Declaration
import Rulebook.Proofs.Run.Dry
import Rulebook.Proofs.Run.Shape

/-!
Runs that end with their first match.

Where every rule stops its pass when it matches, a pass that goes through all its rules has
matched none of them, and only such a pass is followed by another (`PassRan.first_match`).
Actions of rules that do not match may change the facts for many passes, but a run comes to one
match at most: before it no rule has matched in any pass, and after it no rule is run
(`RunRan.first_match`).
-/

namespace Rulebook

/-! ### Traces with one match -/

/-- The rule was run and did not match. -/
structure RuleTrace.Unmatched (entry : RuleTrace) : Prop where
  unskipped : entry.skipped = false
  unmatched : entry.matched = false

/-- The rule was skipped, and none of its actions were applied. -/
structure RuleTrace.Inactive (entry : RuleTrace) : Prop where
  skipped : entry.skipped = true
  actionsApplied : entry.actionsApplied = []

/-- No rule has matched before the first one that fired, and none was run after it. -/
inductive FirstMatch : List RuleTrace → Prop where
  | none : FirstMatch []
  | later {entry rest} : entry.Unmatched → FirstMatch rest → FirstMatch (entry :: rest)
  | here {entry rest} : entry.fired = true → (∀ other ∈ rest, other.Inactive) →
      FirstMatch (entry :: rest)

theorem RuleTrace.Unmatched.fired_eq {entry : RuleTrace} (idle : entry.Unmatched) :
    entry.fired = false := by
  simp [RuleTrace.fired, idle.unmatched]

theorem RuleTrace.Inactive.fired_eq {entry : RuleTrace} (inactive : entry.Inactive) :
    entry.fired = false := by
  simp [RuleTrace.fired, inactive.skipped]

namespace FirstMatch

variable {entries : List RuleTrace} {place : Nat} {entry : RuleTrace}

/-- Rules that did not match may stand before the first that does. -/
theorem prepend {earlier : List RuleTrace} (idle : ∀ entry ∈ earlier, entry.Unmatched)
    (first : FirstMatch entries) : FirstMatch (earlier ++ entries) := by
  induction earlier with
  | nil => exact first
  | cons entry rest ih =>
      obtain ⟨here, there⟩ := List.forall_mem_cons.mp idle
      exact .later here (ih there)

/-- At most one rule fires. -/
theorem countP_fired_le_one (first : FirstMatch entries) : entries.countP (·.fired) ≤ 1 := by
  induction first with
  | none => exact Nat.zero_le 1
  | later idle _ ih => rwa [List.countP_cons_of_neg (Bool.eq_false_iff.mp idle.fired_eq)]
  | here fired inactive =>
      rw [List.countP_cons_of_pos fired, List.countP_eq_zero.mpr]
      exact fun other member => Bool.eq_false_iff.mp (inactive other member).fired_eq

/-- Before an entry that fired no rule has matched, and after it none was run. -/
theorem around (first : FirstMatch entries) (placed : entries[place]? = some entry)
    (fired : entry.fired = true) :
    (∀ other ∈ entries.take place, other.Unmatched) ∧
      ∀ other ∈ entries.drop (place + 1), other.Inactive := by
  induction first generalizing place with
  | none => cases placed
  | later idle _ ih =>
      cases place with
      | zero =>
          cases placed
          cases fired.symm.trans idle.fired_eq
      | succ place =>
          obtain ⟨before, after⟩ := ih placed
          exact ⟨List.forall_mem_cons.mpr ⟨idle, before⟩, after⟩
  | here _ inactive =>
      cases place with
      | zero => exact ⟨fun _ member => (nomatch member), inactive⟩
      | succ place =>
          cases fired.symm.trans (inactive entry (List.mem_of_getElem? placed)).fired_eq

end FirstMatch

/-! ### Passes and runs -/

section Runs

variable {context : RunContext} {number : Nat}

/-- After a rule whose match stops the pass, it goes on exactly if the rule did not match. -/
theorem RunContext.continuation_eq_next_iff {rule : Rule} {why : ConditionTrace}
    {after : Progress} (stops : rule.stops context.defaultMode = true) :
    context.continuation rule why after = .next ↔ why.result = false := by
  rw [continuation, continuationAfter, stops]
  cases why.result with
  | false => simp
  | true => split <;> simp

theorem Skipped.inactive {store : Store} {rules : List Rule} {steps : List RuleStep}
    (skipped : Skipped number store rules steps) :
    ∀ entry ∈ steps.map (·.trace), entry.Inactive :=
  List.forall_mem_map.mpr (skipped.forall_mem fun _ _ => ⟨rfl, rfl⟩)

/-- A pass whose rules all stop it comes to one match at most, and to none if it is complete. -/
theorem PassRan.first_match {rules : List Rule} {before after : Progress} {pass : Pass}
    (ran : PassRan context number rules before pass after)
    (stops : ∀ rule ∈ rules, rule.stops context.defaultMode = true) :
    FirstMatch pass.block ∧
      (pass.continuation = .next → ∀ entry ∈ pass.block, entry.Unmatched) := by
  induction ran with
  | done => exact ⟨.none, fun _ _ member => (nomatch member)⟩
  | @next rule _ _ why outcomes _ _ _ _ goesOn _ ih =>
      obtain ⟨here, there⟩ := List.forall_mem_cons.mp stops
      obtain ⟨first, idle⟩ := ih there
      have unmatched : (context.stepOf number rule why outcomes).trace.Unmatched :=
        ⟨rfl, (RunContext.continuation_eq_next_iff here).mp goesOn⟩
      exact ⟨.later unmatched first,
        fun complete => List.forall_mem_cons.mpr ⟨unmatched, idle complete⟩⟩
  | @capped rule _ _ why outcomes _ _ ends =>
      have matched := (RunContext.continuation_eq_capped_iff.mp ends).1
      have fired := (context.stepOf_fired number rule why outcomes).trans matched
      exact ⟨.here fired fun _ member => (nomatch member), nofun⟩
  | @stopped _ _ _ why _ _ _ _ ends skipped =>
      obtain ⟨here, _⟩ := List.forall_mem_cons.mp stops
      -- A rule that stops the pass has matched, for a rule that does not match never stops it.
      have matched : why.result = true := by
        refine Bool.eq_true_of_not_eq_false fun unmatched => ?_
        cases ends.symm.trans ((RunContext.continuation_eq_next_iff here).mpr unmatched)
      exact ⟨.here ((context.stepOf_fired ..).trans matched) skipped.inactive, nofun⟩

/-- A run whose rules all stop their passes comes to one match at most, over all passes. -/
theorem RunRan.first_match {before : Progress} {execution : Execution}
    (ran : RunRan context number before execution)
    (stops : ∀ rule ∈ context.rules, rule.stops context.defaultMode = true) :
    FirstMatch (execution.steps.map (·.trace)) := by
  induction ran with
  | last pass _ => exact (pass.first_match stops).1
  | again pass continues _ ih =>
      rw [List.map_append]
      exact ih.prepend ((pass.first_match stops).2 (Pass.continues_iff.mp continues).2.2)

/-! ### Places in a trace -/

/-- Lists that are related item by item are related at each place. -/
theorem forall₂_getElem? {α β : Type} {related : α → β → Prop} {xs : List α} {ys : List β}
    (each : List.Forall₂ related xs ys) {i : Nat} {y : β} (place : ys[i]? = some y) :
    ∃ x, xs[i]? = some x ∧ related x y := by
  induction each generalizing i with
  | nil => cases place
  | cons first _ ih =>
      cases i with
      | zero =>
          cases place
          exact ⟨_, rfl, first⟩
      | succ i => exact ih place

theorem eq_take_append_cons_drop {α : Type} {xs : List α} {i : Nat} {x : α}
    (place : xs[i]? = some x) : xs = xs.take i ++ x :: xs.drop (i + 1) := by
  obtain ⟨inside, rfl⟩ := List.getElem?_eq_some_iff.mp place
  rw [← List.drop_eq_getElem_cons inside, List.take_append_drop]

/-- Before a place that is taken all places are. -/
theorem exists_mem_take_of_lt {α : Type} {xs : List α} {i j : Nat} {x : α}
    (place : xs[j]? = some x) (less : i < j) : ∃ y ∈ xs.take j, xs[i]? = some y := by
  have inside : i < xs.length := Nat.lt_trans less (List.getElem?_eq_some_iff.mp place).1
  have among : (xs.take j)[i]? = some xs[i] := by
    rw [List.getElem?_take_of_lt less, List.getElem?_eq_getElem inside]
  exact ⟨xs[i], List.mem_of_getElem? among, List.getElem?_eq_getElem inside⟩

/-- The steps of a pass are those of its rules, in order. -/
theorem PassRan.steps_of {rules : List Rule} {before after : Progress} {pass : Pass}
    (ran : PassRan context number rules before pass after) :
    List.Forall₂ (fun rule step => step.trace.Of number rule) (rules.take pass.steps.length)
      pass.steps := by
  induction ran with
  | done => exact .nil
  | next _ _ _ ih => exact .cons (context.stepOf_ranFor ..).toOf ih
  | capped => exact .cons (context.stepOf_ranFor ..).toOf .nil
  | stopped _ _ skipped =>
      refine .cons (context.stepOf_ranFor ..).toOf ?_
      rw [List.take_of_length_le skipped.length_eq.le]
      exact (List.forall₂_map_right_iff.mp skipped.cut).imp fun _ _ cut => cut.toOf

/-- The place of a step in a pass tells the rule. -/
theorem PassRan.of {rules : List Rule} {before after : Progress} {pass : Pass}
    (ran : PassRan context number rules before pass after) {i : Nat} {step : RuleStep}
    (place : pass.steps[i]? = some step) :
    ∃ rule, rules[i]? = some rule ∧ step.trace.Of number rule := by
  obtain ⟨rule, among, shown⟩ := forall₂_getElem? ran.steps_of place
  rw [List.getElem?_take_of_lt (List.getElem?_eq_some_iff.mp place).1] at among
  exact ⟨rule, among, shown⟩

/-- The place of a step in a run tells the pass and the rule. -/
theorem RunRan.of {before : Progress} {execution : Execution}
    (ran : RunRan context number before execution) {i : Nat} {step : RuleStep}
    (place : execution.steps[i]? = some step) :
    ∃ rule, context.rules[i % context.rules.length]? = some rule ∧
      step.trace.Of (number + i / context.rules.length) rule := by
  induction ran generalizing i with
  | last pass _ =>
      have inside := (List.getElem?_eq_some_iff.mp place).1
      have few := Nat.lt_of_lt_of_le inside pass.length_le.1
      rw [Nat.mod_eq_of_lt few, Nat.div_eq_of_lt few]
      exact pass.of place
  | @again number before pass middle execution ran continues _ ih =>
      -- Every pass before the last goes through all rules, so a place divides into pass and rule.
      have complete := ran.length_le.2 (Pass.continues_iff.mp continues).2.2
      rcases Nat.lt_or_ge i pass.steps.length with inside | beyond
      · rw [List.getElem?_append_left inside] at place
        have few := complete ▸ inside
        rw [Nat.mod_eq_of_lt few, Nat.div_eq_of_lt few]
        exact ran.of place
      · obtain ⟨j, rfl⟩ := Nat.exists_eq_add_of_le beyond
        rw [List.getElem?_append_right beyond, Nat.add_sub_cancel_left] at place
        obtain ⟨rule, ruled, shown⟩ := ih place
        have positive : 0 < context.rules.length :=
          Nat.zero_lt_of_lt (List.getElem?_eq_some_iff.mp ruled).1
        refine ⟨rule, ?_, ?_⟩
        · rwa [complete, Nat.add_mod_left]
        · rwa [complete, Nat.add_div_left _ positive, Nat.add_comm (j / _), ← Nat.add_assoc]

end Runs

/-! ### Results -/

/-- The entry at a place of the trace belongs to a rule in a pass and shows how its condition came
out on the facts that the log entries of the earlier places give. -/
structure ExecutionResult.Shows (result : ExecutionResult) (start : Store) (place number : Nat)
    (rule : Rule) (entry : RuleTrace) : Prop where
  placed : result.trace[place]? = some entry
  ran : entry.RanFor number rule
  evaluated : ∃ store, start.replay (result.journalBefore place) = .ok store ∧
    rule.condition.evaluate store = .ok entry.why
  matched_eq : entry.matched = entry.why.result

/-- A dry run has no journal, and its conditions are evaluated on the facts that it started from. -/
theorem RunRan.explained_dry {context : RunContext} (dry : context.options.enableActions = false)
    {start : Store} {execution : Execution} (ran : RunRan context 1 (.start start) execution)
    (report : ConstraintReport) (tests : Option (List ExampleResult)) {i : Nat} {step : RuleStep}
    (place : execution.steps[i]? = some step) :
    (Engine.resultOf execution report tests).journalBefore i = [] ∧
      ∃ rule, context.rules[i % context.rules.length]? = some rule ∧
        rule.condition.evaluate start = .ok step.trace.why := by
  have unlogged := (ran.acted.untouched_of_dry dry).2
  have silent : (Engine.resultOf execution report tests).actions = [] :=
    List.filterMap_eq_nil_iff.mpr fun outcome member => (unlogged outcome member).2
  refine ⟨by rw [ExecutionResult.journalBefore, silent, List.filter_nil], ?_⟩
  cases ran with
  | again pass continues => cases (pass.not_continues_dry dry).symm.trans continues
  | last pass _ =>
      obtain ⟨rule, among, _, _, evaluated⟩ :=
        forall₂_getElem? (pass.evaluated_dry dry fun _ => id) place
      have inside := (List.getElem?_eq_some_iff.mp place).1
      rw [List.getElem?_take_of_lt inside] at among
      rw [Nat.mod_eq_of_lt (Nat.lt_of_lt_of_le inside pass.length_le.1)]
      exact ⟨rule, among, evaluated⟩

/-- What a step shows of its rule is shown at its place in the result. -/
theorem RunRan.result_shows {context : RunContext} {start : Store} {execution : Execution}
    (ran : RunRan context 1 (.start start) execution)
    (report : ConstraintReport) (tests : Option (List ExampleResult)) {place : Nat}
    {entry : RuleTrace}
    (placed : (Engine.resultOf execution report tests).trace[place]? = some entry)
    (unskipped : entry.skipped = false) :
    ∃ rule, context.rules[place % context.rules.length]? = some rule ∧
      (Engine.resultOf execution report tests).Shows start place
        (1 + place / context.rules.length) rule entry := by
  have shown : (execution.steps.map (·.trace))[place]? = some entry := placed
  rw [List.getElem?_map] at shown
  obtain ⟨step, stepPlace, rfl⟩ := Option.map_eq_some_iff.mp shown
  obtain ⟨rule, ruled, of⟩ := ran.of stepPlace
  have told : ∀ step ∈ execution.steps, step.trace.matched = step.trace.why.result :=
    ran.forall_mem (fun _ _ _ _ => rfl) fun _ _ _ => rfl
  refine ⟨rule, ruled, placed, ⟨of, unskipped⟩, ?_, told step (List.mem_of_getElem? stepPlace)⟩
  -- A live run is replayed up to the entry; in a dry one there is nothing to replay.
  cases live : context.options.enableActions with
  | true =>
      obtain ⟨other, store, otherRuled, replayed, _, evaluated⟩ :=
        ran.explained live stepPlace unskipped
      cases ruled.symm.trans otherRuled
      exact ⟨store, ran.journalBefore_eq live report tests place ▸ replayed, evaluated⟩
  | false =>
      obtain ⟨silent, other, otherRuled, evaluated⟩ :=
        ran.explained_dry live report tests stepPlace
      cases ruled.symm.trans otherRuled
      exact ⟨start, silent ▸ rfl, evaluated⟩

/-- The rule that fires is shown in its pass after all rules that go before it, and each of them
was evaluated and has not matched. -/
theorem RunRan.first_match_shown {context : RunContext} {start : Store} {execution : Execution}
    (ran : RunRan context 1 (.start start) execution)
    (stops : ∀ rule ∈ context.rules, rule.stops context.defaultMode = true)
    (report : ConstraintReport) (tests : Option (List ExampleResult)) {place : Nat}
    {entry : RuleTrace}
    (placed : (Engine.resultOf execution report tests).trace[place]? = some entry)
    (fired : entry.fired = true) :
    ∃ number first earlier rule later, context.rules = earlier ++ rule :: later ∧
      place = first + earlier.length ∧
      (Engine.resultOf execution report tests).Shows start place number rule entry ∧
      ∀ i before, earlier[i]? = some before → ∃ other,
        (Engine.resultOf execution report tests).Shows start (first + i) number before other ∧
          other.matched = false := by
  obtain ⟨idle, _⟩ := (ran.first_match stops).around placed fired
  have unskipped : entry.skipped = false := by
    simpa using (Bool.and_eq_true_iff.mp fired).2
  obtain ⟨rule, ruled, shows⟩ := ran.result_shows report tests placed unskipped
  have inside := (List.getElem?_eq_some_iff.mp ruled).1
  have length := List.length_take_of_le (Nat.le_of_lt inside)
  have whole := Nat.div_add_mod place context.rules.length
  -- the pass of the rule starts after the entries of all rules in the passes before it
  refine ⟨_, context.rules.length * (place / context.rules.length), _, rule, _,
    eq_take_append_cons_drop ruled, ?_, shows, ?_⟩
  · rw [length, whole]
  · intro i before ruledBefore
    have less := (List.getElem?_eq_some_iff.mp ruledBefore).1
    rw [length] at less
    have few : i < context.rules.length := Nat.lt_trans less inside
    obtain ⟨other, among, otherPlaced⟩ := exists_mem_take_of_lt placed
      (Nat.lt_of_lt_of_eq (Nat.add_lt_add_left less _) whole)
    have unmatched := idle other among
    obtain ⟨rule', ruled', shows'⟩ := ran.result_shows report tests otherPlaced unmatched.unskipped
    rw [Nat.mul_add_mod, Nat.mod_eq_of_lt few] at ruled'
    rw [Nat.mul_add_div (Nat.zero_lt_of_lt few), Nat.div_eq_of_lt few, Nat.add_zero] at shows'
    rw [List.getElem?_take_of_lt less, ruled'] at ruledBefore
    cases ruledBefore
    exact ⟨other, shows', unmatched.unmatched⟩

/-- Where the mode of every rule, its own or that of the run, is to stop at the first match, a run
fires once at most over all its passes. If a rule has fired, then in its pass every rule that goes
before it was evaluated on the facts that were left to it, and did not match; no rule has matched
in an earlier pass; and no action of any rule is applied after those of the rule that fired. -/
theorem first_match_fires_once (engine : Engine) (program : Program) (payload : Value)
    (options : ExecutionOptions) (result : ExecutionResult)
    (firstMatch : ∀ rule ∈ program.rules,
      rule.mode.getD (options.evaluationMode engine.settings program) = .firstMatch)
    (returned : (engine.run program payload options).result = .ok result) :
    result.ruleFirings ≤ 1 ∧ ∃ start, Store.ofPayload payload = .ok start ∧
      ∀ place entry, result.trace[place]? = some entry → entry.fired = true →
        ∃ number first earlier rule later, sortRules program.rules = earlier ++ rule :: later ∧
          (∀ other ∈ program.rules, (rule.priority < other.priority ∨
            other.priority = rule.priority ∧ other.id < rule.id) → other ∈ earlier) ∧
          place = first + earlier.length ∧ result.Shows start place number rule entry ∧
          (∀ i before, earlier[i]? = some before → ∃ other,
            result.Shows start (first + i) number before other ∧ other.matched = false) ∧
          (∀ other ∈ result.trace.take place, other.Unmatched) ∧
          ∀ other ∈ result.trace.drop (place + 1), other.Inactive := by
  obtain ⟨start, execution, report, tests, taken, executed, _, _, rfl⟩ :=
    Engine.runWith_eq_ok_iff.mp returned
  have ran := (Engine.execute_eq_ok_iff.mp executed).1
  have stops : ∀ rule ∈ sortRules program.rules,
      rule.stops (options.evaluationMode engine.settings program) = true := by
    intro rule member
    rw [Rule.stops, firstMatch rule (List.mem_mergeSort.mp member)]
    rfl
  have shape := ran.first_match stops
  refine ⟨?_, start, taken, ?_⟩
  · have few := shape.countP_fired_le_one
    rw [List.countP_map] at few
    exact ran.firings_eq.trans_le ((Nat.zero_add _).trans_le few)
  · intro place entry placed fired
    obtain ⟨number, first, earlier, rule, later, sorted, place_eq, shows, each⟩ :=
      ran.first_match_shown stops report tests placed fired
    refine ⟨number, first, earlier, rule, later, sorted, ?_, place_eq, shows, each,
      shape.around placed fired⟩
    intro other member precedes
    exact mem_earlier_of_precedes sorted member precedes

/-- Options of a live run that loops and stops each pass at the first match. -/
def ExecutionOptions.firstMatching : ExecutionOptions := ⟨some .firstMatch, 100, true, true, false⟩

/-- A door that is knocked at until somebody enters with the key, which is looked for first. -/
def doorProgram : Program :=
  .plain "door" [("knocks", .number), ("bell", .string), ("key", .string), ("open", .string)]
    [.plain "ring" 2 (.present ⟨"door.bell", none⟩) []
      [.increment "door.knocks" (.int 1)],
     .plain "enter" 1 (.present ⟨"door.key", none⟩)
      [.set "door.open" (.literal (.text "yes") none)]
      [.set "door.key" (.literal (.text "found") none)],
     .plain "rest" 0 (.present ⟨"door.open", none⟩) [.emit "inside" []] []]

def doorPayload : Value := Record.payload "door" [("knocks", .int 0)]

theorem doorProgram_sorted : sortRules doorProgram.rules = doorProgram.rules :=
  List.mergeSort_of_pairwise (by decide +kernel)

/-- The first pass changes the facts without a match, and the second one fires. -/
theorem door_opens_once :
    (∀ rule ∈ doorProgram.rules, rule.mode.getD (ExecutionOptions.firstMatching.evaluationMode
      .default doorProgram) = .firstMatch) ∧
    ∃ result, ((⟨.default, 2⟩ : Engine).run doorProgram doorPayload .firstMatching).result =
        .ok result ∧
      result.trace.map (·.fired) = [false, false, false, false, true, false] ∧
      result.ruleFirings ≤ 1 ∧ (∀ other ∈ result.trace.take 4, other.Unmatched) ∧
      ∀ other ∈ result.trace.drop 5, other.Inactive := by
  have firstMatch : ∀ rule ∈ doorProgram.rules,
      rule.mode.getD (ExecutionOptions.firstMatching.evaluationMode .default doorProgram) =
        .firstMatch := by
    decide +kernel
  have returns : returnsWith (fun result => result.trace.map (·.fired) ==
      [false, false, false, false, true, false])
      ((⟨.default, 2⟩ : Engine).run doorProgram doorPayload .firstMatching).result = true := by
    simp only [Engine.run, Engine.runWith, Engine.execute, Engine.context, doorProgram_sorted]
    decide +kernel
  obtain ⟨result, returned, firings⟩ := eq_ok_of_returnsWith returns
  have places := eq_of_beq firings
  have second : (result.trace.map (·.fired))[4]? = some true := congrArg (·[4]?) places
  rw [List.getElem?_map] at second
  obtain ⟨entry, placed, fired⟩ := Option.map_eq_some_iff.mp second
  obtain ⟨few, start, _, each⟩ := first_match_fires_once _ _ _ _ result firstMatch returned
  obtain ⟨_, _, _, _, _, _, _, _, _, _, around⟩ := each 4 entry placed fired
  exact ⟨firstMatch, result, returned, places, few, around⟩

end Rulebook
