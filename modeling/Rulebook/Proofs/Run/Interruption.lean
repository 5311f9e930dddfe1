import Rulebook.Proofs.Number.Rounding
import Rulebook.Proofs.Run.Course
import Rulebook.Proofs.Run.Effect
import Rulebook.Proofs.Run.Journal
import Rulebook.Proofs.Run.Plain

/-!
What interrupts a run.

Three operations fail: a text is matched against a pattern that is refused for another reason
than its spelling, an integer beyond floating point numbers meets one in a sum, and a value is
to be shown or searched for that holds an integer with too many digits. Everything else that a
run does is total. `Condition.Trips` and `Action.Overflows` say where these happen, `PassFaults`
where a pass comes to them, and `single_run_returns_iff` that a run of one pass returns exactly
when it comes to none.
-/

namespace Rulebook

/-! ### Failing computations -/

def Fails {ε α : Type} (x : Except ε α) : Prop := ∃ e, x = .error e

section Failures

variable {ε ε' α β : Type} {x : Except ε α}

@[simp] theorem not_fails_ok {a : α} : ¬ Fails (.ok a : Except ε α) := nofun

@[simp] theorem fails_error {e : ε} : Fails (.error e : Except ε α) := ⟨e, rfl⟩

theorem returns_iff : (∃ a, x = .ok a) ↔ ¬ Fails x := by
  cases x <;> simp

theorem fails_bind {f : α → Except ε β} :
    Fails (x.bind f) ↔ Fails x ∨ ∃ a, x = .ok a ∧ Fails (f a) := by
  cases x <;> simp [Except.bind]

theorem fails_mapError {f : ε → ε'} : Fails (x.mapError f) ↔ Fails x := by
  cases x <;> simp [Except.mapError]

theorem fails_map {f : α → β} : Fails (x.map f) ↔ Fails x := by
  cases x <;> simp [Except.map]

theorem Recorded.result_map {x : Recorded ε α} {f : α → β} :
    (f <$> x).result = x.result.map f := by
  show (x >>= fun a => pure (f a)).result = _
  rw [Recorded.result_bind]
  rfl

end Failures

/-! ### Conditions -/

/-- Some text is matched against a pattern that is refused, and not for its spelling, or it is
searched for a value that has no text. -/
inductive Condition.Trips (store : Store) : Condition → Prop where
  | comparing {lhs rhs : Operand} {text : String} {v : Value} :
      lhs.resolve store = some (.text text) → rhs.resolve store = some v → v.hasText = false →
      Trips store (.compare lhs .contains rhs)
  | matching {value : Operand} {pattern : String} {ignoreCase : Bool} {text : String}
      {refusal : Pattern.Refusal} :
      value.resolve store = some (.text text) →
      Pattern.read ignoreCase pattern = .error refusal → refusal ≠ .malformed →
      Trips store (.matching value pattern ignoreCase)
  | all {conditions : List Condition} {condition : Condition} :
      condition ∈ conditions → Trips store condition → Trips store (.all conditions)
  | any {conditions : List Condition} {condition : Condition} :
      condition ∈ conditions → Trips store condition → Trips store (.any conditions)
  | not {condition : Condition} : Trips store condition → Trips store (.not condition)

/-- A pattern fails where it is refused for another reason than its grammar. -/
theorem matchesPattern_fails_iff {pattern text : String} {ignoreCase : Bool} :
    Fails (matchesPattern pattern ignoreCase text) ↔
      ∃ refusal, Pattern.read ignoreCase pattern = .error refusal ∧ refusal ≠ .malformed := by
  unfold matchesPattern
  cases read : Pattern.read ignoreCase pattern with
  | ok node => simp
  | error refusal => cases refusal <;> cases ignoreCase <;> simp

namespace Condition

variable {store : Store}

/-- A pattern is only read when its value is there as a text. -/
theorem matchingTrace_fails_iff {value : Operand} {pattern : String} {ignoreCase : Bool} :
    Fails (matchingTrace store value pattern ignoreCase) ↔
      (matching value pattern ignoreCase).Trips store := by
  have only : (matching value pattern ignoreCase).Trips store ↔
      ∃ text, value.resolve store = some (.text text) ∧
        Fails (matchesPattern pattern ignoreCase text) := by
    simp only [matchesPattern_fails_iff]
    constructor
    · intro trips
      cases trips with
      | matching resolved refused serious => exact ⟨_, resolved, _, refused, serious⟩
    · rintro ⟨text, resolved, refusal, refused, serious⟩
      exact .matching resolved refused serious
  rw [only]
  simp only [matchingTrace, bind]
  cases resolved : value.resolve store with
  | none => simp [pure, Except.pure, fails_bind]
  | some v => cases v <;> simp [pure, Except.pure, fails_bind, fails_mapError]

/-- A comparison fails where it searches a text for a value that has none. -/
theorem compare_fails_iff {lhs rhs : Operand} {operator : Operator} :
    Fails ((compare lhs operator rhs).evaluate store) ↔
      (compare lhs operator rhs).Trips store := by
  have only : Fails ((compare lhs operator rhs).evaluate store) ↔
      operator.lacksText (lhs.resolve store) (rhs.resolve store) = true := by
    rw [evaluate]
    split <;> simp_all
  rw [only, Operator.lacksText_iff]
  constructor
  · rintro ⟨rfl, ⟨text, resolved⟩, unwritten⟩
    cases sought : rhs.resolve store with
    | none => simp [sought] at unwritten
    | some v => exact .comparing resolved sought (by simpa [sought] using unwritten)
  · intro trips
    cases trips with
    | comparing resolved sought unwritten =>
        exact ⟨rfl, ⟨_, resolved⟩, by simpa [sought] using unwritten⟩

mutual

/-- A condition has no outcome exactly when it trips. -/
theorem evaluate_fails_iff : ∀ condition : Condition,
    Fails (condition.evaluate store) ↔ condition.Trips store
  | .compare .. => compare_fails_iff
  | .present _ | .oneOf .. => by
      simp only [evaluate, not_fails_ok, false_iff]
      rintro ⟨⟩
  | .matching .. => matchingTrace_fails_iff
  | .all conditions => by
      simp only [evaluate, bind, fails_bind, pure, Except.pure, not_fails_ok, and_false,
        exists_false, or_false, evaluateEach_fails_iff conditions]
      constructor
      · rintro ⟨condition, member, trips⟩
        exact .all member trips
      · intro trips
        cases trips with
        | all member trips => exact ⟨_, member, trips⟩
  | .any conditions => by
      simp only [evaluate, bind, fails_bind, pure, Except.pure, not_fails_ok, and_false,
        exists_false, or_false, evaluateEach_fails_iff conditions]
      constructor
      · rintro ⟨condition, member, trips⟩
        exact .any member trips
      · intro trips
        cases trips with
        | any member trips => exact ⟨_, member, trips⟩
  | .not condition => by
      simp only [evaluate, bind, fails_bind, pure, Except.pure, not_fails_ok, and_false,
        exists_false, or_false, evaluate_fails_iff condition]
      constructor
      · exact .not
      · intro trips
        cases trips with
        | not trips => exact trips

/-- Conditions in sequence fail where one of them does: none is passed over. -/
theorem evaluateEach_fails_iff : ∀ conditions : List Condition,
    Fails (evaluateEach store conditions) ↔ ∃ c ∈ conditions, c.Trips store
  | [] => by simp [evaluateEach]
  | c :: rest => by
      simp only [evaluateEach, bind, fails_bind, pure, Except.pure, not_fails_ok, and_false,
        exists_false, or_false, evaluate_fails_iff c, evaluateEach_fails_iff rest,
        List.exists_mem_cons_iff]
      cases evaluated : c.evaluate store with
      | error e => simp [(evaluate_fails_iff c).mp ⟨e, evaluated⟩]
      | ok why => simp

end

end Condition

/-! ### Sums -/

/-- An integer beyond floating point numbers meets one in a sum. -/
inductive Amount.Overflows : Amount → Option Value → Prop where
  | value {n : Int} {x : Binary64} :
      Binary64.integerEnd ≤ n.natAbs → Overflows (.float x) (some (.int n))
  | amount {n : Int} {x : Binary64} :
      Binary64.integerEnd ≤ n.natAbs → Overflows (.int n) (some (.float x))

/-- The increment of a declared number overflows, or the literal that is written to a declared
field is too long to be named and no value of that field. -/
inductive Action.Overflows (catalog : Catalog) (store : Store) : Action → Prop where
  | set {target : String} {value : Operand} {decl : FieldDecl} :
      catalog.resolve target = .ok decl → value.hasText = false → value.Misfit catalog decl →
      Overflows catalog store (.set target value)
  | append {target : String} {value : Operand} {decl : FieldDecl} :
      catalog.resolve target = .ok decl → value.hasText = false → value.Misfit catalog decl →
      Overflows catalog store (.append target value)
  | increment {target : String} {delta : Amount} :
      catalog.checkIncrement target = .ok () → delta.Overflows (store.read target) →
      Overflows catalog store (.increment target delta)

/-- An addition overflows where an integer has to be a float and is none. -/
theorem Amount.overflows_iff {delta : Amount} {current : Option Value} :
    delta.Overflows current ↔
      (∃ n x, delta = .float x ∧ current = some (.int n) ∧ floatOfInt? n = none) ∨
        ∃ n x, delta = .int n ∧ current = some (.float x) ∧ floatOfInt? n = none := by
  simp only [floatOfInt?_eq_none_iff]
  constructor
  · intro overflows
    cases overflows with
    | value large => exact .inl ⟨_, _, rfl, rfl, large⟩
    | amount large => exact .inr ⟨_, _, rfl, rfl, large⟩
  · rintro (⟨n, x, rfl, rfl, large⟩ | ⟨n, x, rfl, rfl, large⟩)
    · exact .value large
    · exact .amount large

/-- That is the only way in which it fails. -/
theorem Amount.addTo_fails_iff {delta : Amount} {current : Option Value} :
    Fails (delta.addTo (current.getD .null)) ↔ delta.Overflows current := by
  rw [overflows_iff]
  cases current with
  | none => simp [addTo]
  | some v =>
      cases v with
      | int n => cases delta <;> cases converted : floatOfInt? n <;> simp [addTo, converted]
      | float x =>
          cases delta with
          | int n => cases converted : floatOfInt? n <;> simp [addTo, converted]
          | float y => simp [addTo]
      | _ => simp [addTo]

/-- A write fails where its value is a misfit that cannot be named. -/
theorem Plan.ofOperand_fails_iff {catalog : Catalog} {store : Store} {ruleId task target : String}
    {value : Operand} {apply : Value → Option Value × Value} :
    Fails (ofOperand catalog store ruleId task target value apply) ↔
      ∃ decl, catalog.resolve target = .ok decl ∧ value.hasText = false ∧
        value.Misfit catalog decl := by
  rw [← checkWrite_tooManyDigits_iff]
  rcases ofOperand_cases catalog store target value with
    blocked | checked | ⟨issue, v, checked, resolved⟩
  · obtain ⟨issue, refused⟩ := @ofOperand_blocked catalog store ruleId task target value apply
      blocked
    refine iff_of_false (refused ▸ not_fails_ok) fun checked => ?_
    cases refused.symm.trans (ofOperand_interrupted checked)
  · rw [ofOperand_interrupted checked]
    exact iff_of_true fails_error checked
  · rw [ofOperand_eq_ok checked resolved, checked]
    simp

/-- Planning an action fails where the action overflows. -/
theorem Plan.ofAction_fails_iff {catalog : Catalog} {store : Store} {ruleId : String}
    {action : Action} :
    Fails (ofAction catalog store ruleId action) ↔ action.Overflows catalog store := by
  cases action with
  | set target value =>
      rw [ofAction_set, ofOperand_fails_iff]
      constructor
      · rintro ⟨decl, resolved, unnamed, misfit⟩
        exact .set resolved unnamed misfit
      · intro overflows
        cases overflows with
        | set resolved unnamed misfit => exact ⟨_, resolved, unnamed, misfit⟩
  | append target value =>
      rw [ofAction_append, ofOperand_fails_iff]
      constructor
      · rintro ⟨decl, resolved, unnamed, misfit⟩
        exact .append resolved unnamed misfit
      · intro overflows
        cases overflows with
        | append resolved unnamed misfit => exact ⟨_, resolved, unnamed, misfit⟩
  | increment target delta =>
      cases checked : catalog.checkIncrement target with
      | error e =>
          rw [ofAction_increment_refused checked]
          simp only [not_fails_ok, false_iff]
          intro overflows
          cases overflows with
          | increment passed _ => cases checked.symm.trans passed
      | ok _ =>
          rw [ofAction_increment checked, fails_map, Amount.addTo_fails_iff]
          constructor
          · exact .increment checked
          · intro overflows
            cases overflows with
            | increment _ overflows => exact overflows
  -- Events and routes are planned without a check.
  | _ =>
      simp only [ofAction, not_fails_ok, false_iff]
      rintro ⟨⟩

/-- Committing a plan never fails, so an action fails as its plan does. -/
theorem RunContext.act_fails_iff {context : RunContext} {ruleId : String} {progress : Progress}
    {action : Action} :
    Fails (context.act ruleId progress action) ↔
      action.Overflows context.catalog progress.workspace.store := by
  rw [← Plan.ofAction_fails_iff]
  exact exists_congr fun _ => Action.apply_eq_error_iff

/-! ### Passes -/

/-- Some action overflows after those before it were applied. -/
inductive ActionsFault (context : RunContext) (ruleId : String) :
    List Action → Progress → Prop where
  | here {action rest before} :
      action.Overflows context.catalog before.workspace.store →
      ActionsFault context ruleId (action :: rest) before
  | later {action rest before outcome workspace} :
      context.act ruleId before action = .ok (outcome, workspace) →
      ActionsFault context ruleId rest (before.acted workspace) →
      ActionsFault context ruleId (action :: rest) before

/-- A pass comes to a condition that trips, or to an action that overflows. -/
inductive PassFaults (context : RunContext) : List Rule → Progress → Prop where
  | condition {rule rest before} :
      rule.condition.Trips before.workspace.store → PassFaults context (rule :: rest) before
  | action {rule rest before why} :
      rule.condition.evaluate before.workspace.store = .ok why →
      ActionsFault context rule.id (rule.branch why.result) (before.count why.result) →
      PassFaults context (rule :: rest) before
  | later {rule rest before why outcomes middle} :
      RuleRan context rule before why outcomes middle →
      context.continuation rule why middle = .next →
      PassFaults context rest middle → PassFaults context (rule :: rest) before
  | skipped {rule rest before why outcomes after other} :
      RuleRan context rule before why outcomes after →
      context.continuation rule why after = .stopped →
      other ∈ rest → other.condition.Trips after.workspace.store →
      PassFaults context (rule :: rest) before

section Passes

variable {context : RunContext} {number : Nat}

/-- Actions in sequence fail at one of them, on the state the earlier ones left. -/
theorem applyActions_fails_iff {ruleId : String} {actions : List Action} {before : Progress} :
    Fails (applyActions context ruleId actions before).result ↔
      ActionsFault context ruleId actions before := by
  induction actions generalizing before with
  | nil =>
      simp only [applyActions, Recorded.result_pure, not_fails_ok, false_iff]
      rintro ⟨⟩
  | cons action rest ih =>
      rw [applyActions_cons_result]
      simp only [fails_bind, not_fails_ok, and_false, exists_false, or_false, ih,
        RunContext.act_fails_iff]
      constructor
      · rintro (overflows | ⟨⟨outcome, workspace⟩, acted, fault⟩)
        · exact .here overflows
        · exact .later acted fault
      · intro fault
        cases fault with
        | here overflows => exact .inl overflows
        | later acted fault => exact .inr ⟨_, acted, fault⟩

theorem evaluateRule_fails_iff {rule : Rule} {store : Store} :
    Fails (evaluateRule rule store).result ↔ rule.condition.Trips store := by
  rw [evaluateRule, Recorded.result_lift, Condition.evaluate_fails_iff]

/-- Skipped rules are evaluated all the same. -/
theorem skipRules_fails_iff {store : Store} {rules : List Rule} :
    Fails (skipRules number store rules).result ↔ ∃ rule ∈ rules, rule.condition.Trips store := by
  induction rules with
  | nil => simp [skipRules]
  | cons rule rest ih =>
      simp only [skipRules, Recorded.result_bind, Recorded.result_pure, fails_bind, not_fails_ok,
        and_false, exists_false, or_false, evaluateRule_fails_iff, ih, List.exists_mem_cons_iff]
      cases evaluated : (evaluateRule rule store).result with
      | error e => simp [evaluateRule_fails_iff.mp ⟨e, evaluated⟩]
      | ok why => simp

/-- A rule fails in its condition or in the branch it chose. -/
theorem runRule_fails_iff {rule : Rule} {before : Progress} :
    Fails (runRule context number rule before).result ↔
      rule.condition.Trips before.workspace.store ∨
        ∃ why, rule.condition.evaluate before.workspace.store = .ok why ∧
          ActionsFault context rule.id (rule.branch why.result) (before.count why.result) := by
  simp only [runRule, Recorded.result_bind, fails_bind, evaluateRule_fails_iff,
    evaluateRule_eq_ok_iff, Recorded.result_pure, not_fails_ok, and_false, exists_false, or_false,
    applyActions_fails_iff]
  rfl

/-- A pass is interrupted exactly when it comes to a fault. -/
theorem runRules_fails_iff {rules : List Rule} {before : Progress} :
    Fails (runRules context number rules before).result ↔ PassFaults context rules before := by
  induction rules generalizing before with
  | nil =>
      simp only [runRules, Recorded.result_pure, not_fails_ok, false_iff]
      rintro ⟨⟩
  | cons rule rest ih =>
      simp only [runRules, Recorded.result_bind, fails_bind, runRule_fails_iff, Prod.exists,
        runRule_eq_ok_iff]
      constructor
      · rintro ((trips | ⟨why, evaluated, fault⟩) |
          ⟨_, onward, middle, ⟨why, outcomes, ran, rfl, goesOn⟩, later⟩)
        · exact .condition trips
        · exact .action evaluated fault
        · -- What comes after the rule depends on how it went on.
          cases onward with
          | next =>
              simp only [Recorded.result_bind, fails_bind, Recorded.result_pure, not_fails_ok,
                and_false, exists_false, or_false, ih] at later
              exact .later ran goesOn.symm later
          | capped => simp [Recorded.result_bind, Except.bind] at later
          | stopped =>
              simp only [Recorded.result_bind, fails_bind, Recorded.result_pure, not_fails_ok,
                and_false, exists_false, or_false, skipRules_fails_iff] at later
              obtain ⟨other, member, trips⟩ := later
              exact .skipped ran goesOn.symm member trips
      · intro fault
        cases fault with
        | condition trips => exact .inl (.inl trips)
        | action evaluated fault => exact .inl (.inr ⟨_, evaluated, fault⟩)
        | later ran goesOn fault =>
            refine .inr ⟨_, .next, _, ⟨_, _, ran, rfl, goesOn.symm⟩, ?_⟩
            simp only [Recorded.result_bind, fails_bind, ih]
            exact .inl fault
        | skipped ran goesOn member trips =>
            refine .inr ⟨_, .stopped, _, ⟨_, _, ran, rfl, goesOn.symm⟩, ?_⟩
            simp only [Recorded.result_bind, fails_bind, skipRules_fails_iff]
            exact .inl ⟨_, member, trips⟩

end Passes

/-! ### Runs of one pass -/

namespace Engine

/-- A name in the payload cannot be written, the only pass of a run comes to a fault, or a
constraint trips on the final state. -/
inductive Faults (engine : Engine) (program : Program) (payload : Value)
    (options : ExecutionOptions) : Prop where
  | name {fields : List (Key × Value)} :
      payload = .object fields → Store.namesHaveText fields = false →
      Faults engine program payload options
  | pass {start : Store} :
      Store.ofPayload payload = .ok start →
      PassFaults (engine.context program options) (sortRules program.rules) (.start start) →
      Faults engine program payload options
  | constraint {start : Store} {pass : Pass} {after : Progress} {constraint : Constraint} :
      Store.ofPayload payload = .ok start →
      PassRan (engine.context program options) 1 (sortRules program.rules) (.start start) pass
        after →
      constraint ∈ program.constraints →
      constraint.assertion.Trips after.workspace.store →
      Faults engine program payload options

variable {engine : Engine} {program : Program} {options : ExecutionOptions}

/-- Every constraint is evaluated, so one that trips fails them all. -/
theorem checkConstraints_fails_iff {store : Store} {constraints : List Constraint} :
    Fails (checkConstraints store constraints) ↔
      ∃ constraint ∈ constraints, constraint.assertion.Trips store := by
  have each : Fails (constraints.mapM (Constraint.check store)) ↔
      ∃ constraint ∈ constraints, constraint.assertion.Trips store := by
    induction constraints with
    | nil => simp [pure, Except.pure]
    | cons first rest ih =>
        have check : Fails (first.check store) ↔ first.assertion.Trips store := by
          simp only [Constraint.check, bind, fails_bind, Condition.evaluate_fails_iff, pure,
            Except.pure, not_fails_ok, and_false, exists_false, or_false]
        simp only [List.mapM_cons, bind, fails_bind, pure, Except.pure, not_fails_ok, and_false,
          exists_false, or_false, check, ih, List.exists_mem_cons_iff]
        cases checked : first.check store with
        | error e => simp [check.mp ⟨e, checked⟩]
        | ok result => simp
  simp only [checkConstraints, bind, fails_bind, each, pure, Except.pure, not_fails_ok, and_false,
    exists_false, or_false]

/-- A run of one pass has no second one. -/
theorem execute_single {store : Store} {pass : Pass} {after : Progress}
    (passes : 0 < engine.passLimit) (single : options.loopUntilSettled = false)
    (ran : PassRan (engine.context program options) 1 (sortRules program.rules) (.start store) pass
      after) :
    (engine.execute program store options).result =
      .ok ⟨pass.steps, after, 1, pass.continuation == .capped⟩ := by
  refine execute_eq_ok_iff.mpr ⟨.last ran ?_, passes⟩
  simp [Pass.continues, context, single]

/-- A single pass is the whole run. -/
theorem execute_single_ran {store : Store} {execution : Execution}
    (single : options.loopUntilSettled = false)
    (executed : (engine.execute program store options).result = .ok execution) :
    ∃ pass, PassRan (engine.context program options) 1 (sortRules program.rules) (.start store)
      pass execution.progress := by
  cases (execute_eq_ok_iff.mp executed).1 with
  | last ran _ => exact ⟨_, ran⟩
  | again _ continues _ =>
      exact absurd (Pass.continues_iff.mp continues).1 (by simp [context, single])

/-- An object is taken unless a name in it cannot be written. -/
theorem taken_or_unwritten {payload : Value}
    (mapping : payload = .null ∨ ∃ fields, payload = .object fields) :
    (∃ start, Store.ofPayload payload = .ok start) ∨
      ∃ fields, payload = .object fields ∧ Store.namesHaveText fields = false := by
  rcases mapping with rfl | ⟨fields, rfl⟩
  · exact .inl ⟨_, rfl⟩
  · cases written : Store.namesHaveText fields with
    | true => exact .inl ⟨_, if_pos written⟩
    | false => exact .inr ⟨_, rfl, written⟩

/-- A single run returns where neither its rules, its constraints nor its examples fail. -/
theorem runWith_returns_iff {payload : Value}
    {tests : Recorded Interruption (Option (List ExampleResult))}
    (passes : 0 < engine.passLimit) (single : options.loopUntilSettled = false)
    (mapping : payload = .null ∨ ∃ fields, payload = .object fields) :
    (∃ result, (engine.runWith program payload options tests).result = .ok result) ↔
      ¬ engine.Faults program payload options ∧ ¬ Fails tests.result := by
  constructor
  · rintro ⟨result, returned⟩
    obtain ⟨start, execution, report, testReport, taken, executed, checked, tested, -⟩ :=
      runWith_eq_ok_iff.mp returned
    obtain ⟨pass, ran⟩ := execute_single_ran single executed
    refine ⟨?_, returns_iff.mp ⟨testReport, tested⟩⟩
    intro faults
    cases faults with
    | name object unwritten => simp [object, Store.ofPayload, unwritten] at taken
    | pass taken' fault =>
        cases taken.symm.trans taken'
        exact returns_iff.mp ⟨_, runRules_eq_ok_iff.mpr ran⟩ (runRules_fails_iff.mpr fault)
    | constraint taken' ran' member trips =>
        cases taken.symm.trans taken'
        -- The pass of the fault is the pass that was run.
        have same := (runRules_eq_ok_iff.mpr ran).symm.trans (runRules_eq_ok_iff.mpr ran')
        cases same
        exact returns_iff.mp ⟨_, checked⟩ (checkConstraints_fails_iff.mpr ⟨_, member, trips⟩)
  · rintro ⟨sound, tested⟩
    obtain ⟨start, taken⟩ | ⟨fields, object, unwritten⟩ := taken_or_unwritten mapping
    case inr => exact absurd (.name object unwritten) sound
    obtain ⟨⟨pass, after⟩, made⟩ := returns_iff.mpr fun failed =>
      sound (.pass taken (runRules_fails_iff.mp failed))
    have ran := runRules_eq_ok_iff.mp made
    obtain ⟨report, checked⟩ := returns_iff.mpr fun failed => by
      obtain ⟨constraint, member, trips⟩ := checkConstraints_fails_iff.mp failed
      exact sound (.constraint taken ran member trips)
    obtain ⟨testReport, tested⟩ := returns_iff.mpr tested
    exact ⟨_, runWith_eq_ok_iff.mpr ⟨start, _, report, testReport, taken,
      execute_single passes single ran, checked, tested, rfl⟩⟩

/-- An example fails where the run of its payload, with actions, does. -/
theorem runExample_fails_iff_runWith {ex : Example} :
    Fails (engine.runExample program options ex).result ↔
      Fails (engine.runWith program (.record ex.input)
        { options with enableActions := true, evaluateExamples := false } (pure none)).result := by
  simp only [runExample, Recorded.result_bind, fails_bind]
  refine or_iff_left ?_
  rintro ⟨result, _, failed⟩
  split at failed <;> simp [fails_bind] at failed

/-- An example fails as the run it is checked by does. -/
theorem runExample_fails_iff {ex : Example} (passes : 0 < engine.passLimit)
    (single : options.loopUntilSettled = false) :
    Fails (engine.runExample program options ex).result ↔
      engine.Faults program (.record ex.input)
        { options with enableActions := true, evaluateExamples := false } := by
  have run := @runWith_returns_iff engine program
    { options with enableActions := true, evaluateExamples := false } (.record ex.input)
    (pure none) passes single (.inr ⟨_, rfl⟩)
  rw [runExample_fails_iff_runWith, ← not_iff_not, ← returns_iff, run]
  simp

/-- Examples fail together where one of them fails by itself. -/
theorem runEach_fails_iff_exists {examples : List Example} :
    Fails (engine.runEach program options examples).result ↔
      ∃ ex ∈ examples, Fails (engine.runExample program options ex).result := by
  induction examples with
  | nil => simp [runEach]
  | cons ex rest ih =>
      simp only [runEach, Recorded.result_bind, fails_bind, Recorded.result_pure, not_fails_ok,
        and_false, exists_false, or_false, ih, List.exists_mem_cons_iff]
      cases ran : (engine.runExample program options ex).result with
      | error e => simp
      | ok result => simp

theorem runEach_fails_iff {examples : List Example} (passes : 0 < engine.passLimit)
    (single : options.loopUntilSettled = false) :
    Fails (engine.runEach program options examples).result ↔ ∃ ex ∈ examples,
      engine.Faults program (.record ex.input)
        { options with enableActions := true, evaluateExamples := false } := by
  simp only [runEach_fails_iff_exists, runExample_fails_iff passes single]

/-- A run of one pass on an object, or on nothing, returns exactly when neither it nor one
of the examples that it evaluates comes to a fault. -/
theorem single_run_returns_iff (engine : Engine) (program : Program) (payload : Value)
    (options : ExecutionOptions) (passes : 0 < engine.passLimit)
    (single : options.loopUntilSettled = false)
    (mapping : payload = .null ∨ ∃ fields, payload = .object fields) :
    (∃ result, (engine.run program payload options).result = .ok result) ↔
      ¬ engine.Faults program payload options ∧
        (options.evaluateExamples = true → ∀ ex ∈ program.examples,
          ¬ engine.Faults program (.record ex.input) (.default engine.settings)) := by
  rw [run, runWith_returns_iff passes single mapping]
  refine and_congr_right fun _ => ?_
  cases evaluates : options.evaluateExamples with
  | false => simp
  | true =>
      have examples := @runEach_fails_iff engine program (.default engine.settings)
        program.examples passes rfl
      have tests : Fails (some <$> engine.runExamples program (.default engine.settings)).result ↔
          Fails (engine.runEach program (.default engine.settings) program.examples).result := by
        simp [Recorded.result_map, fails_map, runExamples, fails_bind]
      simp only [if_true, tests, examples, not_exists, not_and, true_imp_iff]
      rfl

end Engine

/-- The ticket's run returns, so nothing trips or overflows in it. -/
theorem ticket_meets_no_fault :
    ¬ (⟨.default, 1⟩ : Engine).Faults ticketProgram ticketPayload .once :=
  ((Engine.single_run_returns_iff ⟨.default, 1⟩ ticketProgram ticketPayload .once Nat.one_pos rfl
    (.inr ⟨_, rfl⟩)).mp ticket_returns).1

def hugePayload : Value := Record.payload "meter" [("count", .int (10 ^ 400))]

def halfProgram : Program :=
  .plain "meter" [("count", .number)]
    [.plain "half" 0 (.present ⟨"meter.count", none⟩)
      [.increment "meter.count" (.float (.ofQuotient false Binary64.unitsPerOne 2))] []]

/-- The rule matches a label against a pattern with a repetition that is too large. -/
def repeatProgram : Program :=
  .plain "meter" [("label", .string)]
    [.plain "repeat" 0 (.matching (.fact ⟨"meter.label", none⟩) "a{4294967295}" false) [] []]

/-- Neither of these runs returns: the first takes a sum that has no value, and the second
reads a pattern that is refused though it is well spelt. -/
theorem sums_and_patterns_interrupt :
    ((⟨.default, 1⟩ : Engine).run halfProgram hugePayload .once).result = .error .sumOutOfRange ∧
      ((⟨.default, 1⟩ : Engine).run repeatProgram (Record.payload "meter" [("label", .text "a")])
        .once).result = .error (.pattern .repetitionTooLarge) := by
  constructor
  · apply eq_error_of_endsWith
    decide +kernel
  · apply eq_error_of_endsWith
    decide +kernel

end Rulebook
