import Rulebook.Proofs.Run.Context
import Rulebook.Proofs.Run.Success
import Rulebook.Proofs.Value.Parts

/-!
What states meet which expectations.

Strict equality is an equivalence of the trees that have text keys and no `nan`, and meeting an
expectation is a preorder of them: an expectation that a state meets is met by all that meets the
state as an expectation of its own (`Engine.expectationMatches_trans`). What is left of a state
after entries of its objects are left out is an expectation that the state meets
(`Value.Pruned.matches`). Runs of the same payload end in the same state, so an example that
expects what is left of the state that its own run ends in passes exactly if no constraint that
counts as an error fails (`own_state_expected`).
-/

namespace Rulebook

/-- What is left of a value when entries of objects are left out, at any depth outside of
lists. -/
inductive Value.Pruned : Value → Value → Prop where
  | same (v : Value) : Pruned v v
  | object {fs gs : List (Key × Value)} :
      (fs.map Prod.fst).Sublist (gs.map Prod.fst) →
      (∀ key v w, (key, v) ∈ fs → (key, w) ∈ gs → Pruned v w) →
      Pruned (.object fs) (.object gs)

namespace Engine

/-! ### Partial matches -/

section Matches

variable {e a b : Value}

/-- Fields are expected one by one, each wherever it stands. -/
theorem expectationsMatch_iff {fields entries : List (Key × Value)} :
    expectationsMatch fields entries = true ↔ ∀ entry ∈ fields, ∃ w,
      Fields.find? entry.1 entries = some w ∧ expectationMatches entry.2 w = true := by
  induction fields with
  | nil => simp [expectationsMatch]
  | cons entry rest ih =>
      obtain ⟨k, v⟩ := entry
      simp only [expectationsMatch, Bool.and_eq_true, ih, List.forall_mem_cons]
      cases Fields.find? k entries <;> simp

/-- An object is matched entry by entry; what else there is does not count. -/
theorem expectationMatches_object_iff {fs gs : List (Key × Value)}
    (left : Value.Keyed (.object fs)) (right : Value.Keyed (.object gs)) :
    expectationMatches (.object fs) (.object gs) = true ↔
      ∀ entry ∈ fs, ∃ w, (entry.1, w) ∈ gs ∧ expectationMatches entry.2 w = true := by
  rw [expectationMatches, expectationsMatch_iff]
  refine forall₂_congr fun entry member => exists_congr fun w => ?_
  rw [left.find?_eq_some_iff right member]

/-- An object is matched by objects only. -/
theorem object_of_expectationMatches {fields : List (Key × Value)}
    (matched : expectationMatches (.object fields) a = true) : ∃ entries, a = .object entries := by
  cases a with
  | object entries => exact ⟨entries, rfl⟩
  | _ => cases matched

/-- What is no object is matched by what is strictly equal to it. -/
theorem expectationMatches_other (other : ∀ fields, e ≠ .object fields) :
    expectationMatches e a = e.strictEq a := by
  cases e with
  | object fields => exact absurd rfl (other fields)
  | _ => rfl

/-- What equals no object is none. -/
theorem other_of_strictEq (other : ∀ fields, e ≠ .object fields) (equal : e.strictEq a = true) :
    ∀ fields, a ≠ .object fields := by
  rintro fields rfl
  cases e with
  | object own => exact other own rfl
  | _ => simp [Value.strictEq, Value.sameNumber, Value.position?] at equal

theorem not_object_of_isScalar (plain : e.isScalar = true) : ∀ fields, e ≠ .object fields := by
  rintro fields rfl
  cases plain

/-- A determinate state meets itself. -/
theorem expectationMatches_refl (determinate : a.Determinate) :
    expectationMatches a a = true := by
  have keyed := determinate.keyed
  induction keyed with
  | scalar plain =>
      rw [expectationMatches_other (not_object_of_isScalar plain)]
      exact Value.strictEq_refl determinate.keyed.wellKeyed determinate.numeric
  | list =>
      rw [expectationMatches_other (by simp)]
      exact Value.strictEq_refl determinate.keyed.wellKeyed determinate.numeric
  | object _ _ _ ih =>
      have keyed := determinate.keyed
      refine (expectationMatches_object_iff keyed keyed).mpr fun entry member => ?_
      exact ⟨entry.2, member, ih entry member (determinate.part (.entry member))⟩

/-- Where no object is expected, matching is equality. -/
theorem expectationMatches_trans_other (other : ∀ fields, e ≠ .object fields) (first : e.Keyed)
    (second : a.Keyed) (third : b.Keyed) (one : expectationMatches e a = true)
    (two : expectationMatches a b = true) : expectationMatches e b = true := by
  rw [expectationMatches_other other] at one ⊢
  rw [expectationMatches_other (other_of_strictEq other one)] at two
  exact Value.strictEq_trans first second third one two

/-- A match carries over to whatever its second side matches. -/
theorem expectationMatches_trans (first : e.Keyed) (second : a.Keyed) (third : b.Keyed)
    (one : expectationMatches e a = true) (two : expectationMatches a b = true) :
    expectationMatches e b = true := by
  induction first generalizing a b with
  | scalar plain =>
      exact expectationMatches_trans_other (not_object_of_isScalar plain) (.scalar plain) second
        third one two
  | list each =>
      exact expectationMatches_trans_other (by simp) (.list each) second third one two
  | object distinct texts each ih =>
      obtain ⟨middle, rfl⟩ := object_of_expectationMatches one
      obtain ⟨last, rfl⟩ := object_of_expectationMatches two
      have first : Value.Keyed (.object _) := .object distinct texts each
      have left := (expectationMatches_object_iff first second).mp one
      have right := (expectationMatches_object_iff second third).mp two
      refine (expectationMatches_object_iff first third).mpr fun entry member => ?_
      obtain ⟨v, inMiddle, matchesV⟩ := left entry member
      obtain ⟨w, inLast, matchesW⟩ := right _ inMiddle
      exact ⟨w, inLast, ih entry member (second.values _ inMiddle) (third.values _ inLast)
        matchesV matchesW⟩

end Matches

end Engine

namespace Value

/-- Records are pruned by leaving out entries and pruning the others. -/
theorem Pruned.record {expected state : Record}
    (names : (expected.map Prod.fst).Sublist (state.map Prod.fst))
    (each : ∀ name v w, (name, v) ∈ expected → (name, w) ∈ state → Pruned v w) :
    Pruned (.record expected) (.record state) := by
  refine .object ?_ ?_
  · rw [Fields.map_fst_texts, Fields.map_fst_texts]
    exact names.map Key.text
  · intro key v w inExpected inState
    obtain ⟨⟨name, v⟩, left, same⟩ := List.mem_map.mp inExpected
    obtain ⟨⟨name', w⟩, right, same'⟩ := List.mem_map.mp inState
    cases same
    cases same'
    exact each _ _ _ left right

/-- Pruning keeps keys distinct. -/
theorem Pruned.keyed {e a : Value} (pruned : Pruned e a) (keyed : a.Keyed) : e.Keyed := by
  induction pruned with
  | same => exact keyed
  | @object fs gs names _ ih =>
      have kept : ∀ entry ∈ fs, ∃ w, (entry.1, w) ∈ gs :=
        fun _ => Fields.exists_counterpart names.subset
      refine .object (keyed.distinct.sublist names) (fun entry member => ?_) fun entry member => ?_
      · obtain ⟨w, inside⟩ := kept entry member
        exact keyed.texts (entry.1, w) inside
      · obtain ⟨w, inside⟩ := kept entry member
        exact ih _ _ _ member inside (keyed.values _ inside)

/-- A value meets what is left of it as an expectation. -/
theorem Pruned.matches {e a : Value} (pruned : Pruned e a) (determinate : a.Determinate) :
    Engine.expectationMatches e a = true := by
  induction pruned with
  | same => exact Engine.expectationMatches_refl determinate
  | @object fs gs names pruned ih =>
      have keyed : Keyed (.object fs) := (Pruned.object names pruned).keyed determinate.keyed
      refine (Engine.expectationMatches_object_iff keyed determinate.keyed).mpr
        fun entry member => ?_
      obtain ⟨w, inside⟩ := Fields.exists_counterpart names.subset member
      exact ⟨w, inside, ih _ _ _ member inside (determinate.part (.entry inside))⟩

end Value

/-! ### Examples -/

namespace Engine

variable {engine : Engine} {program : Program} {options : ExecutionOptions} {ex : Example}

/-- An example returns where its run with actions does. It passes where the final state meets the
expectation and no constraint that counts as an error has failed. -/
theorem runExample_eq_ok_iff {verdict : ExampleResult} :
    (engine.runExample program options ex).result = .ok verdict ↔
      ∃ result, (engine.runWith program (.record ex.input)
          { options with enableActions := true, evaluateExamples := false } (pure none)).result =
            .ok result ∧
        verdict = ⟨ex.id,
          expectationMatches (.record ex.expected) (.record result.resultState) &&
            !result.constraintReport.hasErrors,
          ex.expected, result.resultState, result.constraintReport, result.trace⟩ := by
  simp only [runExample, Recorded.result_bind_eq_ok_iff]
  refine exists_congr fun result => and_congr_right fun _ => ?_
  -- a failed example leaves a line in the log, which is no part of its result
  split <;> simp [Except.bind, eq_comm]

/-- Whether a run is to evaluate the examples makes no difference to its rules. -/
theorem execute_evaluateExamples (options : ExecutionOptions) (store : Store) (evaluates : Bool) :
    engine.execute program store { options with evaluateExamples := evaluates } =
      engine.execute program store options := by
  have alike : (engine.context program { options with evaluateExamples := evaluates }).PassesLike
      (engine.context program options) := ⟨fun _ _ _ => rfl, rfl, rfl⟩
  exact runPasses_congr alike rfl rfl _ _ _

/-- An example that expects what is left of the state that the run of its payload ends in passes
exactly if the constraints that count as errors hold on that state. -/
theorem runExample_of_pruned {result : ExecutionResult} (keyed : (Value.record ex.input).Keyed)
    (returned : (engine.run program (.record ex.input)
      { options with enableActions := true }).result = .ok result)
    (numeric : (Value.record result.resultState).Numeric)
    (pruned : Value.Pruned (.record ex.expected) (.record result.resultState)) :
    ∃ verdict final, (engine.runExample program options ex).result = .ok verdict ∧
      Store.ofPayload (.record result.resultState) = .ok final ∧
      (verdict.passed = true ↔ ∀ constraint ∈ program.constraints,
        constraint.severity = .error → constraint.holdsOn final = true) := by
  obtain ⟨start, execution, report, _, taken, executed, checked, _, rfl⟩ :=
    runWith_eq_ok_iff.mp returned
  have keyedFinal : execution.progress.workspace.store.Keyed :=
    (execute_eq_ok_iff.mp executed).1.keyed (Store.keyed_of_ofPayload keyed taken)
  have determinate : (Value.record execution.progress.workspace.store.snapshot).Determinate :=
    ⟨Value.keyed_record keyedFinal.distinct keyedFinal.values, numeric⟩
  -- The example runs without examples of its own, which the rules do not see.
  have again := (congrArg Recorded.result
    (execute_evaluateExamples { options with enableActions := true } start false)).trans executed
  have tested : (engine.runWith program (.record ex.input)
      { options with enableActions := true, evaluateExamples := false } (pure none)).result =
        .ok (resultOf execution report none) :=
    runWith_eq_ok_iff.mpr ⟨start, execution, report, none, taken, again, checked, rfl, rfl⟩
  refine ⟨_, execution.progress.workspace.store, runExample_eq_ok_iff.mpr ⟨_, tested, rfl⟩,
    keyedFinal.ofPayload_snapshot, ?_⟩
  have matched : expectationMatches (.record ex.expected)
      (.record execution.progress.workspace.store.snapshot) = true := pruned.matches determinate
  rw [← (checkConstraints_exact checked).hasErrors_eq_false_iff]
  simp [resultOf, matched]

end Engine

/-- Strict equality is an equivalence of trees with text keys and no `nan`, and partial matching
is a preorder of them. So an example that expects of its payload what a live run makes of it, or
what is left of that when entries are left out, passes exactly if every constraint that counts as
an error holds on the state that the run ends in. -/
theorem own_state_expected :
    (Equivalence fun a b : { v : Value // v.Determinate } => a.1.strictEq b.1 = true) ∧
    (∀ x : { v : Value // v.Determinate }, Engine.expectationMatches x.1 x.1 = true) ∧
    (∀ e a b : { v : Value // v.Determinate }, Engine.expectationMatches e.1 a.1 = true →
      Engine.expectationMatches a.1 b.1 = true → Engine.expectationMatches e.1 b.1 = true) ∧
    ∀ (engine : Engine) (program : Program) (options : ExecutionOptions) (ex : Example)
      (result : ExecutionResult), (Value.record ex.input).Keyed →
      (engine.run program (.record ex.input) { options with enableActions := true }).result =
        .ok result →
      (Value.record result.resultState).Numeric →
      Value.Pruned (.record ex.expected) (.record result.resultState) →
      ∃ verdict final, (engine.runExample program options ex).result = .ok verdict ∧
        Store.ofPayload (.record result.resultState) = .ok final ∧
        (verdict.passed = true ↔ ∀ constraint ∈ program.constraints,
          constraint.severity = .error → constraint.holdsOn final = true) := by
  refine ⟨⟨?_, ?_, ?_⟩, ?_, ?_, ?_⟩
  · exact fun x => Value.strictEq_refl x.2.keyed.wellKeyed x.2.numeric
  · exact fun {x y} => Value.strictEq_symm x.2.keyed y.2.keyed
  · exact fun {x y z} => Value.strictEq_trans x.2.keyed y.2.keyed z.2.keyed
  · exact fun x => Engine.expectationMatches_refl x.2
  · exact fun e a b => Engine.expectationMatches_trans e.2.keyed a.2.keyed b.2.keyed
  · intro engine program options ex result keyed returned numeric pruned
    exact Engine.runExample_of_pruned keyed returned numeric pruned

/-- A locker with its size, beside a remark that no entity has. -/
def sizedLocker (opened : Int) : Record :=
  [("locker", .record [("opened", .int opened), ("size", .record [("w", .int 2), ("h", .int 3)])]),
    ("remark", .text "new")]

/-- Of the locker that was opened once, the width is expected and the height is not, nor the
remark. -/
def openedExample : Example :=
  { id := "opened", description := none, input := sizedLocker 0,
    expected := [("locker", .record [("opened", .int 1), ("size", .record [("w", .int 2)])])] }

/-- The expectation of the sample example leaves out a field of the state. -/
theorem openedExample_pruned :
    Value.Pruned (.record openedExample.expected) (.record (sizedLocker 1)) := by
  have size : Value.Pruned (.record [("w", .int 2)]) (.record [("w", .int 2), ("h", .int 3)]) :=
    .record (by decide) (by simp +contextual [Value.Pruned.same])
  have locker : Value.Pruned (.record [("opened", .int 1), ("size", .record [("w", .int 2)])])
      (.record [("opened", .int 1), ("size", .record [("w", .int 2), ("h", .int 3)])]) :=
    .record (by decide) (by simp +contextual [or_imp, Value.Pruned.same, size])
  exact .record (by decide) (by simp +contextual [openedExample, sizedLocker, locker])

theorem sizedLocker_determinate (opened : Int) :
    (Value.record (sizedLocker opened)).Determinate := by
  simp [sizedLocker]

/-- The sample example passes on the state its run comes to. -/
theorem opened_locker_passes :
    (Value.record openedExample.input).Keyed ∧
    ∃ result, ((⟨.default, 1⟩ : Engine).run lockerProgram (.record openedExample.input)
        { ExecutionOptions.once with enableActions := true }).result = .ok result ∧
      (Value.record result.resultState).Numeric ∧
      Value.Pruned (.record openedExample.expected) (.record result.resultState) ∧
      ∃ verdict, ((⟨.default, 1⟩ : Engine).runExample lockerProgram .once openedExample).result =
        .ok verdict ∧ verdict.passed = true := by
  have returns : returnsWith (fun result => decide (result.resultState = sizedLocker 1))
      ((⟨.default, 1⟩ : Engine).run lockerProgram (.record openedExample.input)
        { ExecutionOptions.once with enableActions := true }).result = true := by
    decide +kernel
  obtain ⟨result, returned, shown⟩ := eq_ok_of_returnsWith returns
  have state := of_decide_eq_true shown
  have keyed := (sizedLocker_determinate 0).keyed
  have numeric : (Value.record result.resultState).Numeric :=
    state ▸ (sizedLocker_determinate 1).numeric
  have pruned := state ▸ openedExample_pruned
  obtain ⟨verdict, final, tested, taken, passes⟩ :=
    own_state_expected.2.2.2 _ lockerProgram .once openedExample result keyed returned numeric
      pruned
  have last : Store.ofPayload (.record (sizedLocker 1)) = .ok ⟨sizedLocker 1⟩ := by rfl
  rw [state] at taken
  cases last.symm.trans taken
  exact ⟨keyed, result, returned, numeric, pruned, verdict, tested, passes.mpr (by decide +kernel)⟩

end Rulebook
