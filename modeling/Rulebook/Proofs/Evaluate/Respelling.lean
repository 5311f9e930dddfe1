import Rulebook.Proofs.State.Respelt
import Rulebook.Proofs.Value.Display

/-!
Conditions do not see spelling, but for one.

On stores that are alike a condition is evaluated on both or on none, and it comes out the
same unless it looks for a loose fact in a text: every other comparison goes by strict
equality or by the place on the number line (`Condition.evaluate_alike`).
-/

namespace Rulebook

/-! ### Comparisons -/

namespace Value

variable {a b c d : Value}

/-- What holds an item or a part keeps it when it is replaced by an equal value. -/
theorem contains_congr (keyedA : a.Keyed) (keyedB : b.Keyed) (keyedC : c.Keyed)
    (alike : Alike a b) : a.contains c = b.contains c := by
  rcases alike.list_or with ⟨xs, ys, rfl, rfl⟩ | ⟨noListA, noListB⟩
  · exact Alike.hasItem_congr keyedA keyedB keyedC keyedC alike (.refl c)
  · cases a with
    | text s => rw [alike.eq_of_unplaced rfl rfl]
    | list xs => exact absurd rfl (noListA xs)
    | _ =>
        cases b with
        | text s => cases (alike.symm keyedA keyedB).eq_of_unplaced rfl rfl
        | list ys => exact absurd rfl (noListB ys)
        | _ => rfl

/-- Membership is decided up to spelling on both sides. -/
theorem isItemOf_congr (keyedA : a.Keyed) (keyedB : b.Keyed) (keyedC : c.Keyed) (keyedD : d.Keyed)
    (left : Alike a b) (right : Alike c d) : a.isItemOf c = b.isItemOf d := by
  rcases right.list_or with ⟨xs, ys, rfl, rfl⟩ | ⟨noListC, noListD⟩
  · exact Alike.hasItem_congr keyedC keyedD keyedA keyedB right left
  · cases c with
    | list xs => exact absurd rfl (noListC xs)
    | _ =>
        cases d with
        | list ys => exact absurd rfl (noListD ys)
        | _ => rfl

end Value

/-- An operator relates alike values alike, if it is not to look for one of two spellings. -/
theorem Operator.holds_congr {a b c d : Value} (operator : Operator) (keyedA : a.Keyed)
    (keyedB : b.Keyed) (keyedC : c.Keyed) (keyedD : d.Keyed) (left : a.Alike b) (right : c.Alike d)
    (spelt : operator = .contains → c = d) : operator.holds a c = operator.holds b d := by
  have equal := Value.Alike.strictEq_congr keyedA keyedB keyedC keyedD left right
  cases operator with
  | equals => exact equal
  | notEquals => exact congrArg (!·) equal
  | greater => exact right.less_congr left
  | greaterOrEqual => rw [holds, right.less_congr left, left.sameNumber_congr right]; rfl
  | less => exact left.less_congr right
  | lessOrEqual => rw [holds, left.less_congr right, left.sameNumber_congr right]; rfl
  | contains =>
      obtain rfl := spelt rfl
      exact Value.contains_congr keyedA keyedB keyedC left
  | memberOf => exact Value.isItemOf_congr keyedA keyedB keyedC keyedD left right

/-! ### Operands -/

/-- The operand is a loose fact. -/
def Operand.IsLoose (loose : String → String → Prop) (operand : Operand) : Prop :=
  ∃ ref, operand = .fact ref ∧ Store.LoosePath loose ref.path

namespace Operand

variable {loose : String → String → Prop} {s t : Store}

/-- An operand has the same value in both stores, or strictly equal ones where it is loose. -/
theorem resolve_alike (alike : s.AlikeBut loose t) (operand : Operand) :
    Option.Rel (fun v w => v = w ∨ operand.IsLoose loose ∧ v.strictEq w = true)
      (operand.resolve s) (operand.resolve t) := by
  cases operand with
  | literal value units => exact .some (.inl rfl)
  | fact ref =>
      have found := alike.read ref.path
      simp only [resolve]
      revert found
      generalize s.read ref.path = x
      generalize t.read ref.path = y
      rintro (⟨same | ⟨free, equal⟩⟩ | _)
      · exact .some (.inl same)
      · exact .some (.inr ⟨⟨ref, rfl, free⟩, equal⟩)
      · exact .none

/-- Both values are there and alike, or none is. -/
theorem resolve_cases (alike : s.AlikeBut loose t) (keyedS : s.Keyed) (keyedT : t.Keyed)
    (operand : Operand) :
    (operand.resolve s = none ∧ operand.resolve t = none) ∨
      ∃ v w, operand.resolve s = some v ∧ operand.resolve t = some w ∧ v.Keyed ∧ w.Keyed ∧
        v.Alike w ∧ (operand.IsLoose loose ∨ v = w) := by
  have related := operand.resolve_alike alike
  cases inS : operand.resolve s with
  | none =>
      cases inT : operand.resolve t with
      | none => exact .inl ⟨rfl, rfl⟩
      | some w => rw [inS, inT] at related; cases related
  | some v =>
      cases inT : operand.resolve t with
      | none => rw [inS, inT] at related; cases related
      | some w =>
          rw [inS, inT] at related
          cases related with
          | some related =>
              refine .inr ⟨v, w, rfl, rfl, keyed_resolve keyedS inS, keyed_resolve keyedT inT, ?_⟩
              -- Either it is one value, or the path is loose and the value is respelt.
              rcases related with rfl | ⟨free, equal⟩
              · exact ⟨.refl v, .inr rfl⟩
              · exact ⟨.inr equal, .inl free⟩

end Operand

/-! ### Conditions -/

/-- The condition looks for the fact at this path in a text or among items. -/
inductive Condition.Seeks (path : String) : Condition → Prop where
  | contains {lhs : Operand} {units : Option String} :
      Seeks path (.compare lhs .contains (.fact ⟨path, units⟩))
  | all {conditions : List Condition} {condition : Condition} :
      condition ∈ conditions → Seeks path condition → Seeks path (.all conditions)
  | any {conditions : List Condition} {condition : Condition} :
      condition ∈ conditions → Seeks path condition → Seeks path (.any conditions)
  | not {condition : Condition} : Seeks path condition → Seeks path (.not condition)

namespace Condition

/-- The condition looks for no loose fact. -/
def Unseeking (loose : String → String → Prop) (condition : Condition) : Prop :=
  ∀ path, Store.LoosePath loose path → ¬ condition.Seeks path

/-- What is no text matches no pattern. -/
theorem matchingTrace_other {s : Store} {value : Operand} (pattern : String) (ignoreCase : Bool)
    (other : ∀ text, value.resolve s ≠ some (.text text)) :
    ∃ details, matchingTrace s value pattern ignoreCase =
      .ok (.node "matches" false none details []) := by
  unfold matchingTrace
  cases resolved : value.resolve s with
  | none => exact ⟨_, rfl⟩
  | some v =>
      cases v with
      | text text => exact absurd resolved (other text)
      | _ => exact ⟨_, rfl⟩

section Single

variable {loose : String → String → Prop} {s t : Store} (alike : s.AlikeBut loose t)
  (keyedS : s.Keyed) (keyedT : t.Keyed)

include alike keyedS keyedT

/-- A comparison that seeks none of the loose paths has the same result on both states. -/
theorem compareTrace_alike {lhs rhs : Operand} {operator : Operator}
    (unseeking : (compare lhs operator rhs).Unseeking loose) :
    (compareTrace s lhs operator rhs).result = (compareTrace t lhs operator rhs).result := by
  simp only [compareTrace, ConditionTrace.result]
  rcases lhs.resolve_cases alike keyedS keyedT with
    ⟨inS, inT⟩ | ⟨a, b, inS, inT, keyedA, keyedB, left, _⟩
  · rw [inS, inT]
  · rcases rhs.resolve_cases alike keyedS keyedT with
      ⟨inS', inT'⟩ | ⟨c, d, inS', inT', keyedC, keyedD, right, same⟩
    · rw [inS, inT, inS', inT']
    · rw [inS, inT, inS', inT']
      refine operator.holds_congr keyedA keyedB keyedC keyedD left right ?_
      rintro rfl
      rcases same with ⟨ref, rfl, free⟩ | same
      · exact absurd .contains (unseeking ref.path free)
      · exact same

theorem presentTrace_alike (fact : FactRef) :
    (presentTrace s fact).result = (presentTrace t fact).result := by
  simp only [presentTrace, ConditionTrace.result]
  rcases (Operand.fact fact).resolve_cases alike keyedS keyedT with
    ⟨inS, inT⟩ | ⟨v, w, inS, inT, keyedV, keyedW, both, _⟩
  · rw [show s.read fact.path = none from inS, show t.read fact.path = none from inT]
  · rw [show s.read fact.path = some v from inS, show t.read fact.path = some w from inT]
    have forward : v = .null → w = .null := by
      rintro rfl
      exact both.eq_of_unplaced rfl rfl
    have backward : w = .null → v = .null := by
      rintro rfl
      exact (both.symm keyedV keyedW).eq_of_unplaced rfl rfl
    have null : (v == .null) = (w == .null) := by
      rw [Bool.eq_iff_iff, beq_iff_eq, beq_iff_eq]
      exact ⟨forward, backward⟩
    simp only [shown, Option.getD_some, bne, null]

/-- Membership tests compare strictly, which no spelling changes. -/
theorem oneOfTrace_alike (value : Operand) (options : List Operand) :
    (oneOfTrace s value options).result = (oneOfTrace t value options).result := by
  simp only [oneOfTrace, ConditionTrace.result, List.any_map]
  rcases value.resolve_cases alike keyedS keyedT with
    ⟨inS, inT⟩ | ⟨a, b, inS, inT, keyedA, keyedB, left, _⟩
  · rw [inS, inT]
    rfl
  · rw [inS, inT]
    simp only [Option.any_some]
    congr 1
    funext option
    simp only [Function.comp_apply]
    rcases option.resolve_cases alike keyedS keyedT with
      ⟨inS', inT'⟩ | ⟨c, d, inS', inT', keyedC, keyedD, right, _⟩
    · rw [inS', inT']
      rfl
    · rw [inS', inT']
      exact Value.Alike.strictEq_congr keyedA keyedB keyedC keyedD left right

/-- What a pattern is matched against is the same in both stores. -/
theorem text_alike (value : Operand) (text : String) :
    value.resolve s = some (.text text) ↔ value.resolve t = some (.text text) := by
  rcases value.resolve_cases alike keyedS keyedT with
    ⟨inS, inT⟩ | ⟨v, w, inS, inT, keyedV, keyedW, both, _⟩
  · rw [inS, inT]
  · rw [inS, inT, Option.some.injEq, Option.some.injEq]
    constructor
    · rintro rfl
      exact both.eq_of_unplaced rfl rfl
    · rintro rfl
      exact (both.symm keyedV keyedW).eq_of_unplaced rfl rfl

/-- Whether a comparison needs a text that is not there is the same in both stores. -/
theorem lacksText_alike (lhs : Operand) (operator : Operator) (rhs : Operand) :
    operator.lacksText (lhs.resolve s) (rhs.resolve s) =
      operator.lacksText (lhs.resolve t) (rhs.resolve t) := by
  refine operator.lacksText_congr (text_alike alike keyedS keyedT lhs) ?_
  rcases rhs.resolve_cases alike keyedS keyedT with
    ⟨inS, inT⟩ | ⟨v, w, inS, inT, keyedV, keyedW, both, _⟩
  · rw [inS, inT]
  · rw [inS, inT]
    exact both.hasText_eq keyedV keyedW

/-- Patterns read texts, and a text has one spelling. -/
theorem matchingTrace_alike {value : Operand} {pattern : String} {ignoreCase : Bool}
    {why : ConditionTrace} (evaluated : matchingTrace s value pattern ignoreCase = .ok why) :
    ∃ why', matchingTrace t value pattern ignoreCase = .ok why' ∧ why'.result = why.result := by
  by_cases notText : ∃ text, value.resolve s = some (.text text)
  · obtain ⟨text, inS⟩ := notText
    have inT := (text_alike alike keyedS keyedT value text).mp inS
    simp only [matchingTrace, inS, inT, bind] at evaluated ⊢
    cases matched : matchesPattern pattern ignoreCase text with
    | error e => simp [matched, Except.bind, Except.mapError] at evaluated
    | ok result =>
        rw [matched] at evaluated
        cases evaluated
        exact ⟨_, rfl, rfl⟩
  · obtain ⟨details, inS⟩ := matchingTrace_other pattern ignoreCase
      fun text inS => notText ⟨text, inS⟩
    obtain ⟨details', inT⟩ := matchingTrace_other pattern ignoreCase
      fun text inT => notText ⟨text, (text_alike alike keyedS keyedT value text).mpr inT⟩
    cases inS.symm.trans evaluated
    exact ⟨_, inT, rfl⟩

end Single

section Combined

variable {store : Store} {conditions : List Condition} {why : ConditionTrace}

theorem evaluate_all_eq_ok_iff : (all conditions).evaluate store = .ok why ↔
    ∃ children, evaluateEach store conditions = .ok children ∧
      .node "all" (children.all (·.result)) none [] children = why := by
  cases each : evaluateEach store conditions <;>
    simp [evaluate, each, bind, Except.bind, pure, Except.pure]

theorem evaluate_any_eq_ok_iff : (any conditions).evaluate store = .ok why ↔
    ∃ children, evaluateEach store conditions = .ok children ∧
      .node "any" (children.any (·.result)) none [] children = why := by
  cases each : evaluateEach store conditions <;>
    simp [evaluate, each, bind, Except.bind, pure, Except.pure]

theorem evaluate_not_eq_ok_iff {condition : Condition} :
    (not condition).evaluate store = .ok why ↔
      ∃ child, condition.evaluate store = .ok child ∧
        .node "not" (!child.result) none [] [child] = why := by
  cases inner : condition.evaluate store <;>
    simp [evaluate, inner, bind, Except.bind, pure, Except.pure]

theorem evaluateEach_cons_eq_ok_iff {condition : Condition} {whys : List ConditionTrace} :
    evaluateEach store (condition :: conditions) = .ok whys ↔
      ∃ why traces, condition.evaluate store = .ok why ∧
        evaluateEach store conditions = .ok traces ∧ why :: traces = whys := by
  cases first : condition.evaluate store <;> cases later : evaluateEach store conditions <;>
    simp [evaluateEach, first, later, bind, Except.bind, pure, Except.pure]

end Combined

section Trees

variable {loose : String → String → Prop}

theorem Unseeking.of_all {conditions : List Condition}
    (unseeking : (all conditions).Unseeking loose) :
    ∀ condition ∈ conditions, condition.Unseeking loose :=
  fun _ member path free seeks => unseeking path free (.all member seeks)

theorem Unseeking.of_any {conditions : List Condition}
    (unseeking : (any conditions).Unseeking loose) :
    ∀ condition ∈ conditions, condition.Unseeking loose :=
  fun _ member path free seeks => unseeking path free (.any member seeks)

theorem Unseeking.of_not {condition : Condition} (unseeking : (not condition).Unseeking loose) :
    condition.Unseeking loose :=
  fun path free seeks => unseeking path free (.not seeks)

variable {s t : Store}

mutual

/-- A condition that is evaluated on a store is evaluated on one that is alike, and comes
out the same if it looks for no loose fact. -/
theorem evaluate_alike (alike : s.AlikeBut loose t) (keyedS : s.Keyed) (keyedT : t.Keyed) :
    ∀ (condition : Condition) {why : ConditionTrace},
    condition.evaluate s = .ok why → ∃ why', condition.evaluate t = .ok why' ∧
      (condition.Unseeking loose → why'.result = why.result)
  | .compare lhs operator rhs, _, evaluated => by
      obtain ⟨written, rfl⟩ := evaluate_compare_eq_ok_iff.mp evaluated
      rw [lacksText_alike alike keyedS keyedT] at written
      exact ⟨_, evaluate_compare_eq_ok_iff.mpr ⟨written, rfl⟩,
        fun unseeking => (compareTrace_alike alike keyedS keyedT unseeking).symm⟩
  | .present fact, _, rfl => ⟨_, rfl, fun _ => (presentTrace_alike alike keyedS keyedT fact).symm⟩
  | .oneOf value options, _, rfl =>
      ⟨_, rfl, fun _ => (oneOfTrace_alike alike keyedS keyedT value options).symm⟩
  | .matching .., _, evaluated => by
      obtain ⟨why', inT, same⟩ := matchingTrace_alike alike keyedS keyedT evaluated
      exact ⟨why', inT, fun _ => same⟩
  | .all conditions, why, evaluated => by
      obtain ⟨children, each, rfl⟩ := evaluate_all_eq_ok_iff.mp evaluated
      obtain ⟨children', inT, same⟩ := evaluateEach_alike alike keyedS keyedT conditions each
      refine ⟨_, evaluate_all_eq_ok_iff.mpr ⟨children', inT, rfl⟩, fun unseeking => ?_⟩
      show children'.all (·.result) = children.all (·.result)
      simpa [List.all_map] using congrArg (·.all id) (same unseeking.of_all)
  | .any conditions, why, evaluated => by
      obtain ⟨children, each, rfl⟩ := evaluate_any_eq_ok_iff.mp evaluated
      obtain ⟨children', inT, same⟩ := evaluateEach_alike alike keyedS keyedT conditions each
      refine ⟨_, evaluate_any_eq_ok_iff.mpr ⟨children', inT, rfl⟩, fun unseeking => ?_⟩
      show children'.any (·.result) = children.any (·.result)
      simpa [List.any_map] using congrArg (·.any id) (same unseeking.of_any)
  | .not condition, why, evaluated => by
      obtain ⟨child, inner, rfl⟩ := evaluate_not_eq_ok_iff.mp evaluated
      obtain ⟨child', inT, same⟩ := evaluate_alike alike keyedS keyedT condition inner
      refine ⟨_, evaluate_not_eq_ok_iff.mpr ⟨child', inT, rfl⟩, fun unseeking => ?_⟩
      exact congrArg (!·) (same unseeking.of_not)

theorem evaluateEach_alike (alike : s.AlikeBut loose t) (keyedS : s.Keyed) (keyedT : t.Keyed) :
    ∀ (conditions : List Condition) {whys : List ConditionTrace},
    evaluateEach s conditions = .ok whys → ∃ whys', evaluateEach t conditions = .ok whys' ∧
      ((∀ condition ∈ conditions, condition.Unseeking loose) →
        whys'.map (·.result) = whys.map (·.result))
  | [], _, rfl => ⟨[], rfl, fun _ => rfl⟩
  | condition :: rest, whys, evaluated => by
      obtain ⟨why, traces, first, later, rfl⟩ := evaluateEach_cons_eq_ok_iff.mp evaluated
      obtain ⟨why', firstT, same⟩ := evaluate_alike alike keyedS keyedT condition first
      obtain ⟨traces', laterT, sameRest⟩ := evaluateEach_alike alike keyedS keyedT rest later
      refine ⟨_, evaluateEach_cons_eq_ok_iff.mpr ⟨why', traces', firstT, laterT, rfl⟩,
        fun unseeking => ?_⟩
      obtain ⟨here, there⟩ := List.forall_mem_cons.mp unseeking
      rw [List.map_cons, List.map_cons, same here, sameRest there]

end

end Trees

end Condition

end Rulebook
