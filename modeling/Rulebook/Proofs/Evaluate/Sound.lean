import Rulebook.Proofs.Evaluate.Respelling
import Rulebook.Proofs.Run.Interruption
import Rulebook.Proofs.State.Typed
import Rulebook.Proofs.Validate.Operands

/-!
Accepted conditions do not go wrong.

A check sees declared types only, an evaluation sees values only. They meet on complete
facts, where every declared field holds a value of its type: there, a condition without
objections is evaluated as its types promise. `Condition.Sound` says so node by node, and
`accepted_conditions_sound` that the trace of every condition of a valid program is sound.
What types cannot exclude is a pattern that is refused and an integer that is too long to be
looked for in a text, and that there is a trace at all depends on nothing else.
-/

namespace Rulebook

/-! ### Sound traces -/

inductive ConditionTrace.Within (node : ConditionTrace) : ConditionTrace → Prop where
  | here : Within node node
  | under {child trace} : child ∈ trace.children → Within node child → Within node trace

namespace Condition

/-- The trace of a condition all of whose operands have values, of which those that are
ordered are numbers and those that are matched against patterns are texts. -/
inductive Sound (store : Store) : Condition → ConditionTrace → Prop where
  | compare {lhs operator rhs x y} :
      lhs.resolve store = some x → rhs.resolve store = some y →
      (operator.isOrdering = true → x.isNumber = true ∧ y.isNumber = true) →
      Sound store (.compare lhs operator rhs)
        (.node "compare" (operator.holds x y) (some operator) [("lhs", x), ("rhs", y)] [])
  | present {fact v} :
      store.read fact.path = some v → v ≠ .null →
      Sound store (.present fact)
        (.node "exists" true none [("path", .text fact.path), ("value", v)] [])
  | oneOf {value options x found} :
      value.resolve store = some x →
      List.Forall₂ (fun option y => option.resolve store = some y) options found →
      Sound store (.oneOf value options)
        (.node "in" (found.any x.strictEq) none [("value", x), ("options", .list found)] [])
  | matching {value pattern ignoreCase text result} :
      value.resolve store = some (.text text) →
      matchesPattern pattern ignoreCase text = .ok result →
      Sound store (.matching value pattern ignoreCase)
        (.node "matches" result none
          [("value", .text text), ("pattern", .text pattern), ("caseInsensitive", .bool ignoreCase)]
          [])
  | all {conditions children} :
      List.Forall₂ (Sound store) conditions children →
      Sound store (.all conditions) (.node "all" (children.all (·.result)) none [] children)
  | any {conditions children} :
      List.Forall₂ (Sound store) conditions children →
      Sound store (.any conditions) (.node "any" (children.any (·.result)) none [] children)
  | not {condition child} :
      Sound store condition child →
      Sound store (.not condition) (.node "not" (!child.result) none [] [child])

section Traces

variable {store : Store} {condition : Condition} {trace node : ConditionTrace}

/-- The children of a sound trace are the sound traces of conditions. -/
theorem Sound.child (sound : condition.Sound store trace) {child : ConditionTrace}
    (member : child ∈ trace.children) : ∃ part : Condition, part.Sound store child := by
  have among : ∀ {conditions : List Condition} {children : List ConditionTrace},
      List.Forall₂ (Sound store) conditions children → child ∈ children →
        ∃ part : Condition, part.Sound store child := by
    intro conditions children each
    induction each with
    | nil => simp
    | cons first _ ih =>
        intro member
        rcases List.mem_cons.mp member with rfl | later
        · exact ⟨_, first⟩
        · exact ih later
  cases sound with
  | all each => exact among each member
  | any each => exact among each member
  | not inner =>
      rw [List.mem_singleton.mp member]
      exact ⟨_, inner⟩
  | _ => cases member

/-- Every node of a sound trace is sound for some part of the condition. -/
theorem Sound.within (sound : condition.Sound store trace) (within : node.Within trace) :
    ∃ part : Condition, part.Sound store node := by
  induction within generalizing condition with
  | here => exact ⟨condition, sound⟩
  | under member _ ih =>
      obtain ⟨part, inner⟩ := sound.child member
      exact ih inner

/-- A sound trace lists no absent fact. -/
theorem Sound.nothing_missing (sound : condition.Sound store trace) :
    Fields.get? "missing" trace.details = none := by
  cases sound <;> simp [ConditionTrace.details, Fields.get?]

end Traces

end Condition

/-! ### Soundness -/

namespace Condition

section Single

variable {catalog : Catalog} {store : Store} (complete : store.Complete catalog)

include complete

/-- Checked comparisons meet the types their operator asks for. -/
theorem sound_compare {lhs rhs : Operand} {operator : Operator} {found : Option Issue}
    (checked : catalog.checkCompare lhs operator rhs = .ok found) :
    (compare lhs operator rhs).Sound store (compareTrace store lhs operator rhs) := by
  obtain ⟨left, right, leftTyped, rightTyped, ordered⟩ := Catalog.checkCompare_types checked
  obtain ⟨x, inLeft, admitsX⟩ := complete.resolve leftTyped
  obtain ⟨y, inRight, admitsY⟩ := complete.resolve rightTyped
  have same : compareTrace store lhs operator rhs = .node "compare" (operator.holds x y)
      (some operator) [("lhs", x), ("rhs", y)] [] := by
    simp [compareTrace, inLeft, inRight, shown, absentPaths, Operand.absentPath?, missingEntry]
  rw [same]
  refine .compare inLeft inRight fun ordering => ?_
  obtain ⟨rfl, rfl⟩ := ordered ordering
  exact ⟨admitsX, admitsY⟩

/-- A checked test of presence has nothing to be wrong about. -/
theorem sound_present {fact : FactRef} {found : Option Issue}
    (checked : catalog.checkDeclared fact.path = .ok found) :
    (present fact).Sound store (presentTrace store fact) := by
  obtain ⟨decl, declared⟩ := Catalog.checkDeclared_resolves checked
  obtain ⟨v, inStore, admits⟩ := complete _ decl declared
  have some : v ≠ .null := by
    rintro rfl
    rw [ScalarType.not_admits_null] at admits
    cases admits
  have same : presentTrace store fact =
      .node "exists" true none [("path", .text fact.path), ("value", v)] [] := by
    simp [presentTrace, inStore, shown, some]
  rw [same]
  exact .present inStore some

/-- Each option of a checked membership test is typed on its own. -/
theorem sound_oneOf {value : Operand} {options : List Operand}
    (checked : ∀ operand ∈ value :: options, ∃ expected type,
      catalog.checkOperand operand expected = .ok type) :
    (oneOf value options).Sound store (oneOfTrace store value options) := by
  have every : ∀ operand ∈ value :: options,
      operand.resolve store = some (shown (operand.resolve store)) := by
    intro operand member
    obtain ⟨_, _, typed⟩ := checked operand member
    obtain ⟨y, resolved, _⟩ := complete.resolve typed
    rw [resolved]
    rfl
  obtain ⟨resolved, each⟩ := List.forall_mem_cons.mp every
  generalize shown (value.resolve store) = x at resolved
  have values : options.map (·.resolve store) =
      (options.map fun option => shown (option.resolve store)).map some := by
    rw [List.map_map]
    exact List.map_congr_left each
  -- All operands are there, so none is listed as missing.
  have present : absentPaths store (value :: options) = [] := by
    refine List.filterMap_eq_nil_iff.mpr fun operand member => ?_
    rw [Operand.absentPath?, every operand member]
    rfl
  have same : oneOfTrace store value options = .node "in"
      ((options.map fun option => shown (option.resolve store)).any x.strictEq) none
      [("value", x), ("options", .list (options.map fun option => shown (option.resolve store)))]
      [] := by
    simp only [oneOfTrace, resolved, values, present]
    simp [missingEntry, shown, Function.comp_def]
  rw [same]
  refine .oneOf resolved (List.forall₂_map_right_iff.mpr (List.forall₂_same.mpr each))

/-- The value a checked pattern is run on is a text where it is there. -/
theorem sound_matching {value : Operand} {pattern : String} {ignoreCase : Bool}
    {found : Option Issue} {trace : ConditionTrace}
    (checked : catalog.checkText value = .ok found)
    (evaluated : matchingTrace store value pattern ignoreCase = .ok trace) :
    (matching value pattern ignoreCase).Sound store trace := by
  obtain ⟨v, resolved, admits⟩ := complete.resolve (Catalog.checkText_types checked)
  obtain ⟨text, rfl⟩ := ScalarType.admits_string_iff.mp admits
  simp only [matchingTrace, resolved] at evaluated
  obtain ⟨result, matched, returned⟩ := Except.bind_eq_ok_iff.mp evaluated
  cases returned
  exact .matching resolved (Except.mapError_eq_ok_iff.mp matched)

end Single

section Trees

variable {catalog : Catalog} {store : Store} {ruleIds : List String}

mutual

/-- A condition without objections has a sound trace on complete facts, if it has one. -/
theorem sound_of_passed (complete : store.Complete catalog) :
    ∀ (condition : Condition) {trace : ConditionTrace}, ¬ condition.Vacant →
      Passed (condition.issues catalog ruleIds) → condition.evaluate store = .ok trace →
      condition.Sound store trace
  | .compare .., _, _, sound, evaluated => by
      obtain ⟨found, checked⟩ := ok_of_passed sound
      obtain ⟨_, rfl⟩ := evaluate_compare_eq_ok_iff.mp evaluated
      exact sound_compare complete checked
  | .present _, _, _, sound, rfl => by
      obtain ⟨found, checked⟩ := ok_of_passed sound
      exact sound_present complete checked
  | .oneOf _ _, _, filled, sound, rfl =>
      sound_oneOf complete fun _ => checkOperand_of_passed filled sound
  | .matching .., _, _, sound, evaluated => by
      obtain ⟨found, checked⟩ := ok_of_passed sound
      exact sound_matching complete checked evaluated
  | .all conditions, _, filled, sound, evaluated => by
      obtain ⟨children, each, rfl⟩ := evaluate_all_eq_ok_iff.mp evaluated
      exact .all (soundEach_of_passed complete conditions (not_vacant_of_all filled)
        (passed_gather_iff.mp sound) each)
  | .any conditions, _, filled, sound, evaluated => by
      obtain ⟨children, each, rfl⟩ := evaluate_any_eq_ok_iff.mp evaluated
      exact .any (soundEach_of_passed complete conditions (not_vacant_of_any filled)
        (passed_gather_iff.mp sound) each)
  | .not condition, _, filled, sound, evaluated => by
      obtain ⟨child, inner, rfl⟩ := evaluate_not_eq_ok_iff.mp evaluated
      exact .not (sound_of_passed complete condition (not_vacant_of_not filled) sound inner)

theorem soundEach_of_passed (complete : store.Complete catalog) :
    ∀ (conditions : List Condition) {traces : List ConditionTrace}, (∀ c ∈ conditions, ¬ c.Vacant) →
      (∀ outcome ∈ issuesOfEach catalog ruleIds conditions, Passed outcome) →
      evaluateEach store conditions = .ok traces → List.Forall₂ (Sound store) conditions traces
  | [], _, _, _, rfl => .nil
  | condition :: rest, _, filled, sound, evaluated => by
      obtain ⟨trace, traces, first, later, rfl⟩ := evaluateEach_cons_eq_ok_iff.mp evaluated
      obtain ⟨here, there⟩ := List.forall_mem_cons.mp filled
      obtain ⟨head, tail⟩ := List.forall_mem_cons.mp sound
      exact .cons (sound_of_passed complete condition here head first)
        (soundEach_of_passed complete rest there tail later)

end

end Trees

end Condition

/-! ### Valid programs -/

/-- Each condition of a valid program, evaluated on facts that hold a value of its type in every
declared field, has a trace unless it trips over a pattern or a text, and the trace is sound:
nothing is missing in it, what is ordered are numbers, and what is matched against patterns are
texts. -/
theorem accepted_conditions_sound (checker : Engine) (document : Value) (program : Program)
    (validation : Validation) (store : Store) (condition : Condition)
    (accepted : Program.read document = .accepted program)
    (validated : (checker.validate program).result = .ok validation)
    (valid : validation.valid = true) (complete : store.Complete (.ofProgram program))
    (member : condition ∈ program.conditions) :
    ((∃ trace, condition.evaluate store = .ok trace) ↔ ¬ condition.Trips store) ∧
      ∀ trace, condition.evaluate store = .ok trace → condition.Sound store trace ∧
        ∀ node : ConditionTrace, node.Within trace → Fields.get? "missing" node.details = none := by
  constructor
  · rw [returns_iff, Condition.evaluate_fails_iff]
  · intro trace evaluated
    have filled := Program.not_vacant_of_read document program accepted condition member
    obtain ⟨ruleIds, passed⟩ :=
      passed_of_mem_conditions (Engine.passed_of_valid validated valid) member
    have sound := Condition.sound_of_passed complete condition filled passed evaluated
    refine ⟨sound, fun node within => ?_⟩
    obtain ⟨part, inner⟩ := sound.within within
    exact inner.nothing_missing

/-- A document whose only rule looks at a label in three ways, one of them a pattern. -/
def labelDocument (pattern : String) : Value :=
  let label : Value := .record [("kind", .text "fact"), ("path", .text "meter.label")]
  .record
    [("entities", .list [.record [("name", .text "meter"), ("fields", .list
        [.record [("name", .text "label"), ("type", .text "string")]])]]),
     ("rules", .list [.record [("id", .text "look"), ("name", .text "look"), ("when",
        .record [("kind", .text "all"), ("conditions", .list
          [.record [("kind", .text "exists"), ("fact", label)],
           .record [("kind", .text "in"), ("value", label), ("options", .list [label])],
           .record [("kind", .text "matches"), ("value", label),
             ("pattern", .text pattern)]])])]])]

def labelCondition (pattern : String) : Condition :=
  .all [.present ⟨"meter.label", none⟩,
    .oneOf (.fact ⟨"meter.label", none⟩) [.fact ⟨"meter.label", none⟩],
    .matching (.fact ⟨"meter.label", none⟩) pattern false]

def labelProgram (pattern : String) : Program :=
  .plain "meter" [("label", .string)] [.plain "look" 0 (labelCondition pattern) [] []]

theorem labelDocument_read (pattern : String) :
    Program.read (labelDocument pattern) = .accepted (labelProgram pattern) := rfl

def labelStore : Store := ⟨[("meter", .object [(.text "label", .text "a")])]⟩

/-- The store of the example has a value for all that is declared. -/
theorem labelStore_complete (pattern : String) :
    labelStore.Complete (.ofProgram (labelProgram pattern)) := by
  intro path decl resolved
  obtain ⟨field, split, declared⟩ := Program.plain_resolve resolved
  simp only [List.mem_singleton, Prod.mk.injEq] at declared
  obtain ⟨rfl, type⟩ := declared
  rw [Store.read_of_split split, type]
  exact ⟨.text "a", rfl, rfl⟩

/-- No check looks into a pattern. -/
theorem labelProgram_valid {pattern : String}
    (either : pattern = "a+" ∨ pattern = "a{4294967295}") :
    ∃ validation, ((⟨.default, 1⟩ : Engine).validate (labelProgram pattern)).result =
      .ok validation ∧ validation.valid = true := by
  have validates : returnsWith (·.valid)
      ((⟨.default, 1⟩ : Engine).validate (labelProgram pattern)).result = true := by
    rcases either with rfl | rfl <;> decide +kernel
  exact eq_ok_of_returnsWith validates

/-- The label is evaluated, and its trace is sound. -/
theorem label_condition_sound :
    ∃ validation trace, ((⟨.default, 1⟩ : Engine).validate (labelProgram "a+")).result =
        .ok validation ∧ validation.valid = true ∧
      (labelCondition "a+").evaluate labelStore = .ok trace ∧
      (labelCondition "a+").Sound labelStore trace ∧
      ∀ node : ConditionTrace, node.Within trace → Fields.get? "missing" node.details = none := by
  obtain ⟨validation, validated, valid⟩ := labelProgram_valid (.inl rfl)
  have evaluates : returnsWith (·.result) ((labelCondition "a+").evaluate labelStore) = true := by
    decide +kernel
  obtain ⟨trace, evaluated, _⟩ := eq_ok_of_returnsWith evaluates
  exact ⟨validation, trace, validated, valid, evaluated,
    (accepted_conditions_sound ⟨.default, 1⟩ (labelDocument "a+") (labelProgram "a+") validation
      labelStore (labelCondition "a+") (labelDocument_read _) validated valid
      (labelStore_complete _) (List.mem_cons_self ..)).2 trace evaluated⟩

/-- The pattern of this valid program has a repetition that is too large, which no check sees:
on complete facts its condition has no trace. -/
theorem label_repetition_has_no_trace :
    ∃ validation, Program.read (labelDocument "a{4294967295}") =
        .accepted (labelProgram "a{4294967295}") ∧
      ((⟨.default, 1⟩ : Engine).validate (labelProgram "a{4294967295}")).result =
        .ok validation ∧ validation.valid = true ∧
      labelStore.Complete (.ofProgram (labelProgram "a{4294967295}")) ∧
      labelCondition "a{4294967295}" ∈ (labelProgram "a{4294967295}").conditions ∧
      ¬ ∃ trace, (labelCondition "a{4294967295}").evaluate labelStore = .ok trace := by
  obtain ⟨validation, validated, valid⟩ := labelProgram_valid (.inr rfl)
  have fails : ((labelCondition "a{4294967295}").evaluate labelStore).isOk = false := by
    decide +kernel
  refine ⟨validation, labelDocument_read _, validated, valid, labelStore_complete _,
    List.mem_cons_self .., ?_⟩
  rintro ⟨trace, evaluated⟩
  rw [evaluated] at fails
  cases fails

end Rulebook
