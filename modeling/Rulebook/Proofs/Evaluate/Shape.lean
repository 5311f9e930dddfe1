import Mathlib.Data.List.Forall2
import Rulebook.Proofs.Evaluate.Footprint
import Rulebook.Proofs.Evaluate.Respelling
import Rulebook.Proofs.Run.Interruption

/-!
The shape of a trace.

A trace has a node for each part of its condition, in order and whatever the results are, and each
node is the trace of the part at its place. So what relates a condition to its trace relates them
throughout (`Condition.throughout_of_evaluate`). `ConditionTrace.Mirrors` is what a node has of its
part, and `condition_sees_own_facts` says that the trace of a condition has it throughout, and
depends on nothing but the facts that the condition names.
-/

namespace Rulebook

namespace Condition

/-! ### Parts and nodes -/

def parts : Condition → List Condition
  | .all conditions | .any conditions => conditions
  | .not condition => [condition]
  | .compare .. | .present _ | .oneOf .. | .matching .. => []

/-- The trace has one node for each part of the condition, at any depth and in order, and the part
and the node at one place are related. -/
inductive Throughout (related : Condition → ConditionTrace → Prop) :
    Condition → ConditionTrace → Prop where
  | node {condition : Condition} {trace : ConditionTrace} :
      related condition trace →
      List.Forall₂ (Throughout related) condition.parts trace.children →
      Throughout related condition trace

section Traces

variable {store : Store} {related : Condition → ConditionTrace → Prop}

/-- What the trace of a match shows apart from its result. -/
theorem eq_of_evaluate_matching {value : Operand} {pattern : String} {ignoreCase : Bool}
    {trace : ConditionTrace}
    (evaluated : (matching value pattern ignoreCase).evaluate store = .ok trace) :
    trace = .node "matches" trace.result none
      [("value", shown (value.resolve store)), ("pattern", .text pattern),
       ("caseInsensitive", .bool ignoreCase)] [] := by
  rw [evaluate, matchingTrace] at evaluated
  split at evaluated
  all_goals
    obtain ⟨result, _, made⟩ := Except.bind_eq_ok_iff.mp evaluated
    cases made
    rfl

mutual

/-- What relates every condition to its trace does so throughout. -/
theorem throughout_of_evaluate
    (each : ∀ condition trace, condition.evaluate store = .ok trace → related condition trace) :
    ∀ (condition : Condition) {trace : ConditionTrace}, condition.evaluate store = .ok trace →
      condition.Throughout related trace
  | .compare .., _, evaluated => by
      refine .node (each _ _ evaluated) ?_
      obtain ⟨_, rfl⟩ := evaluate_compare_eq_ok_iff.mp evaluated
      exact .nil
  | .present _, _, rfl => .node (each _ _ rfl) .nil
  | .oneOf .., _, rfl => .node (each _ _ rfl) .nil
  | .matching .., trace, evaluated => by
      refine .node (each _ _ evaluated) ?_
      rw [eq_of_evaluate_matching evaluated]
      exact .nil
  | .all conditions, _, evaluated => by
      obtain ⟨children, inner, rfl⟩ := evaluate_all_eq_ok_iff.mp evaluated
      exact .node (each _ _ evaluated) (throughoutEach_of_evaluate each conditions inner)
  | .any conditions, _, evaluated => by
      obtain ⟨children, inner, rfl⟩ := evaluate_any_eq_ok_iff.mp evaluated
      exact .node (each _ _ evaluated) (throughoutEach_of_evaluate each conditions inner)
  | .not condition, _, evaluated => by
      obtain ⟨child, inner, rfl⟩ := evaluate_not_eq_ok_iff.mp evaluated
      exact .node (each _ _ evaluated) (.cons (throughout_of_evaluate each condition inner) .nil)

theorem throughoutEach_of_evaluate
    (each : ∀ condition trace, condition.evaluate store = .ok trace → related condition trace) :
    ∀ (conditions : List Condition) {traces : List ConditionTrace},
      evaluateEach store conditions = .ok traces →
      List.Forall₂ (Throughout related) conditions traces
  | [], _, rfl => .nil
  | condition :: rest, _, evaluated => by
      obtain ⟨trace, traces, first, later, rfl⟩ := evaluateEach_cons_eq_ok_iff.mp evaluated
      exact .cons (throughout_of_evaluate each condition first)
        (throughoutEach_of_evaluate each rest later)

end

end Traces

end Condition

/-! ### What a node has of its part -/

/-- The node has the kind of the part, and where the part combines others, the result of the node
is made of those of its children. -/
structure ConditionTrace.Mirrors (part : Condition) (node : ConditionTrace) : Prop where
  kind : node.kind = part.kind
  all : ∀ conditions, part = .all conditions →
    (node.result = true ↔ ∀ child ∈ node.children, child.result = true)
  any : ∀ conditions, part = .any conditions →
    (node.result = true ↔ ∃ child ∈ node.children, child.result = true)
  not : ∀ condition, part = .not condition →
    ∃ child, node.children = [child] ∧ node.result = !child.result

namespace Condition

variable {store : Store} {condition : Condition} {trace : ConditionTrace}

/-- A trace names the kind of the condition it was made from. -/
theorem kind_of_evaluate (evaluated : condition.evaluate store = .ok trace) :
    trace.kind = condition.kind := by
  cases condition with
  | compare lhs operator rhs => obtain ⟨_, rfl⟩ := evaluate_compare_eq_ok_iff.mp evaluated; rfl
  | present fact => cases evaluated; rfl
  | oneOf value options => cases evaluated; rfl
  | matching value pattern ignoreCase => rw [eq_of_evaluate_matching evaluated]; rfl
  | all conditions => obtain ⟨_, _, rfl⟩ := evaluate_all_eq_ok_iff.mp evaluated; rfl
  | any conditions => obtain ⟨_, _, rfl⟩ := evaluate_any_eq_ok_iff.mp evaluated; rfl
  | not condition => obtain ⟨_, _, rfl⟩ := evaluate_not_eq_ok_iff.mp evaluated; rfl

/-- The root of a trace mirrors the condition. -/
theorem mirrors_of_evaluate (evaluated : condition.evaluate store = .ok trace) :
    trace.Mirrors condition where
  kind := kind_of_evaluate evaluated
  all := by
    rintro conditions rfl
    obtain ⟨children, _, rfl⟩ := evaluate_all_eq_ok_iff.mp evaluated
    exact List.all_eq_true
  any := by
    rintro conditions rfl
    obtain ⟨children, _, rfl⟩ := evaluate_any_eq_ok_iff.mp evaluated
    exact List.any_eq_true
  not := by
    rintro condition rfl
    obtain ⟨child, _, rfl⟩ := evaluate_not_eq_ok_iff.mp evaluated
    exact ⟨child, rfl, rfl⟩

end Condition

/-! ### Conditions and their facts -/

/-- A condition sees its own facts only: stores on which the facts that it names read the same give
it the same trace, or the same interruption. On every store it has a trace unless it trips, and
the trace mirrors it throughout. -/
theorem condition_sees_own_facts (condition : Condition) :
    (∀ s t : Store, (∀ path ∈ condition.paths, s.read path = t.read path) →
      condition.evaluate s = condition.evaluate t) ∧
    ∀ store : Store,
      ((∃ trace, condition.evaluate store = .ok trace) ↔ ¬ condition.Trips store) ∧
      ∀ trace, condition.evaluate store = .ok trace →
        condition.Throughout (fun part node => node.Mirrors part) trace := by
  refine ⟨fun s t same => Condition.evaluate_congr condition same, fun store => ⟨?_, ?_⟩⟩
  · rw [returns_iff, Condition.evaluate_fails_iff]
  · intro trace evaluated
    exact Condition.throughout_of_evaluate (fun _ _ => Condition.mirrors_of_evaluate) condition
      evaluated

def kettleStore (room : String) : Store :=
  ⟨[("kettle", .object [(.text "heat", .int 90), (.text "room", .text room)])]⟩

def kettleCondition : Condition :=
  .all [.not (.compare (.fact ⟨"kettle.heat", none⟩) .less (.literal (.int 80) none)),
    .any [.present ⟨"kettle.lid", none⟩, .present ⟨"kettle.handle", none⟩]]

/-- A condition on a kettle does not see the room that it is in. -/
theorem kettle_seen_alike :
    (∀ path ∈ kettleCondition.paths,
      (kettleStore "hall").read path = (kettleStore "attic").read path) ∧
    kettleStore "hall" ≠ kettleStore "attic" ∧
    ∃ trace, kettleCondition.evaluate (kettleStore "hall") = .ok trace ∧
      kettleCondition.evaluate (kettleStore "attic") = .ok trace ∧
      kettleCondition.Throughout (fun part node => node.Mirrors part) trace := by
  have same : ∀ path ∈ kettleCondition.paths,
      (kettleStore "hall").read path = (kettleStore "attic").read path := by decide +kernel
  obtain ⟨sees, shaped⟩ := condition_sees_own_facts kettleCondition
  refine ⟨same, by decide, _, rfl, ?_, (shaped (kettleStore "hall")).2 _ rfl⟩
  exact (sees _ _ same).symm

end Rulebook
