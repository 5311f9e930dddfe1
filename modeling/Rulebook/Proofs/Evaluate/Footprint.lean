import Mathlib.Data.List.Basic
import Rulebook.Evaluate.Condition

/-!
What a condition looks at.

A condition reads the facts that its operands name, and nothing else: on two stores that
agree on these facts it comes out the same, with the same trace or the same refusal
(`Condition.evaluate_congr`).
-/

namespace Rulebook

def Operand.paths (operand : Operand) : List String := operand.path?.toList

namespace Condition

mutual

def paths : Condition → List String
  | .compare lhs _ rhs => lhs.paths ++ rhs.paths
  | .present fact => [fact.path]
  | .oneOf value options => value.paths ++ options.flatMap Operand.paths
  | .matching value _ _ => value.paths
  | .all conditions | .any conditions => pathsOfEach conditions
  | .not condition => paths condition

def pathsOfEach : List Condition → List String
  | [] => []
  | c :: rest => paths c ++ pathsOfEach rest

end

end Condition

/-! ### Reading the same facts -/

section Congruence

variable {s t : Store}

theorem Operand.resolve_congr {operand : Operand}
    (same : ∀ path ∈ operand.paths, s.read path = t.read path) :
    operand.resolve s = operand.resolve t := by
  cases operand with
  | fact ref => exact same ref.path (by simp [paths, path?])
  | literal value units => rfl

theorem absentPaths_congr {operands : List Operand}
    (same : ∀ operand ∈ operands, operand.resolve s = operand.resolve t) :
    absentPaths s operands = absentPaths t operands := by
  refine List.filterMap_congr ?_
  intro operand member
  rw [Operand.absentPath?, Operand.absentPath?, same operand member]

namespace Condition

theorem compareTrace_congr {lhs rhs : Operand} (operator : Operator)
    (left : lhs.resolve s = lhs.resolve t) (right : rhs.resolve s = rhs.resolve t) :
    compareTrace s lhs operator rhs = compareTrace t lhs operator rhs := by
  have absent : absentPaths s [lhs, rhs] = absentPaths t [lhs, rhs] :=
    absentPaths_congr (by simp [left, right])
  rw [compareTrace, compareTrace, left, right, absent]

/-- A membership test's trace depends on the value and options it resolves. -/
theorem oneOfTrace_congr {value : Operand} {options : List Operand}
    (here : value.resolve s = value.resolve t)
    (there : ∀ option ∈ options, option.resolve s = option.resolve t) :
    oneOfTrace s value options = oneOfTrace t value options := by
  have found : options.map (·.resolve s) = options.map (·.resolve t) :=
    List.map_congr_left there
  have absent : absentPaths s (value :: options) = absentPaths t (value :: options) :=
    absentPaths_congr (List.forall_mem_cons.mpr ⟨here, there⟩)
  rw [oneOfTrace, oneOfTrace, here, found, absent]

mutual

/-- A condition comes out the same where the facts that it names are the same. -/
theorem evaluate_congr : ∀ condition : Condition,
    (∀ path ∈ condition.paths, s.read path = t.read path) →
      condition.evaluate s = condition.evaluate t
  | .compare lhs operator rhs => by
      intro same
      obtain ⟨left, right⟩ := List.forall_mem_append.mp same
      have first := Operand.resolve_congr left
      have second := Operand.resolve_congr right
      rw [evaluate, evaluate, compareTrace_congr operator first second, first, second]
  | .present fact => by
      intro same
      rw [evaluate, evaluate, presentTrace, presentTrace, same fact.path (by simp [paths])]
  | .oneOf value options => by
      intro same
      obtain ⟨here, there⟩ := List.forall_mem_append.mp same
      have each : ∀ option ∈ options, option.resolve s = option.resolve t :=
        fun option member => Operand.resolve_congr fun path named =>
          there path (List.mem_flatMap.mpr ⟨option, member, named⟩)
      rw [evaluate, evaluate, oneOfTrace_congr (Operand.resolve_congr here) each]
  | .matching value pattern ignoreCase => by
      intro same
      rw [evaluate, evaluate, matchingTrace, matchingTrace, Operand.resolve_congr same]
  | .all conditions | .any conditions => by
      intro same
      rw [evaluate, evaluate, evaluateEach_congr conditions same]
  | .not condition => by
      intro same
      rw [evaluate, evaluate, evaluate_congr condition same]

theorem evaluateEach_congr : ∀ conditions : List Condition,
    (∀ path ∈ pathsOfEach conditions, s.read path = t.read path) →
      evaluateEach s conditions = evaluateEach t conditions
  | [] => fun _ => rfl
  | c :: rest => by
      intro same
      obtain ⟨here, there⟩ := List.forall_mem_append.mp same
      rw [evaluateEach, evaluateEach, evaluate_congr c here, evaluateEach_congr rest there]

end

end Condition

end Congruence

end Rulebook
