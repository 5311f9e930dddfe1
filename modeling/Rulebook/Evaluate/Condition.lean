import Rulebook.Evaluate.Comparison
import Rulebook.Evaluate.Trace
import Rulebook.Report.Interruption

/-!
Evaluating conditions against the facts.

A fact that is absent makes a comparison fail and is listed among the details. All parts
of a combined condition are evaluated, so a trace is complete whatever its result is.
-/

namespace Rulebook

/-! ### Operands -/

/-- The value of an operand; a fact can be absent. -/
def Operand.resolve (store : Store) : Operand → Option Value
  | fact ref => store.read ref.path
  | literal value _ => some value.toValue

def Operand.absentPath? (store : Store) (operand : Operand) : Option String :=
  if (operand.resolve store).isNone then operand.path? else none

def absentPaths (store : Store) (operands : List Operand) : List String :=
  operands.filterMap (·.absentPath? store)

def shown (v : Option Value) : Value := v.getD .null

/-- The entry that lists absent facts, if there are any. -/
def missingEntry (paths : List String) : Record :=
  if paths.isEmpty then [] else [("missing", .texts paths)]

namespace Condition

/-! ### Single conditions -/

def compareTrace (store : Store) (lhs : Operand) (operator : Operator) (rhs : Operand) :
    ConditionTrace :=
  let a := lhs.resolve store
  let b := rhs.resolve store
  let result :=
    match a, b with
    | some x, some y => operator.holds x y
    | _, _ => false
  .node "compare" result (some operator)
    ([("lhs", shown a), ("rhs", shown b)] ++ missingEntry (absentPaths store [lhs, rhs])) []

def presentTrace (store : Store) (fact : FactRef) : ConditionTrace :=
  let v := store.read fact.path
  .node "exists" (shown v != .null) none
    [("path", .text fact.path), ("value", shown v)] []

def oneOfTrace (store : Store) (value : Operand) (options : List Operand) :
    ConditionTrace :=
  let v := value.resolve store
  let found := options.map (·.resolve store)
  let result := v.any fun x => found.any fun option => option.any x.strictEq
  .node "in" result none
    ([("value", shown v), ("options", .list (found.map shown))]
      ++ missingEntry (absentPaths store (value :: options))) []

def matchingTrace (store : Store) (value : Operand) (pattern : String) (ignoreCase : Bool) :
    Except Interruption ConditionTrace := do
  let v := value.resolve store
  let result ←
    match v with
    | some (.text s) => (matchesPattern pattern ignoreCase s).mapError .pattern
    | _ => pure false
  return .node "matches" result none
    [("value", shown v), ("pattern", .text pattern), ("caseInsensitive", .bool ignoreCase)] []

/-! ### Condition trees -/

mutual

/-- The trace of a condition. It fails where a pattern is refused, or a value without a
text is to be found in one. -/
def evaluate (store : Store) : Condition → Except Interruption ConditionTrace
  | .compare lhs operator rhs =>
      if operator.lacksText (lhs.resolve store) (rhs.resolve store) then .error .tooManyDigits
      else .ok (compareTrace store lhs operator rhs)
  | .present fact => .ok (presentTrace store fact)
  | .oneOf value options => .ok (oneOfTrace store value options)
  | .matching value pattern ignoreCase => matchingTrace store value pattern ignoreCase
  | .all conditions => do
      let children ← evaluateEach store conditions
      return .node "all" (children.all (·.result)) none [] children
  | .any conditions => do
      let children ← evaluateEach store conditions
      return .node "any" (children.any (·.result)) none [] children
  | .not condition => do
      let child ← evaluate store condition
      return .node "not" (!child.result) none [] [child]

def evaluateEach (store : Store) : List Condition → Except Interruption (List ConditionTrace)
  | [] => .ok []
  | c :: rest => do
      let trace ← evaluate store c
      let traces ← evaluateEach store rest
      return trace :: traces

end

/-- A comparison has a trace unless it needs a text that is not there. -/
theorem evaluate_compare_eq_ok_iff {store : Store} {lhs rhs : Operand} {operator : Operator}
    {trace : ConditionTrace} :
    (compare lhs operator rhs).evaluate store = .ok trace ↔
      operator.lacksText (lhs.resolve store) (rhs.resolve store) = false ∧
        compareTrace store lhs operator rhs = trace := by
  rw [evaluate]
  split <;> simp_all

end Condition

end Rulebook
