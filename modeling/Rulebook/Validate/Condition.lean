import Rulebook.Check.Operand
import Rulebook.Report.Interruption

/-!
Checking conditions before anything is run.

Each comparison is checked as a whole and stops at its first error; the parts of a
combined condition, and the options of a membership test, are checked independently.
Operands have to agree in type, where a fact sets the expectation, and in unit, where
the field of a fact sets it. An error is an issue like any other; only a check that cannot
put its error into words ends them all.
-/

namespace Rulebook

/-- What a check gives rise to on behalf of rules: its error, or the issue it found. -/
def issuesOf (ruleIds : List String) :
    Except CheckFailure (Option Issue) → Except Interruption (List Issue)
  | .error .tooManyDigits => .error .tooManyDigits
  | .error (.reported e) => .ok [e.issue ruleIds]
  | .ok found => .ok (found.map (·.forRules ruleIds)).toList

/-- The issues of checks that are made one after another. -/
def gather : List (Except Interruption (List Issue)) → Except Interruption (List Issue)
  | [] => .ok []
  | found :: rest => do
      let issues ← found
      let others ← gather rest
      return issues ++ others

namespace Catalog

/-- The second operand has the type of the first. -/
def checkFollows (catalog : Catalog) (lead other : Operand) : Except CheckFailure Unit := do
  let type ← catalog.checkOperand lead none
  let _ ← catalog.checkOperand other (some type)

/-- Two operands have one type. The left one sets it, or else the only fact. -/
def checkAgreement (catalog : Catalog) (a b : Operand) : Except CheckFailure Unit :=
  match a, b with
  | .literal .., .fact _ => catalog.checkFollows b a
  | _, _ => catalog.checkFollows a b

/-- The unit of an operand against the field of another one, if that is a fact. -/
def checkUnitsAgainst (catalog : Catalog) (operand against : Operand) :
    Except CheckFailure (Option Issue) :=
  match against with
  | .fact ref => do
      let field ← catalog.resolve ref.path
      catalog.checkUnits operand field (some ref.path)
  | .literal .. => return none

/-! ### Comparisons -/

/-- The left side is a text, or a fact, which may hold a list of items of its type. -/
def checkContains (catalog : Catalog) (lhs rhs : Operand) (type : ScalarType) :
    Except CheckFailure Unit := do
  if type = .string then return ()
  match lhs with
  | .literal .. => throw (.reported .containsNeedsText)
  | .fact _ =>
      let _ ← catalog.checkOperand rhs (some type)

/-- The right side is a fact, which holds a list of items of its type. -/
def checkMember (catalog : Catalog) (lhs rhs : Operand) (type : ScalarType) :
    Except CheckFailure Unit :=
  match rhs with
  | .literal .. => throw (.reported .memberNeedsFact)
  | .fact _ => do
      let _ ← catalog.checkOperand lhs (some type)

def checkOperator (catalog : Catalog) (lhs : Operand) (operator : Operator) (rhs : Operand)
    (left right : ScalarType) : Except CheckFailure Unit :=
  match operator with
  | .equals | .notEquals => catalog.checkAgreement lhs rhs
  | .contains => catalog.checkContains lhs rhs left
  | .memberOf => catalog.checkMember lhs rhs right
  | .greater | .greaterOrEqual | .less | .lessOrEqual =>
      if left = .number ∧ right = .number then return ()
      else throw (.reported (.notNumbers operator left right))

/-- The types and then the units of a comparison. -/
def checkCompare (catalog : Catalog) (lhs : Operand) (operator : Operator) (rhs : Operand) :
    Except CheckFailure (Option Issue) := do
  let left ← catalog.checkOperand lhs none
  let right ← catalog.checkOperand rhs none
  catalog.checkOperator lhs operator rhs left right
  match lhs with
  | .fact _ => catalog.checkUnitsAgainst rhs lhs
  | .literal .. => catalog.checkUnitsAgainst lhs rhs

def checkOption (catalog : Catalog) (value option : Operand) :
    Except CheckFailure (Option Issue) := do
  catalog.checkAgreement value option
  catalog.checkUnitsAgainst option value

def checkDeclared (catalog : Catalog) (path : String) : Except CheckFailure (Option Issue) := do
  let _ ← catalog.resolve path
  return none

def checkText (catalog : Catalog) (value : Operand) : Except CheckFailure (Option Issue) := do
  let _ ← catalog.checkOperand value (some .string)
  return none

end Catalog

/-! ### Condition trees -/

namespace Condition

mutual

def issues (catalog : Catalog) (ruleIds : List String) :
    Condition → Except Interruption (List Issue)
  | .compare lhs operator rhs => issuesOf ruleIds (catalog.checkCompare lhs operator rhs)
  | .present fact => issuesOf ruleIds (catalog.checkDeclared fact.path)
  | .oneOf value options =>
      gather (options.map fun option => issuesOf ruleIds (catalog.checkOption value option))
  | .matching value _ _ => issuesOf ruleIds (catalog.checkText value)
  | .all conditions | .any conditions => gather (issuesOfEach catalog ruleIds conditions)
  | .not condition => issues catalog ruleIds condition

def issuesOfEach (catalog : Catalog) (ruleIds : List String) :
    List Condition → List (Except Interruption (List Issue))
  | [] => []
  | c :: rest => issues catalog ruleIds c :: issuesOfEach catalog ruleIds rest

end

end Condition

end Rulebook
