import Rulebook.Program.Vocabulary
import Rulebook.Value.Basic

/-!
Programs: declared entities, rules over their fields, constraints on the final state,
and examples.

A fact is named by a dotted path `entity.field`. Conditions and actions take their
values from operands, which are facts or literals and may carry a unit.
-/

namespace Rulebook

/-- Named values in the order in which they were given. -/
abbrev Record := List (String × Value)

/-! ### Entities -/

structure FieldDecl where
  name : String
  type : ScalarType
  units : Option String
  description : Option String
deriving DecidableEq

structure Entity where
  name : String
  fields : List FieldDecl
  description : Option String
deriving DecidableEq

/-! ### Operands -/

inductive Scalar where
  | bool (b : Bool)
  | int (n : Int)
  | float (x : Binary64)
  | text (s : String)
deriving DecidableEq

def Scalar.toValue : Scalar → Value
  | bool b => .bool b
  | int n => .int n
  | float x => .float x
  | text s => .text s

/-- A number that is added to a field. -/
inductive Amount where
  | int (n : Int)
  | float (x : Binary64)
deriving DecidableEq

def Amount.toValue : Amount → Value
  | int n => .int n
  | float x => .float x

/-- A fact, and the unit that its user expects it to have. -/
structure FactRef where
  path : String
  units : Option String
deriving DecidableEq

/-- Where a condition or an action takes a value from. -/
inductive Operand where
  | fact (ref : FactRef)
  | literal (value : Scalar) (units : Option String)
deriving DecidableEq

/-- The unit written on the operand itself. -/
def Operand.units : Operand → Option String
  | fact ref => ref.units
  | literal _ units => units

def Operand.path? : Operand → Option String
  | fact ref => some ref.path
  | literal .. => none

def nonEmpty? : Option String → Option String
  | some "" => none
  | units => units

/-! ### Conditions and actions -/

inductive Condition where
  | compare (lhs : Operand) (operator : Operator) (rhs : Operand)
  | present (fact : FactRef)
  | oneOf (value : Operand) (options : List Operand)
  | matching (value : Operand) (pattern : String) (ignoreCase : Bool)
  | all (conditions : List Condition)
  | any (conditions : List Condition)
  | not (condition : Condition)

def Condition.kind : Condition → String
  | compare .. => "compare"
  | present _ => "exists"
  | oneOf .. => "in"
  | matching .. => "matches"
  | all _ => "all"
  | any _ => "any"
  | not _ => "not"

inductive Action where
  | set (target : String) (value : Operand)
  | increment (target : String) (delta : Amount)
  | append (target : String) (value : Operand)
  | emit (event : String) (payload : Record)
  | route (queue : String) (reason : Option String)
deriving DecidableEq

def Action.kind : Action → String
  | set .. => "set"
  | increment .. => "increment"
  | append .. => "append"
  | emit .. => "emit"
  | route .. => "route"

def Action.target? : Action → Option String
  | set target _ | increment target _ | append target _ => some target
  | emit .. | route .. => none

/-! ### Rules, constraints, examples -/

structure Rule where
  id : String
  name : String
  description : Option String
  tags : List String
  priority : Int
  mode : Option EvaluationMode
  condition : Condition
  thenActions : List Action
  elseActions : List Action
  stopProcessing : Bool

def Rule.actions (rule : Rule) : List Action := rule.thenActions ++ rule.elseActions

structure Constraint where
  id : String
  description : String
  assertion : Condition
  severity : Severity

structure Example where
  id : String
  description : Option String
  input : Record
  expected : Record
deriving DecidableEq

structure ProgramConfig where
  ruleEvaluation : EvaluationMode
deriving DecidableEq

structure Program where
  domain : ProgramDomain
  description : Option String
  entities : List Entity
  rules : List Rule
  constraints : List Constraint
  examples : List Example
  config : Option ProgramConfig

end Rulebook
