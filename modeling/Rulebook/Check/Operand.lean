import Rulebook.Check.Catalog
import Rulebook.Calendar.IsoText

/-!
Types and units of operands.

A fact has the type and the unit that its field declares; a literal has the type that it
is written in, and stands for a date where a date is expected and it is the text of one.
An empty unit is no unit where an operand or the checked field has it.
-/

namespace Rulebook

def Scalar.type : Scalar → ScalarType
  | bool _ => .boolean
  | int _ | float _ => .number
  | text _ => .string

def Value.scalarType? : Value → Option ScalarType
  | .bool _ => some .boolean
  | .int _ | .float _ => some .number
  | .text _ => some .string
  | _ => none

def Value.isDate : Value → Bool
  | .text s => Calendar.isIsoText s
  | _ => false

namespace Catalog

def operandType (catalog : Catalog) (operand : Operand) (expected : Option ScalarType) :
    Except CheckFailure ScalarType :=
  match operand with
  | .fact ref => do
      let field ← catalog.resolve ref.path
      match nonEmpty? ref.units, nonEmpty? field.units with
      | some own, some declared =>
          if own = declared then return field.type
          else throw (.reported (.factUnits ref.path declared own))
      | _, _ => return field.type
  | .literal value _ =>
      if expected = some .date then
        if value.toValue.isDate then return .date else throw (.raised (.notDate value))
      else return value.type

/-- The type of an operand, which has to be the expected one if there is one. -/
def checkOperand (catalog : Catalog) (operand : Operand)
    (expected : Option ScalarType) : Except CheckFailure ScalarType := do
  let actual ← catalog.operandType operand expected
  match expected with
  | some type =>
      if actual = type then return actual else throw (.raised (.otherType operand actual type))
  | none => return actual

def checkIncrement (catalog : Catalog) (target : String) : Except CheckError Unit := do
  let field ← catalog.resolve target
  if field.type = .number then return () else throw (.notIncrementable target field.type)

/-- The unit of an operand: its own, or else the one that a fact's field declares. -/
def operandUnit (catalog : Catalog) (operand : Operand) : Except CheckError (Option String) :=
  match nonEmpty? operand.units, operand with
  | some unit, _ => return some unit
  | none, .fact ref => return (← catalog.resolve ref.path).units
  | none, .literal .. => return none

/-- The operand has no unit where the field declares one. -/
def unitMissing (label : String) (path : Option String) (declared : String)
    (operand : Operand) : Issue :=
  { kind := .unitMissing
    severity := .soft
    message := "Units required for \"" ++ label ++ "\" (expected " ++ declared ++ "), "
      ++ operand.describe ++ " has none"
    path := path
    ruleIds := []
    details := [("expected_units", .text declared)] }

/-- Compares the unit of an operand with that of the field that it is used with. A
missing unit is a soft issue, another one an error. -/
def checkUnits (catalog : Catalog) (operand : Operand) (field : FieldDecl)
    (path : Option String) : Except CheckFailure (Option Issue) :=
  match nonEmpty? field.units with
  | none => return none
  | some declared => do
      let label := (nonEmpty? path).getD field.name
      match ← catalog.operandUnit operand with
      | none =>
          if operand.hasText then return some (unitMissing label path declared operand)
          else throw .tooManyDigits
      | some unit =>
          if unit = declared then return none
          else throw (.raised (.otherUnits label path declared operand unit))

end Catalog

end Rulebook
