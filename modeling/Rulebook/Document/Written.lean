import Rulebook.Program.Basic
import Rulebook.Value.Display

/-!
Programs written as documents.

Every entry is written, under its present name and with its canonical spelling; what is
absent is null. Free data inside a program passes through `Value.written`, which leaves
out numbers that a document has no spelling for.
-/

namespace Rulebook

def Key.written : Key → String
  | .bool b => if b then "true" else "false"
  | k => k.name

namespace Value

mutual

/-- Free data as a document holds it: numbers that are not finite become null, and all
keys texts. -/
def written : Value → Value
  | .float x => if x.isFinite then .float x else .null
  | .list items => .list (writtenItems items)
  | .object fields => .object (Fields.ofList (writtenFields fields))
  | .null => .null
  | .bool b => .bool b
  | .int n => .int n
  | .text s => .text s

def writtenItems : List Value → List Value
  | [] => []
  | v :: rest => written v :: writtenItems rest

def writtenFields : List (Key × Value) → List (Key × Value)
  | [] => []
  | (k, v) :: rest => (.text k.written, written v) :: writtenFields rest

end

def writtenRecord (fields : Record) : Value := (Value.record fields).written

end Value

/-! ### Entities and operands -/

def FieldDecl.toValue (field : FieldDecl) : Value :=
  .record
    [("name", .text field.name), ("type", .text field.type.spelling),
     ("units", .ofText? field.units), ("description", .ofText? field.description)]

def Entity.toValue (entity : Entity) : Value :=
  .record
    [("name", .text entity.name), ("fields", .list (entity.fields.map FieldDecl.toValue)),
     ("description", .ofText? entity.description)]

def FactRef.toValue (ref : FactRef) : Value :=
  .record [("kind", .text "fact"), ("path", .text ref.path), ("units", .ofText? ref.units)]

def Operand.toValue : Operand → Value
  | fact ref => ref.toValue
  | literal value units =>
      .record [("kind", .text "value"), ("value", value.toValue), ("units", .ofText? units)]

/-! ### Conditions and actions -/

namespace Condition

mutual

def toValue : Condition → Value
  | .compare lhs operator rhs =>
      .record
        [("kind", .text "compare"), ("lhs", lhs.toValue),
         ("operator", .text operator.spelling), ("rhs", rhs.toValue)]
  | .present fact => .record [("kind", .text "exists"), ("fact", fact.toValue)]
  | .oneOf value options =>
      .record
        [("kind", .text "in"), ("value", value.toValue),
         ("options", .list (options.map Operand.toValue))]
  | .matching value pattern ignoreCase =>
      .record
        [("kind", .text "matches"), ("value", value.toValue), ("pattern", .text pattern),
         ("caseInsensitive", .bool ignoreCase)]
  | .all conditions =>
      .record [("kind", .text "all"), ("conditions", .list (toValues conditions))]
  | .any conditions =>
      .record [("kind", .text "any"), ("conditions", .list (toValues conditions))]
  | .not condition => .record [("kind", .text "not"), ("condition", toValue condition)]

def toValues : List Condition → List Value
  | [] => []
  | c :: rest => toValue c :: toValues rest

end

end Condition

def Action.toValue : Action → Value
  | set target value =>
      .record [("kind", .text "set"), ("target", .text target), ("value", value.toValue)]
  | increment target delta =>
      .record
        [("kind", .text "increment"), ("target", .text target), ("delta", delta.toValue)]
  | append target value =>
      .record [("kind", .text "append"), ("target", .text target), ("value", value.toValue)]
  | emit event payload =>
      .record
        [("kind", .text "emit"), ("event", .text event), ("payload", .writtenRecord payload)]
  | route queue reason =>
      .record [("kind", .text "route"), ("queue", .text queue), ("reason", .ofText? reason)]

/-! ### Rules, constraints, examples -/

def Rule.toValue (rule : Rule) : Value :=
  .record
    [("id", .text rule.id), ("name", .text rule.name),
     ("description", .ofText? rule.description), ("tags", .texts rule.tags),
     ("priority", .int rule.priority),
     ("mode", .ofText? (rule.mode.map EvaluationMode.spelling)),
     ("when", rule.condition.toValue),
     ("then", .list (rule.thenActions.map Action.toValue)),
     ("else", .list (rule.elseActions.map Action.toValue)),
     ("stopProcessing", .bool rule.stopProcessing)]

def Constraint.toValue (constraint : Constraint) : Value :=
  .record
    [("id", .text constraint.id), ("description", .text constraint.description),
     ("assert", constraint.assertion.toValue),
     ("severity", .text constraint.severity.spelling)]

def Example.toValue (ex : Example) : Value :=
  .record
    [("id", .text ex.id), ("description", .ofText? ex.description),
     ("input", .writtenRecord ex.input), ("expected", .writtenRecord ex.expected)]

def ProgramConfig.toValue (config : ProgramConfig) : Value :=
  .record [("ruleEvaluation", .text config.ruleEvaluation.spelling)]

def Program.toValue (program : Program) : Value :=
  .record
    [("domain", .text program.domain.spelling),
     ("description", .ofText? program.description),
     ("entities", .list (program.entities.map Entity.toValue)),
     ("rules", .list (program.rules.map Rule.toValue)),
     ("constraints", .list (program.constraints.map Constraint.toValue)),
     ("examples", .list (program.examples.map Example.toValue)),
     ("config", (program.config.map ProgramConfig.toValue).getD .null)]

end Rulebook
