import Rulebook.Validate.Condition

/-!
Checking actions before anything is run.

A written value has to have the type and the unit of the field that it is written to.
An error of type is reported against the written path and not against the operand.
-/

namespace Rulebook

/-- An error of type, told as the reason why a field cannot be written. -/
def CheckError.onWrite (verb target : String) (e : CheckError) : CheckError :=
  if e.kind = .typeMismatch then .notWritable verb target e else e

def CheckFailure.onWrite (verb target : String) : CheckFailure → CheckFailure
  | reported e => reported (e.onWrite verb target)
  | tooManyDigits => tooManyDigits

namespace Catalog

/-- The type and then the unit of a value that an action writes. `verb` names the action
in messages. -/
def checkWritten (catalog : Catalog) (verb target : String) (value : Operand) :
    Except CheckFailure (Option Issue) := do
  let field ← catalog.resolve target
  let _ ← (catalog.checkOperand value (some field.type)).mapError (.onWrite verb target)
  catalog.checkUnits value field (some target)

def checkAction (catalog : Catalog) : Action → Except CheckFailure (Option Issue)
  | .emit .. | .route .. => return none
  | .increment target _ => do
      catalog.checkIncrement target
      return none
  | .set target value => catalog.checkWritten "set" target value
  | .append target value => catalog.checkWritten "append" target value

end Catalog

def Rule.issues (rule : Rule) (catalog : Catalog) : Except Interruption (List Issue) :=
  gather
    (rule.condition.issues catalog [rule.id]
      :: rule.actions.map fun action => issuesOf [rule.id] (catalog.checkAction action))

end Rulebook
