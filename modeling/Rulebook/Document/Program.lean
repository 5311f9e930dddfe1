import Rulebook.Document.Reader

/-!
Programs read from documents.

The names of entries are in camel case; the underscored form is read too, and gives way
to the other where both are there. Kinds, operators, modes and severities may use their
older spellings, as may a few names of entries. `Program.read` is the whole reading.
-/

namespace Rulebook

open Reader

/-! ### Entities -/

def FieldDecl.read : Reader FieldDecl :=
  record fun fields => FieldDecl.mk
    <$> required ["name"] nonEmptyText fields
    <*> required ["type"] (member ScalarType.read?) fields
    <*> defaulted ["units"] none (optional text) fields
    <*> defaulted ["description"] none (optional text) fields

def Entity.read : Reader Entity :=
  record fun fields => Entity.mk
    <$> required ["name"] nonEmptyText fields
    <*> required ["fields"] (list FieldDecl.read) fields
    <*> defaulted ["description"] none (optional text) fields

/-! ### Operands -/

def FactRef.readFields (fields : List (Key × Value)) : Decoded FactRef :=
  FactRef.mk
    <$> required ["path"] nonEmptyText fields
    <*> defaulted ["units"] none (optional text) fields

/-- Where only a fact can stand its kind may be left out, but it may not be another. -/
def FactRef.read : Reader FactRef :=
  record fun fields =>
    let kind : Decoded Unit :=
      match tag fields with
      | .absent | .word "fact" => .accepted ()
      | _ => .refused [⟨[.name "kind"], .otherConstant⟩]
    (fun _ ref => ref) <$> kind <*> FactRef.readFields fields

def Operand.readLiteral (fields : List (Key × Value)) : Decoded Operand :=
  Operand.literal
    <$> required ["value"] scalar fields
    <*> defaulted ["units"] none (optional text) fields

def Operand.read : Reader Operand
  | .object fields =>
      match tag fields with
      | .absent => .fail .tagMissing
      | .word "fact" => (Operand.fact <$> FactRef.readFields fields).within (.name "fact")
      | .word "value" => (Operand.readLiteral fields).within (.name "value")
      | _ => .fail .tagUnknown
  | _ => .fail .notTaggedRecord

/-! ### Conditions -/

inductive ConditionKind where
  | compare | present | oneOf | matching | all | any | not
deriving DecidableEq

/-- The kind that a word names; some have two words. -/
def ConditionKind.read? : String → Option ConditionKind
  | "compare" | "comparison" => some compare
  | "exists" => some present
  | "in" => some oneOf
  | "matches" => some matching
  | "all" | "and" => some all
  | "any" | "or" => some any
  | "not" => some not
  | _ => none

namespace Condition

def readCompare (fields : List (Key × Value)) : Decoded Condition :=
  Condition.compare
    <$> required ["lhs"] Operand.read fields
    <*> required ["operator"] (member Operator.read?) fields
    <*> required ["rhs"] Operand.read fields

def readPresent (fields : List (Key × Value)) : Decoded Condition :=
  Condition.present <$> required ["fact"] FactRef.read fields

def readOneOf (fields : List (Key × Value)) : Decoded Condition :=
  Condition.oneOf
    <$> required ["value"] Operand.read fields
    <*> required ["options"] (nonEmptyList Operand.read) fields

def readMatching (fields : List (Key × Value)) : Decoded Condition :=
  Condition.matching
    <$> required ["value"] Operand.read fields
    <*> required ["pattern"] text fields
    <*> defaulted ["caseInsensitive", "case_insensitive"] false bool fields

mutual

/-- A condition, its kind deciding which entries it has. Problems below it are seen
through the word that names the kind. -/
def read : Reader Condition
  | .object fields =>
      match tag fields with
      | .absent => .fail .tagMissing
      | .unusable => .fail .tagUnknown
      | .word kind =>
          match ConditionKind.read? kind with
          | none => .fail .tagUnknown
          | some .compare => (readCompare fields).within (.name kind)
          | some .present => (readPresent fields).within (.name kind)
          | some .oneOf => (readOneOf fields).within (.name kind)
          | some .matching => (readMatching fields).within (.name kind)
          | some .all => (Condition.all <$> readParts fields).within (.name kind)
          | some .any => (Condition.any <$> readParts fields).within (.name kind)
          | some .not => (Condition.not <$> readPart fields).within (.name kind)
  | _ => .fail .notTaggedRecord
termination_by structural v => v

def readPart : List (Key × Value) → Decoded Condition
  | [] => .refused [⟨[.name "condition"], .missing⟩]
  | (k, v) :: rest =>
      if k = .text "condition" then (read v).within (.name "condition") else readPart rest
termination_by structural fields => fields

def readParts : List (Key × Value) → Decoded (List Condition)
  | [] => .refused [⟨[.name "conditions"], .missing⟩]
  | (k, v) :: rest =>
      if k = .text "conditions" then (readList v).within (.name "conditions")
      else readParts rest
termination_by structural fields => fields

def readList : Reader (List Condition)
  | .list items => (readItems 0 items).check (!·.isEmpty) .listTooShort
  | _ => .fail .notList
termination_by structural v => v

def readItems : Nat → List Value → Decoded (List Condition)
  | _, [] => .accepted []
  | i, v :: rest => List.cons <$> (read v).within (.index i) <*> readItems (i + 1) rest
termination_by structural _ items => items

end

end Condition

/-! ### Actions -/

namespace Action

def readSet (fields : List (Key × Value)) : Decoded Action :=
  Action.set
    <$> required ["target"] nonEmptyText fields
    <*> required ["value"] Operand.read fields

def readIncrement (fields : List (Key × Value)) : Decoded Action :=
  Action.increment
    <$> required ["target"] nonEmptyText fields
    <*> required ["delta", "value", "numericDelta"] amount fields

def readAppend (fields : List (Key × Value)) : Decoded Action :=
  Action.append
    <$> required ["target"] nonEmptyText fields
    <*> required ["value"] Operand.read fields

def readEmit (fields : List (Key × Value)) : Decoded Action :=
  Action.emit
    <$> required ["event", "eventName"] nonEmptyText fields
    <*> defaulted ["payload"] [] mapping fields

def readRoute (fields : List (Key × Value)) : Decoded Action :=
  Action.route
    <$> required ["queue", "toQueue"] nonEmptyText fields
    <*> defaulted ["reason"] none (optional text) fields

def read : Reader Action
  | .object fields =>
      match tag fields with
      | .absent => .fail .tagMissing
      | .word "set" => (readSet fields).within (.name "set")
      | .word "increment" => (readIncrement fields).within (.name "increment")
      | .word "append" => (readAppend fields).within (.name "append")
      | .word "emit" => (readEmit fields).within (.name "emit")
      | .word "route" => (readRoute fields).within (.name "route")
      | _ => .fail .tagUnknown
  | _ => .fail .notTaggedRecord

end Action

/-! ### Rules, constraints, examples -/

/-- An older rule keeps the actions of a match under another name, which counts where
the present name is absent. -/
def Rule.liftActions (fields : List (Key × Value)) : List (Key × Value) :=
  if Fields.has (Key.text "then") fields then fields
  else
    match Fields.get? (Key.text "actions") fields with
    | some actions =>
        fields.filter (fun entry => entry.1 ≠ Key.text "actions")
          ++ [(Key.text "then", actions)]
    | none => fields

def Rule.readFields (fields : List (Key × Value)) : Decoded Rule :=
  Rule.mk
    <$> required ["id"] nonEmptyText fields
    <*> required ["name"] text fields
    <*> defaulted ["description"] none (optional text) fields
    <*> defaulted ["tags"] [] (list text) fields
    <*> defaulted ["priority"] 0 int fields
    <*> defaulted ["mode"] none (optional (member EvaluationMode.read?)) fields
    <*> required ["when"] Condition.read fields
    <*> defaulted ["then"] [] (list Action.read) fields
    <*> defaulted ["else", "else_"] [] (list Action.read) fields
    <*> defaulted ["stopProcessing", "stop_processing"] false bool fields

def Rule.read : Reader Rule := record fun fields => Rule.readFields (Rule.liftActions fields)

def Constraint.read : Reader Constraint :=
  record fun fields => Constraint.mk
    <$> required ["id"] nonEmptyText fields
    <*> required ["description"] text fields
    <*> required ["assert", "assert_"] Condition.read fields
    <*> defaulted ["severity"] Severity.error (member Severity.read?) fields

def Example.read : Reader Example :=
  record fun fields => Example.mk
    <$> required ["id"] nonEmptyText fields
    <*> defaulted ["description"] none (optional text) fields
    <*> defaulted ["input"] [] mapping fields
    <*> defaulted ["expected"] [] mapping fields

def ProgramConfig.read : Reader ProgramConfig :=
  record fun fields => ProgramConfig.mk
    <$> defaulted ["ruleEvaluation", "rule_evaluation"] EvaluationMode.allMatches
          (member EvaluationMode.read?) fields

def Program.read : Reader Program :=
  record fun fields => Program.mk
    <$> defaulted ["domain"] ProgramDomain.businessRules (member ProgramDomain.read?) fields
    <*> defaulted ["description"] none (optional text) fields
    <*> defaulted ["entities"] [] (list Entity.read) fields
    <*> defaulted ["rules"] [] (list Rule.read) fields
    <*> defaulted ["constraints"] [] (list Constraint.read) fields
    <*> defaulted ["examples"] [] (list Example.read) fields
    <*> defaulted ["config"] none (optional ProgramConfig.read) fields

end Rulebook
