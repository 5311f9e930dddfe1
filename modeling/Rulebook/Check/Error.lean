import Rulebook.Report.Issue

/-!
What a check of a program can find wrong.

`CheckError` has one constructor a cause. Its class, message and details are functions
of the cause, and so is the hard issue that records it. An error whose message would show
an integer that is too long is not raised: the check fails without a complaint.
-/

namespace Rulebook

def Operand.describe : Operand → String
  | fact ref => ref.path
  | literal value _ => value.toValue.display

def Scalar.hasText (value : Scalar) : Bool := value.toValue.hasText

/-- The operand can be named. -/
def Operand.hasText : Operand → Bool
  | fact _ => true
  | literal value _ => value.hasText

inductive CheckError where
  | malformedPath (path : String)
  | unknownEntity (path entity : String)
  | unknownField (path entity field : String)
  | factUnits (path declared expected : String)
  | otherUnits (label : String) (path : Option String) (declared : String)
      (operand : Operand) (unit : String)
  | notDate (value : Scalar)
  | otherType (operand : Operand) (actual expected : ScalarType)
  | notNumbers (operator : Operator) (lhs rhs : ScalarType)
  | containsNeedsText
  | memberNeedsFact
  | notIncrementable (target : String) (type : ScalarType)
  | notWritable (verb target : String) (reason : CheckError)
  | clash (first second : String) (priority : Int) (path : String) (a b : Scalar)
deriving DecidableEq

namespace CheckError

def kind : CheckError → FaultClass
  | malformedPath _ | unknownEntity .. | unknownField .. => .pathReference
  | factUnits .. | otherUnits .. => .unitMismatch
  | clash .. => .conflict
  | _ => .typeMismatch

def message : CheckError → String
  | malformedPath path => "Path \"" ++ path ++ "\" must have the form entity.field"
  | unknownEntity path entity =>
      "Unknown entity \"" ++ entity ++ "\" in path \"" ++ path ++ "\""
  | unknownField path entity field =>
      "Unknown field \"" ++ field ++ "\" on entity \"" ++ entity ++ "\" in path \"" ++ path
        ++ "\""
  | factUnits path declared expected =>
      "Unit mismatch on \"" ++ path ++ "\": field is " ++ declared ++ ", operand expects "
        ++ expected
  | otherUnits label _ declared operand unit =>
      "Unit mismatch on \"" ++ label ++ "\": field is " ++ declared ++ ", "
        ++ operand.describe ++ " is " ++ unit
  | notDate value => "Expected an ISO date literal, got " ++ value.toValue.display
  | otherType operand actual expected =>
      operand.describe ++ " is " ++ actual.spelling ++ ", expected " ++ expected.spelling
  | notNumbers operator lhs rhs =>
      "Operator " ++ operator.spelling ++ " requires numbers, got " ++ lhs.spelling ++ " and "
        ++ rhs.spelling
  | containsNeedsText =>
      "Operator contains requires a string or a list-valued fact on the left"
  | memberNeedsFact => "Operator member_of requires a list-valued fact on the right"
  | notIncrementable target type =>
      "Cannot increment " ++ target ++ ": field is " ++ type.spelling ++ ", expected number"
  | notWritable verb target reason =>
      "Cannot " ++ verb ++ " " ++ target ++ ": " ++ reason.message
  | clash first second priority path a b =>
      "Rules \"" ++ first ++ "\" and \"" ++ second ++ "\" (priority " ++ toString priority
        ++ ") set " ++ path ++ " to different values: " ++ a.toValue.display ++ " vs "
        ++ b.toValue.display

def details : CheckError → Record
  | malformedPath path => [("path", .text path), ("segment", .text path)]
  | unknownEntity path entity => [("path", .text path), ("segment", .text entity)]
  | unknownField path _ field => [("path", .text path), ("segment", .text field)]
  | factUnits path declared expected =>
      [("path", .text path), ("expected_units", .text declared),
       ("actual_units", .text expected)]
  | otherUnits _ path declared _ unit =>
      [("path", .ofText? path), ("expected_units", .text declared),
       ("actual_units", .text unit)]
  | notDate value =>
      [("expected_type", .text ScalarType.date.spelling), ("value", value.toValue)]
  | otherType operand actual expected =>
      [("operand", .text operand.describe), ("expected_type", .text expected.spelling),
       ("actual_type", .text actual.spelling)]
  | notNumbers operator _ _ => [("operator", .text operator.spelling)]
  | containsNeedsText => [("operator", .text Operator.contains.spelling)]
  | memberNeedsFact => [("operator", .text Operator.memberOf.spelling)]
  | notIncrementable target type =>
      [("path", .text target), ("expected_type", .text ScalarType.number.spelling),
       ("actual_type", .text type.spelling)]
  | notWritable _ target reason => Fields.set "path" (.text target) reason.details
  | clash _ _ priority path a b =>
      [("path", .text path), ("priority", .int priority),
       ("values", .list [a.toValue, b.toValue])]

/-- What the message shows has a text. -/
def hasText : CheckError → Bool
  | otherUnits _ _ _ operand _ | otherType operand _ _ => operand.hasText
  | notDate value => value.hasText
  | notWritable _ _ reason => reason.hasText
  | clash _ _ priority _ a b => intHasText priority && a.hasText && b.hasText
  | _ => true

def path : CheckError → Option String
  | malformedPath path | unknownEntity path _ | unknownField path _ _ => some path
  | factUnits path _ _ | clash _ _ _ path _ _ => some path
  | otherUnits _ path _ _ _ => path
  | notIncrementable target _ | notWritable _ target _ => some target
  | notDate _ | otherType .. | notNumbers .. | containsNeedsText | memberNeedsFact => none

def fault (e : CheckError) : Fault := ⟨e.kind, e.message, e.details⟩

def issue (e : CheckError) (ruleIds : List String) : Issue := e.fault.issueAt e.path ruleIds

end CheckError

/-! ### Failures -/

/-- How a check fails: with an error that is reported, or because its message cannot be
written. -/
inductive CheckFailure where
  | reported (error : CheckError)
  | tooManyDigits
deriving DecidableEq

namespace CheckFailure

/-- What comes of an error that shows literals. -/
def raised (e : CheckError) : CheckFailure := if e.hasText then reported e else tooManyDigits

/-- An error that shows none is always reported. -/
instance : MonadLift (Except CheckError) (Except CheckFailure) where
  monadLift check := check.mapError reported

section Lift

variable {α : Type} {check : Except CheckError α}

@[simp] theorem liftM_ok (a : α) : (liftM (.ok a : Except CheckError α) : Except CheckFailure α) =
    .ok a :=
  rfl

@[simp] theorem liftM_error (e : CheckError) :
    (liftM (.error e : Except CheckError α) : Except CheckFailure α) = .error (.reported e) :=
  rfl

@[simp] theorem liftM_eq_ok_iff {a : α} :
    (liftM check : Except CheckFailure α) = .ok a ↔ check = .ok a := by
  cases check with
  | ok b => simp only [liftM_ok, Except.ok.injEq]
  | error e => simp only [liftM_error, reduceCtorEq]

@[simp] theorem liftM_eq_error_iff {failure : CheckFailure} :
    (liftM check : Except CheckFailure α) = .error failure ↔
      ∃ e, check = .error e ∧ reported e = failure := by
  cases check with
  | ok b => simp only [liftM_ok, reduceCtorEq, false_and, exists_false]
  | error e => simp only [liftM_error, Except.error.injEq, exists_eq_left']

end Lift

/-- An error is reported only if its message can be written. -/
theorem raised_eq_reported_iff {e error : CheckError} :
    raised e = reported error ↔ e.hasText = true ∧ e = error := by
  unfold raised
  split <;> simp_all

/-- Otherwise the check fails as writing the message does. -/
theorem raised_eq_tooManyDigits_iff {e : CheckError} :
    raised e = tooManyDigits ↔ e.hasText = false := by
  unfold raised
  split <;> simp_all

end CheckFailure

end Rulebook
