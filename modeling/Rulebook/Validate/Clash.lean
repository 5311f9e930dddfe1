import Rulebook.Check.Error
import Rulebook.Document.Canonical
import Rulebook.Report.Interruption
import Rulebook.Telemetry.Event
import Rulebook.Value.Equality

/-!
Clashes: two rules of one priority set a path to different literals.

Rules are paired in the order of their ids, and the paths of a pair in the order of
their names, so what is found does not depend on the order of declaration. A pair has
at most one clash on a path.
-/

namespace Rulebook

/-- The literals that the set actions of a rule write, with their paths. -/
def Rule.literalWrites (rule : Rule) : List (String × Scalar) :=
  rule.actions.filterMap fun
    | .set target (.literal value _) => some (target, value)
    | _ => none

def writtenTo (path : String) (writes : List (String × Scalar)) : List Scalar :=
  (writes.filter (·.1 == path)).map (·.2)

def Scalar.same (a b : Scalar) : Bool := a.toValue.strictEq b.toValue

def pairs {α : Type} : List α → List (α × α)
  | [] => []
  | a :: rest => rest.map (a, ·) ++ pairs rest

def sortedDistinct (texts : List String) : List String := texts.eraseDups.mergeSort nameAtMost

/-! ### Pairs of rules -/

/-- A rule as it takes part in clashes. -/
structure LiteralWriter where
  id : String
  priority : Int
  writes : List (String × Scalar)

/-- The rules in the order of their ids. Where rules share an id, the writes of the last
one count for all of them. -/
def literalWriters (rules : List Rule) : List LiteralWriter :=
  let sorted := rules.mergeSort fun a b => nameAtMost a.id b.id
  sorted.map fun rule =>
    let last := (sorted.reverse.find? (·.id == rule.id)).getD rule
    ⟨rule.id, rule.priority, last.literalWrites⟩

/-- The first clash of two rules on a path. -/
def clashOn? (first second : LiteralWriter) (path : String) : Option CheckError :=
  let candidates := (writtenTo path first.writes).flatMap fun a =>
    (writtenTo path second.writes).map (a, ·)
  (candidates.find? fun (a, b) => !a.same b).map fun (a, b) =>
    .clash first.id second.id first.priority path a b

/-- The clashes of two rules, one a path. -/
def clashesOf (first second : LiteralWriter) : List CheckError :=
  if first.priority = second.priority then
    (sortedDistinct (first.writes.map (·.1))).filterMap (clashOn? first second)
  else []

/-! ### Programs -/

def clashIssues (rules : List Rule) : List Issue :=
  (pairs (literalWriters rules)).flatMap fun (first, second) =>
    (clashesOf first second).map (·.issue [first.id, second.id])

/-- Each clash can be put into words. -/
def clashesHaveText (rules : List Rule) : Bool :=
  (pairs (literalWriters rules)).all fun (first, second) =>
    (clashesOf first second).all (·.hasText)

def clashRecord? (issues : List Issue) : Option LogRecord :=
  if issues.isEmpty then none
  else
    some ⟨.info, "rulelang.compiler.conflicts",
      "Found " ++ toString issues.length ++ " static write conflict(s)", []⟩

/-- The issues of a program's clashes, unless one of them cannot be told. -/
def findClashes (program : Program) : Recorded Interruption (List Issue) :=
  let issues := clashIssues program.rules
  if clashesHaveText program.rules then ⟨.ok issues, (clashRecord? issues).toList.map .log⟩
  else Recorded.lift (.error .tooManyDigits)

end Rulebook
