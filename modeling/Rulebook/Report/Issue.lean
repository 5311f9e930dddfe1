import Rulebook.Document.Written
import Rulebook.Document.Reader

/-!
Issues: what validation and execution report.

A `Fault` is a complaint as it arises, with a class, a message and free details; an
`Issue` is the record of one. The class of a fault decides the kind of its issue.
-/

namespace Rulebook

structure Issue where
  kind : IssueKind
  severity : IssueSeverity
  message : String
  path : Option String
  ruleIds : List String
  details : Record
deriving DecidableEq

def Issue.isHard (issue : Issue) : Bool := issue.severity == .hard

/-- The issue as one of these rules; an issue that names rules already keeps them. -/
def Issue.forRules (issue : Issue) (ruleIds : List String) : Issue :=
  if issue.ruleIds.isEmpty then { issue with ruleIds := ruleIds } else issue

def Issue.toValue (issue : Issue) : Value :=
  .record
    [("kind", .text issue.kind.spelling), ("severity", .text issue.severity.spelling),
     ("message", .text issue.message), ("path", .ofText? issue.path),
     ("ruleIds", .texts issue.ruleIds), ("details", .writtenRecord issue.details)]

inductive FaultClass where
  | general | validation | pathReference | typeMismatch | unitMismatch | conflict | compilation
deriving DecidableEq

def FaultClass.issueKind : FaultClass → IssueKind
  | pathReference => .reference
  | typeMismatch => .typeMismatch
  | unitMismatch => .unitMismatch
  | conflict => .staticConflict
  | validation | general | compilation => .duplicateDefinition

structure Fault where
  kind : FaultClass
  message : String
  details : Record
deriving DecidableEq

namespace Fault

def issueAt (fault : Fault) (path : Option String) (ruleIds : List String) : Issue :=
  ⟨fault.kind.issueKind, .hard, fault.message, path, ruleIds, fault.details⟩

/-- The hard issue of a fault with any details. Its path is the one among the details,
which must be a text if it is there. -/
def readIssue (fault : Fault) (ruleIds : List String) : Decoded Issue :=
  let path : Decoded (Option String) :=
    match Fields.get? "path" fault.details with
    | some v => (Reader.optional Reader.text v).within (.name "path")
    | none => .accepted none
  (fault.issueAt · ruleIds) <$> path

end Fault

end Rulebook
