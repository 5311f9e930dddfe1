import Rulebook.Report.Issue

/-!
What applying one action shows: its trace, the change it makes, and its log entry.
-/

namespace Rulebook

structure StateDiff where
  path : String
  before : Value
  after : Value
deriving DecidableEq

structure ActionTrace where
  actionId : String
  ruleId : String
  action : Action
  applied : Bool
  path : Option String
  before : Value
  after : Value
  conflict : Bool
deriving DecidableEq

structure ActionLog where
  actionId : String
  ruleId : String
  kind : String
  path : Option String
  event : Option String
  before : Value
  after : Value
  payload : Option Record
deriving DecidableEq

/-- All that applying an action gives. `refused` tells a write that failed its check. -/
structure ActionOutcome where
  trace : ActionTrace
  diffs : List StateDiff
  log : Option ActionLog
  warnings : List String
  issues : List Issue
  conflict : Option String
  refused : Bool
deriving DecidableEq

def ActionOutcome.mutated (outcome : ActionOutcome) : Bool :=
  outcome.trace.applied && !outcome.diffs.isEmpty

/-! ### As documents -/

def StateDiff.toValue (diff : StateDiff) : Value :=
  .record
    [("path", .text diff.path), ("before", diff.before.written),
     ("after", diff.after.written)]

def ActionTrace.toValue (trace : ActionTrace) : Value :=
  .record
    [("actionId", .text trace.actionId), ("ruleId", .text trace.ruleId),
     ("kind", .text trace.action.kind), ("action", trace.action.toValue),
     ("applied", .bool trace.applied), ("path", .ofText? trace.path),
     ("beforeValue", trace.before.written), ("afterValue", trace.after.written),
     ("conflict", .bool trace.conflict)]

def ActionLog.toValue (log : ActionLog) : Value :=
  .record
    [("actionId", .text log.actionId), ("ruleId", .text log.ruleId),
     ("kind", .text log.kind), ("path", .ofText? log.path), ("event", .ofText? log.event),
     ("before", log.before.written), ("after", log.after.written),
     ("payload", (log.payload.map Value.writtenRecord).getD .null)]

def ActionOutcome.toValue (outcome : ActionOutcome) : Value :=
  .record
    [("trace", outcome.trace.toValue),
     ("diffs", .list (outcome.diffs.map StateDiff.toValue)),
     ("log", (outcome.log.map ActionLog.toValue).getD .null),
     ("warnings", .texts outcome.warnings),
     ("issues", .list (outcome.issues.map Issue.toValue)),
     ("conflict", .ofText? outcome.conflict), ("mutated", .bool outcome.mutated)]

end Rulebook
