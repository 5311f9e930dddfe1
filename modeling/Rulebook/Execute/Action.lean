import Rulebook.Check.Operand
import Rulebook.Evaluate.Condition
import Rulebook.Execute.Outcome
import Rulebook.Execute.Tracker

/-!
Applying actions.

An action is first planned against the facts, which decides what it would write or why
it is refused, and then committed. A dry run commits without writing, so both see the
same plan. Refused actions change nothing and are reported as issues; an action whose
refusal cannot be put into words ends the run.
-/

namespace Rulebook

/-! ### Sums -/

/-- An integer as a floating point number, if it is in range. -/
def floatOfInt? (n : Int) : Option Binary64 :=
  let x := Binary64.ofInt n
  if x.isFinite then some x else none

namespace Amount

/-- A number and an amount together. Two integers stay an integer. -/
def addTo (delta : Amount) : Value → Except Interruption Value
  | .int n =>
      match delta with
      | int d => .ok (.int (n + d))
      | float d => (floatOfInt? n).elim (.error .sumOutOfRange) fun x => .ok (.float (x.add d))
  | .float x =>
      match delta with
      | int d => (floatOfInt? d).elim (.error .sumOutOfRange) fun y => .ok (.float (x.add y))
      | float d => .ok (.float (x.add d))
  | _ => .ok delta.toValue

end Amount

/-! ### Plans -/

/-- What an action would do. -/
inductive Plan where
  /-- The check failed for the reason that the issue gives. -/
  | refuse (target : String) (issue : Issue)
  /-- A value is written to a field, with what is shown as its earlier value. -/
  | field (target : String) (before : Option Value) (after : Value) (issues : List Issue)
  /-- The route is replaced. -/
  | route (before : Option Value) (after : Value)
  /-- An event is sent. -/
  | event (name : String) (payload : Record)

def sourceMissing (task target : String) (source : Operand) (ruleId : String) : Issue :=
  { kind := .sourceMissing
    severity := .soft
    message := "Cannot " ++ task ++ " " ++ target ++ ": source " ++ source.path?.getD ""
      ++ " has no value"
    path := some target
    ruleIds := [ruleId]
    details := [] }

namespace Plan

/-- The checks of a value that is to be written: the target is declared, the type is the
declared one, and so is the unit. -/
def checkWrite (catalog : Catalog) (target : String) (value : Operand) :
    Except CheckFailure (Option Issue) := do
  let field ← catalog.resolve target
  let _ ← catalog.checkOperand value (some field.type)
  catalog.checkUnits value field (some target)

/-- A checked write of an operand's value. `task` names it in messages, and `apply` makes
the earlier value that is shown and the new one. -/
def ofOperand (catalog : Catalog) (store : Store) (ruleId task target : String)
    (value : Operand) (apply : Value → Option Value × Value) : Except Interruption Plan :=
  match checkWrite catalog target value with
  | .error .tooManyDigits => .error .tooManyDigits
  | .error (.reported e) => .ok (.refuse target (e.issue [ruleId]))
  | .ok unitIssue =>
      match value.resolve store with
      | none => .ok (.refuse target (sourceMissing task target value ruleId))
      | some v =>
          let (before, after) := apply v
          .ok (.field target before after (unitIssue.map (·.forRules [ruleId])).toList)

/-- Appending to what is no list starts a new one; nothing counts as the empty list. -/
def appended (current : Option Value) (v : Value) : Option Value × Value :=
  let before := current.getD (.list [])
  match before with
  | .list items => (some before, .list (items ++ [v]))
  | _ => (some before, .list [v])

/-- The route after a route action: other entries of the slot are kept. -/
def routed (before : Option Value) (queue : String) (reason : Option String) : Value :=
  let base :=
    match before with
    | some (.object fields) => fields
    | _ => []
  .object (Fields.set (.text "reason") (.ofText? reason)
    (Fields.set (.text "queue") (.text queue) base))

def ofAction (catalog : Catalog) (store : Store) (ruleId : String) :
    Action → Except Interruption Plan
  | .set target value =>
      ofOperand catalog store ruleId "set" target value fun v => (store.read target, v)
  | .append target value =>
      ofOperand catalog store ruleId "append to" target value (appended (store.read target))
  | .increment target delta =>
      match catalog.checkIncrement target with
      | .error e => .ok (.refuse target (e.issue [ruleId]))
      | .ok () => do
          let before := store.read target
          let after ← delta.addTo (before.getD .null)
          return .field target before after []
  | .emit name payload => .ok (.event name payload)
  | .route queue reason =>
      .ok (.route store.readRoute (routed store.readRoute queue reason))

end Plan

/-! ### Commitment -/

/-- What actions work on: the facts and who wrote them. -/
structure Workspace where
  store : Store
  tracker : WriteTracker

def isChange (before : Option Value) (after : Value) : Bool :=
  match before with
  | some v => !v.strictEq after
  | none => true

def conflictIssue (path ruleId message : String) : Issue :=
  { kind := .dynamicConflict
    severity := .soft
    message := message
    path := some path
    ruleIds := [ruleId]
    details := [] }

namespace Action

/-- The outcome of a write, given the warning that recording it gave. -/
def writeOutcome (action : Action) (live : Bool) (now : Writer) (path : String)
    (before : Option Value) (after : Value) (issues : List Issue)
    (conflict : Option String) : ActionOutcome :=
  { trace :=
      { actionId := now.actionId, ruleId := now.ruleId, action := action, applied := live,
        path := some path, before := shown before, after := after,
        conflict := conflict.isSome }
    diffs := if isChange before after then [⟨path, shown before, after⟩] else []
    log :=
      if live then
        some ⟨now.actionId, now.ruleId, action.kind, some path, none, shown before, after, none⟩
      else none
    warnings := issues.map (·.message) ++ conflict.toList
    issues := issues ++ (conflict.map (conflictIssue path now.ruleId)).toList
    conflict := conflict
    refused := false }

def refusedOutcome (action : Action) (now : Writer) (target : String) (current : Value)
    (issue : Issue) : ActionOutcome :=
  { trace :=
      { actionId := now.actionId, ruleId := now.ruleId, action := action, applied := false,
        path := some target, before := current, after := current, conflict := false }
    diffs := []
    log := none
    warnings := [issue.message]
    issues := [issue]
    conflict := none
    refused := true }

def eventOutcome (action : Action) (live : Bool) (now : Writer) (name : String)
    (payload : Record) : ActionOutcome :=
  { trace :=
      { actionId := now.actionId, ruleId := now.ruleId, action := action, applied := live,
        path := none, before := .null, after := .null, conflict := false }
    diffs := []
    log :=
      if live then
        some ⟨now.actionId, now.ruleId, action.kind, none, some name, .null, .null, some payload⟩
      else none
    warnings := []
    issues := []
    conflict := none
    refused := false }

/-- Carries a plan out; only a live run writes. -/
def commit (action : Action) (live : Bool) (workspace : Workspace) (now : Writer) :
    Plan → Except Interruption (ActionOutcome × Workspace)
  | .refuse target issue =>
      .ok (action.refusedOutcome now target (shown (workspace.store.read target)) issue,
        workspace)
  | .event name payload => .ok (action.eventOutcome live now name payload, workspace)
  | .field target before after issues => do
      let store ←
        if live then
          match workspace.store.write target after with
          | .ok (_, store) => pure store
          | .error e => throw (.store e)
        else pure workspace.store
      let (conflict, tracker) := workspace.tracker.record target now
      return (action.writeOutcome live now target before after issues conflict, ⟨store, tracker⟩)
  | .route before after =>
      let store := if live then workspace.store.writeRoute after else workspace.store
      let (conflict, tracker) := workspace.tracker.record routeSlot now
      .ok (action.writeOutcome live now routeSlot before after [] conflict, ⟨store, tracker⟩)

def apply (catalog : Catalog) (live : Bool) (workspace : Workspace) (action : Action)
    (now : Writer) : Except Interruption (ActionOutcome × Workspace) := do
  let plan ← Plan.ofAction catalog workspace.store now.ruleId action
  action.commit live workspace now plan

end Action

end Rulebook
