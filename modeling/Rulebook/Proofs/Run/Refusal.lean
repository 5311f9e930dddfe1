import Rulebook.Proofs.Run.Effect
import Rulebook.Proofs.Validate.Operands

/-!
Refused and interrupted actions.

`Action.perform` applies an action to a workspace in place: the facts and the tracker are written
one after the other, and what is written before an interruption stays written. No action is
interrupted that late (`Action.perform_eq`), so an action that raises leaves the workspace as it
was, as one that is refused does. A session of actions therefore goes on after it as if it had
not been there (`rejection_is_atomic`).
-/

namespace Rulebook

/-! ### Actions in place -/

/-- Computations on a workspace in place. An interruption undoes nothing. -/
abbrev Acting := ExceptT Interruption (StateM Workspace)

def Acting.on {α : Type} (acting : Acting α) (workspace : Workspace) :
    Except Interruption α × Workspace :=
  (acting.run workspace).run

namespace Acting

section Results

variable {α β : Type} {workspace : Workspace}

/-- A second computation starts where the first one has ended, if that was not interrupted. -/
@[simp] theorem on_bind (acting : Acting α) (after : α → Acting β) :
    (acting >>= after).on workspace =
      match acting.on workspace with
      | (.ok a, left) => (after a).on left
      | (.error e, left) => (.error e, left) := by
  simp only [on, Id.run, bind, ExceptT.run, ExceptT.bind, ExceptT.mk, StateT.bind]
  cases acting workspace with
  | mk result left => cases result <;> rfl

@[simp] theorem on_map (acting : Acting α) (f : α → β) :
    (f <$> acting).on workspace =
      match acting.on workspace with
      | (.ok a, left) => (.ok (f a), left)
      | (.error e, left) => (.error e, left) := by
  rw [map_eq_pure_bind, on_bind]
  rfl

@[simp] theorem on_pure (a : α) : (pure a : Acting α).on workspace = (.ok a, workspace) := rfl

@[simp] theorem on_get : (get : Acting Workspace).on workspace = (.ok workspace, workspace) := rfl

@[simp] theorem on_modify (change : Workspace → Workspace) :
    (modify change : Acting Unit).on workspace = (.ok (), change workspace) := rfl

@[simp] theorem on_liftExcept (result : Except Interruption α) :
    (liftExcept result : Acting α).on workspace = (result, workspace) := by
  cases result <;> rfl

end Results

def writeField (path : String) (value : Value) : Acting Unit := do
  match (← get).store.write path value with
  | .ok (_, store) => modify fun workspace => { workspace with store := store }
  | .error e => throw (.store e)

def writeRoute (route : Value) : Acting Unit :=
  modify fun workspace => { workspace with store := workspace.store.writeRoute route }

def recordWrite (path : String) (now : Writer) : Acting (Option String) := do
  let (conflict, tracker) := (← get).tracker.record path now
  modify fun workspace => { workspace with tracker := tracker }
  return conflict

end Acting

namespace Action

/-- Applies an action in place: checks and values come first, then the write to the facts, and the
tracker is told last. -/
def perform (catalog : Catalog) (live : Bool) (action : Action) (now : Writer) :
    Acting ActionOutcome := do
  match ← liftExcept (Plan.ofAction catalog (← get).store now.ruleId action) with
  | .refuse target issue =>
      return action.refusedOutcome now target (shown ((← get).store.read target)) issue
  | .event name payload => return action.eventOutcome live now name payload
  | .field target before after issues =>
      if live then Acting.writeField target after
      let conflict ← Acting.recordWrite target now
      return action.writeOutcome live now target before after issues conflict
  | .route before after =>
      if live then Acting.writeRoute after
      let conflict ← Acting.recordWrite routeSlot now
      return action.writeOutcome live now routeSlot before after [] conflict

/-- In place, an action does what it does to the workspace, and an interruption comes before the
first write. -/
theorem perform_eq (catalog : Catalog) (live : Bool) (action : Action) (now : Writer)
    (workspace : Workspace) :
    (action.perform catalog live now).on workspace =
      match action.apply catalog live workspace now with
      | .ok (outcome, next) => (.ok outcome, next)
      | .error e => (.error e, workspace) := by
  cases planned : Plan.ofAction catalog workspace.store now.ruleId action with
  | error e =>
      rw [apply_eq_error_iff.mpr planned]
      simp [perform, planned]
  | ok plan =>
      cases plan with
      | refuse target issue =>
          rw [apply_eq_ok_iff.mpr (.refused planned)]
          simp [perform, planned]
      | event name payload =>
          rw [apply_eq_ok_iff.mpr (.event planned)]
          simp [perform, planned]
      | field target before after issues =>
          -- The check has resolved the path, so the write in place does not fail on it.
          obtain ⟨entity, name, split⟩ := (Writes.of_planned planned).splits
          rw [apply_eq_ok_iff.mpr (.field planned split)]
          cases live <;>
            simp [perform, planned, Acting.writeField, Acting.recordWrite, Store.write, split]
      | route before after =>
          rw [apply_eq_ok_iff.mpr (.route planned)]
          cases live <;> simp [perform, planned, Acting.writeRoute, Acting.recordWrite]

end Action

/-- Applies actions one after another. One that is interrupted is reported, and the next one goes
on from what it has left. -/
def performAll (catalog : Catalog) (live : Bool) :
    List (Action × Writer) → Workspace → List (Except Interruption ActionOutcome) × Workspace
  | [], workspace => ([], workspace)
  | (action, now) :: later, workspace =>
      let (result, left) := (action.perform catalog live now).on workspace
      let (results, final) := performAll catalog live later left
      (result :: results, final)

/-! ### Failed checks -/

/-- What an action is refused for: its target is malformed or not declared, its value is reported to
have another type or unit than the target or to be taken from a path that is not declared, it
increments what is no number, or it takes its value from a fact that has none. -/
inductive Action.FailsCheck (catalog : Catalog) (store : Store) (action : Action) : Prop where
  | target {path : String} {e : CheckError} : action.target? = some path →
      catalog.resolve path = .error e → FailsCheck catalog store action
  | type {path : String} {decl : FieldDecl} {value : Operand} :
      action.target? = some path → catalog.resolve path = .ok decl →
      action.operand? = some value → Reported (catalog.checkOperand value (some decl.type)) →
      FailsCheck catalog store action
  | units {path : String} {decl : FieldDecl} {value : Operand} :
      action.target? = some path → catalog.resolve path = .ok decl →
      action.operand? = some value → Reported (catalog.checkUnits value decl (some path)) →
      FailsCheck catalog store action
  | notNumber {path : String} {delta : Amount} {decl : FieldDecl} :
      action = .increment path delta → catalog.resolve path = .ok decl → decl.type ≠ .number →
      FailsCheck catalog store action
  | source {value : Operand} : action.operand? = some value → value.resolve store = none →
      FailsCheck catalog store action

section Checks

variable {catalog : Catalog} {store : Store} {action : Action} {target : String} {value : Operand}

/-- Where the check of the type cannot name its operand, neither can the one of the unit. -/
theorem Catalog.not_reported_checkUnits {decl : FieldDecl} {path : Option String}
    {type : ScalarType}
    (unnamed : catalog.checkOperand value (some type) = .error .tooManyDigits) :
    ¬ Reported (catalog.checkUnits value decl path) := by
  have textless := (checkOperand_tooManyDigits_iff.mp unnamed).1
  cases value with
  | fact ref => cases textless
  | literal literal units =>
      rw [checkUnits_reported_iff .literal, textless]
      simp

/-- A write is checked for its target, then for its type, then for its unit. -/
theorem Plan.checkWrite_reported_iff :
    Reported (checkWrite catalog target value) ↔
      (∃ e, catalog.resolve target = .error e) ∨
        ∃ decl, catalog.resolve target = .ok decl ∧
          (Reported (catalog.checkOperand value (some decl.type)) ∨
            Reported (catalog.checkUnits value decl (some target))) := by
  cases resolved : catalog.resolve target with
  | error e => simp [checkWrite, resolved, bind, Except.bind]
  | ok decl =>
      simp only [checkWrite, resolved, CheckFailure.liftM_ok, bind, Except.bind, reduceCtorEq,
        exists_false, false_or, Except.ok.injEq, exists_eq_left']
      rcases typed : catalog.checkOperand value (some decl.type) with (e | _) | type
      · simp
      · simp [Catalog.not_reported_checkUnits typed]
      · simp

/-- An increment fails its check on what is not declared or holds no numbers. -/
theorem Catalog.checkIncrement_fails_iff :
    (∃ e, catalog.checkIncrement target = .error e) ↔
      (∃ e, catalog.resolve target = .error e) ∨
        ∃ decl, catalog.resolve target = .ok decl ∧ decl.type ≠ .number := by
  cases resolved : catalog.resolve target with
  | error e => simp [checkIncrement, resolved, bind, Except.bind]
  | ok decl =>
      by_cases number : decl.type = .number <;>
        simp [checkIncrement, resolved, number, bind, Except.bind, pure, Except.pure, throw,
          throwThe, MonadExceptOf.throw]

/-- An action that writes an operand's value fails a check of the operand, or finds no value. -/
theorem Action.failsCheck_operand_iff (goal : action.target? = some target)
    (operand : action.operand? = some value) :
    action.FailsCheck catalog store ↔
      Reported (Plan.checkWrite catalog target value) ∨ value.resolve store = none := by
  rw [Plan.checkWrite_reported_iff]
  constructor
  · intro fails
    cases fails with
    | target path unresolved =>
        cases goal.symm.trans path
        exact .inl (.inl ⟨_, unresolved⟩)
    | type path resolved written failed =>
        cases goal.symm.trans path
        cases operand.symm.trans written
        exact .inl (.inr ⟨_, resolved, .inl failed⟩)
    | units path resolved written failed =>
        cases goal.symm.trans path
        cases operand.symm.trans written
        exact .inl (.inr ⟨_, resolved, .inr failed⟩)
    | notNumber increments =>
        rw [increments] at operand
        cases operand
    | source written absent =>
        cases operand.symm.trans written
        exact .inr absent
  · rintro ((⟨e, unresolved⟩ | ⟨decl, resolved, failed | failed⟩) | absent)
    · exact .target goal unresolved
    · exact .type goal resolved operand failed
    · exact .units goal resolved operand failed
    · exact .source operand absent

/-- An action is refused exactly if it fails a check. -/
theorem Action.failsCheck_iff_refuses :
    action.FailsCheck catalog store ↔ Refuses catalog store action := by
  cases action with
  | set target value =>
      rw [failsCheck_operand_iff rfl rfl]
      exact ⟨.set, fun refuses => by cases refuses; assumption⟩
  | append target value =>
      rw [failsCheck_operand_iff rfl rfl]
      exact ⟨.append, fun refuses => by cases refuses; assumption⟩
  | increment target delta =>
      have refuses : Refuses catalog store (.increment target delta) ↔
          ∃ e, catalog.checkIncrement target = .error e :=
        ⟨fun | .increment failed => ⟨_, failed⟩, fun ⟨_, failed⟩ => .increment failed⟩
      rw [refuses, Catalog.checkIncrement_fails_iff]
      constructor
      · rintro (⟨path, unresolved⟩ | ⟨_, _, written, _⟩ | ⟨_, _, written, _⟩ |
          ⟨increments, resolved, other⟩ | ⟨written, _⟩)
        · cases path
          exact .inl ⟨_, unresolved⟩
        · cases written
        · cases written
        · cases increments
          exact .inr ⟨_, resolved, other⟩
        · cases written
      · rintro (⟨e, unresolved⟩ | ⟨decl, resolved, other⟩)
        · exact .target rfl unresolved
        · exact .notNumber rfl resolved other
  | emit event payload =>
      exact ⟨fun fails => by cases fails <;> contradiction, nofun⟩
  | route queue reason =>
      exact ⟨fun fails => by cases fails <;> contradiction, nofun⟩

end Checks

/-! ### Rejections -/

/-- What is told of an action that is refused: one issue, whose message is the only warning, and no
effect at all. -/
structure ActionOutcome.Rejected (outcome : ActionOutcome) : Prop where
  unapplied : outcome.trace.applied = false
  unchanged : outcome.trace.before = outcome.trace.after
  diffs : outcome.diffs = []
  log : outcome.log = none
  conflict : outcome.conflict = none
  unconflicted : outcome.trace.conflict = false
  issue : ∃ issue, outcome.issues = [issue] ∧ outcome.warnings = [issue.message]

section Rejections

variable {catalog : Catalog} {live : Bool} {workspace : Workspace} {action : Action} {now : Writer}

/-- Every refusal is a rejection: an issue, no change and no log. -/
theorem Refuses.rejected (refuses : Refuses catalog workspace.store action) :
    ∃ outcome, action.apply catalog live workspace now = .ok (outcome, workspace) ∧
      outcome.Rejected := by
  obtain ⟨target, issue, planned⟩ := refuses.planned
  refine ⟨_, Action.apply_eq_ok_iff.mpr (.refused planned), ?_⟩
  exact ⟨rfl, rfl, rfl, rfl, rfl, rfl, issue, rfl, rfl⟩

/-- An action that is interrupted leaves the workspace as it was. -/
theorem Action.left_of_interrupted {e : Interruption}
    (interrupted : ((action.perform catalog live now).on workspace).1 = .error e) :
    ((action.perform catalog live now).on workspace).2 = workspace := by
  rw [Action.perform_eq] at interrupted ⊢
  cases applied : action.apply catalog live workspace now with
  | error e => rfl
  | ok done => simp [applied] at interrupted

/-- After an action that leaves the workspace as it was, others do as they would without it. -/
theorem performAll_of_left (left : ((action.perform catalog live now).on workspace).2 = workspace)
    (later : List (Action × Writer)) :
    performAll catalog live ((action, now) :: later) workspace =
      (((action.perform catalog live now).on workspace).1 ::
          (performAll catalog live later workspace).1,
        (performAll catalog live later workspace).2) := by
  simp only [performAll, left]

end Rejections

/-- An action that fails a check or is interrupted leaves the facts and the tracker as they were, so
that whatever comes later does as if the action had never been applied. One that fails a check is
told of by one issue and has no effect. -/
theorem rejection_is_atomic (catalog : Catalog) (live : Bool) (workspace : Workspace)
    (action : Action) (now : Writer)
    (rejected : action.FailsCheck catalog workspace.store ∨
      ∃ e, ((action.perform catalog live now).on workspace).1 = .error e) :
    ((action.perform catalog live now).on workspace).2 = workspace ∧
      (∀ later, performAll catalog live ((action, now) :: later) workspace =
        (((action.perform catalog live now).on workspace).1 ::
            (performAll catalog live later workspace).1,
          (performAll catalog live later workspace).2)) ∧
      (action.FailsCheck catalog workspace.store → ∃ outcome,
        (action.perform catalog live now).on workspace = (.ok outcome, workspace) ∧
          outcome.Rejected) := by
  have refused : action.FailsCheck catalog workspace.store → ∃ outcome,
      (action.perform catalog live now).on workspace = (.ok outcome, workspace) ∧
        outcome.Rejected := by
    intro fails
    obtain ⟨outcome, applied, told⟩ := (Action.failsCheck_iff_refuses.mp fails).rejected
    exact ⟨outcome, by rw [Action.perform_eq, applied], told⟩
  -- Whether rejected or interrupted, the action has not written yet.
  have left : ((action.perform catalog live now).on workspace).2 = workspace := by
    rcases rejected with fails | ⟨e, interrupted⟩
    · obtain ⟨outcome, done, _⟩ := refused fails
      rw [done]
    · exact Action.left_of_interrupted interrupted
  exact ⟨left, performAll_of_left left, refused⟩

/-- A parcel that has its weight in a unit and its gross weight in none. -/
def parcelCatalog : Catalog :=
  ⟨[⟨"parcel", [⟨"weight", .number, some "kg", none⟩, ⟨"gross", .number, none, none⟩], none⟩]⟩

/-- A weight is taken from a gross weight that is not there. Its missing unit has been found before,
and still the increment that follows is the first write. -/
theorem unweighed_parcel_rejected :
    (∃ issue, Plan.checkWrite parcelCatalog "parcel.weight" (.fact ⟨"parcel.gross", none⟩) =
      .ok (some issue)) ∧
    ∃ refused raised final,
      performAll parcelCatalog true
        [(.set "parcel.weight" (.fact ⟨"parcel.gross", none⟩), ⟨"weigh", "act-1"⟩),
          (.increment "parcel.weight" (.int 2), ⟨"raise", "act-2"⟩)] ⟨⟨[]⟩, .empty⟩ =
        ([.ok refused, .ok raised], final) ∧
      refused.Rejected ∧ raised.conflict = none := by
  obtain ⟨_, later, told⟩ := rejection_is_atomic parcelCatalog true ⟨⟨[]⟩, .empty⟩
    (.set "parcel.weight" (.fact ⟨"parcel.gross", none⟩)) ⟨"weigh", "act-1"⟩
    (.inl (.source rfl rfl))
  obtain ⟨refused, done, rejected⟩ := told (.source rfl rfl)
  obtain ⟨raised, final, next, free⟩ : ∃ raised final,
      performAll parcelCatalog true [(.increment "parcel.weight" (.int 2), ⟨"raise", "act-2"⟩)]
        ⟨⟨[]⟩, .empty⟩ = ([.ok raised], final) ∧ raised.conflict = none := ⟨_, _, rfl, rfl⟩
  exact ⟨⟨_, rfl⟩, refused, raised, final, by rw [later, done, next], rejected, free⟩

end Rulebook
