import Rulebook.Execute.Action
import Rulebook.Proofs.Check.Units
import Rulebook.Proofs.State.Cells

/-!
What applying an action does.

`Effect` has one constructor for each way in which an action ends: refused, sent as an
event, written to a field, written to the route. `apply_eq_ok_iff` says that these are all
of them, and `apply_eq_error_iff` that an action is interrupted only while its value is
worked out: a path that the catalog resolves is one that can be written.
-/

namespace Rulebook

/-! ### Targets -/

/-- A declared path is a path. -/
theorem Catalog.splitPath?_of_resolve {catalog : Catalog} {path : String} {decl : FieldDecl}
    (resolved : catalog.resolve path = .ok decl) :
    ∃ entity field, splitPath? path = some (entity, field) := by
  unfold Catalog.resolve at resolved
  split at resolved
  · cases resolved
  · rename_i entity field split
    exact ⟨entity, field, split⟩

namespace Plan

variable {catalog : Catalog} {store : Store} {ruleId task target : String} {value : Operand}

/-- A checked write goes to a declared target. -/
theorem checkWrite_resolves {issue : Option Issue}
    (checked : checkWrite catalog target value = .ok issue) :
    ∃ decl, catalog.resolve target = .ok decl := by
  cases resolved : catalog.resolve target with
  | error e => simp [checkWrite, resolved, bind, Except.bind] at checked
  | ok decl => exact ⟨decl, rfl⟩

theorem checkIncrement_resolves (checked : catalog.checkIncrement target = .ok ()) :
    ∃ decl, catalog.resolve target = .ok decl := by
  cases resolved : catalog.resolve target with
  | error e => simp [Catalog.checkIncrement, resolved, bind, Except.bind] at checked
  | ok decl => exact ⟨decl, rfl⟩

/-- A check of a write ends without a verdict where its value cannot be named and does not
belong in the field. -/
theorem checkWrite_tooManyDigits_iff :
    checkWrite catalog target value = .error .tooManyDigits ↔
      ∃ decl, catalog.resolve target = .ok decl ∧ value.hasText = false ∧
        value.Misfit catalog decl := by
  cases resolved : catalog.resolve target with
  | error e => simp [checkWrite, resolved, bind, Except.bind]
  | ok decl =>
      simp only [checkWrite, resolved, CheckFailure.liftM_ok, bind, Except.bind,
        Except.ok.injEq, exists_eq_left']
      cases checked : catalog.checkOperand value (some decl.type) with
      | ok type =>
          have fits := (Catalog.checkOperand_eq_ok_iff.mp checked).2
          simp only [Catalog.checkUnits_tooManyDigits_iff fits, Operand.Misfit, fits,
            not_true_eq_false, false_or]
      | error failure =>
          have unfit : ¬ value.Fits catalog decl.type := fun fits => by
            cases checked.symm.trans (Catalog.checkOperand_eq_ok_iff.mpr ⟨rfl, fits⟩)
          have ends := @Catalog.checkOperand_tooManyDigits_iff catalog value decl.type
          rw [checked] at ends
          simpa [Operand.Misfit, unfit] using ends

/-- An operand's value is written where it is checked and has a value. -/
theorem ofOperand_eq_ok {apply : Value → Option Value × Value} {issue : Option Issue} {v : Value}
    (checked : checkWrite catalog target value = .ok issue)
    (resolved : value.resolve store = some v) :
    ofOperand catalog store ruleId task target value apply =
      .ok (.field target (apply v).1 (apply v).2 (issue.map (·.forRules [ruleId])).toList) := by
  simp only [ofOperand, checked, resolved]

/-- The write is refused where its check is reported or there is no value. -/
theorem ofOperand_blocked {apply : Value → Option Value × Value}
    (blocked : Reported (checkWrite catalog target value) ∨ value.resolve store = none) :
    ∃ issue,
      ofOperand catalog store ruleId task target value apply = .ok (.refuse target issue) := by
  unfold ofOperand
  rcases checked : checkWrite catalog target value with (e | _) | issue
  · exact ⟨_, rfl⟩
  · -- only a literal cannot be named, and a literal has a value
    obtain ⟨_, _, unnamed, _⟩ := checkWrite_tooManyDigits_iff.mp checked
    rcases blocked with reported | absent
    · simp [checked] at reported
    · cases value with
      | fact ref => cases unnamed
      | literal => cases absent
  · rcases blocked with reported | absent
    · simp [checked] at reported
    · rw [absent]
      exact ⟨_, rfl⟩

theorem ofOperand_interrupted {apply : Value → Option Value × Value}
    (checked : checkWrite catalog target value = .error .tooManyDigits) :
    ofOperand catalog store ruleId task target value apply = .error .tooManyDigits := by
  simp only [ofOperand, checked]

/-- A write is refused, fails while its value is checked, or is planned. -/
theorem ofOperand_cases (catalog : Catalog) (store : Store) (target : String) (value : Operand) :
    (Reported (checkWrite catalog target value) ∨ value.resolve store = none) ∨
      checkWrite catalog target value = .error .tooManyDigits ∨
      ∃ issue v, checkWrite catalog target value = .ok issue ∧ value.resolve store = some v := by
  rcases checked : checkWrite catalog target value with (e | _) | issue
  · exact .inl (.inl ⟨e, rfl⟩)
  · exact .inr (.inl rfl)
  · cases resolved : value.resolve store with
    | none => exact .inl (.inr rfl)
    | some v => exact .inr (.inr ⟨issue, v, rfl, rfl⟩)

theorem ofAction_set : ofAction catalog store ruleId (.set target value) =
    ofOperand catalog store ruleId "set" target value fun v => (store.read target, v) :=
  rfl

theorem ofAction_append : ofAction catalog store ruleId (.append target value) =
    ofOperand catalog store ruleId "append to" target value
      (appended (store.read target)) :=
  rfl

/-- The plan of an increment that passes its check. -/
theorem ofAction_increment {delta : Amount} (checked : catalog.checkIncrement target = .ok ()) :
    ofAction catalog store ruleId (.increment target delta) =
      (delta.addTo ((store.read target).getD .null)).map fun after =>
        .field target (store.read target) after [] := by
  simp only [ofAction, checked]
  rfl

theorem ofAction_increment_refused {delta : Amount} {e : CheckError}
    (failed : catalog.checkIncrement target = .error e) :
    ofAction catalog store ruleId (.increment target delta) =
      .ok (.refuse target (e.issue [ruleId])) := by
  simp only [ofAction, failed]

end Plan

/-- The ways in which an action comes to write a field: the target and what is written, with
what is shown as its earlier value. -/
inductive Writes (catalog : Catalog) (store : Store) (ruleId : String) :
    Action → String → Option Value → Value → List Issue → Prop where
  | set {target value issue v} :
      Plan.checkWrite catalog target value = .ok issue → value.resolve store = some v →
      Writes catalog store ruleId (.set target value) target (store.read target) v
        (issue.map (·.forRules [ruleId])).toList
  | append {target value issue v} :
      Plan.checkWrite catalog target value = .ok issue → value.resolve store = some v →
      Writes catalog store ruleId (.append target value) target
        (Plan.appended (store.read target) v).1 (Plan.appended (store.read target) v).2
        (issue.map (·.forRules [ruleId])).toList
  | increment {target delta after} :
      catalog.checkIncrement target = .ok () →
      delta.addTo ((store.read target).getD .null) = .ok after →
      Writes catalog store ruleId (.increment target delta) target (store.read target) after []

/-- The ways in which an action is refused. -/
inductive Refuses (catalog : Catalog) (store : Store) : Action → Prop where
  | set {target value} :
      Reported (Plan.checkWrite catalog target value) ∨ value.resolve store = none →
      Refuses catalog store (.set target value)
  | append {target value} :
      Reported (Plan.checkWrite catalog target value) ∨ value.resolve store = none →
      Refuses catalog store (.append target value)
  | increment {target delta e} :
      catalog.checkIncrement target = .error e → Refuses catalog store (.increment target delta)

/-- The ways in which a plan is made. -/
inductive Planned (catalog : Catalog) (store : Store) (ruleId : String) :
    Action → Plan → Prop where
  | refuse {action target issue} :
      Refuses catalog store action → Planned catalog store ruleId action (.refuse target issue)
  | field {action target before after issues} :
      Writes catalog store ruleId action target before after issues →
      Planned catalog store ruleId action (.field target before after issues)
  | route {queue reason} :
      Planned catalog store ruleId (.route queue reason)
        (.route store.readRoute (Plan.routed store.readRoute queue reason))
  | event {name payload} :
      Planned catalog store ruleId (.emit name payload) (.event name payload)

section Plans

variable {catalog : Catalog} {store : Store} {ruleId : String} {action : Action}

theorem Writes.planned {target : String} {before : Option Value} {after : Value}
    {issues : List Issue} (writes : Writes catalog store ruleId action target before after issues) :
    Plan.ofAction catalog store ruleId action = .ok (.field target before after issues) := by
  cases writes with
  | set checked resolved =>
      rw [Plan.ofAction_set, Plan.ofOperand_eq_ok checked resolved]
  | append checked resolved =>
      rw [Plan.ofAction_append, Plan.ofOperand_eq_ok checked resolved]
  | increment checked sum =>
      rw [Plan.ofAction_increment checked, sum]
      rfl

theorem Refuses.planned (refuses : Refuses catalog store action) :
    ∃ target issue, Plan.ofAction catalog store ruleId action = .ok (.refuse target issue) := by
  cases refuses with
  | set blocked =>
      rw [Plan.ofAction_set]
      exact ⟨_, Plan.ofOperand_blocked blocked⟩
  | append blocked =>
      rw [Plan.ofAction_append]
      exact ⟨_, Plan.ofOperand_blocked blocked⟩
  | increment failed => exact ⟨_, _, Plan.ofAction_increment_refused failed⟩

/-- Every plan is made in one of these ways. -/
theorem Planned.of_eq {plan : Plan}
    (planned : Plan.ofAction catalog store ruleId action = .ok plan) :
    Planned catalog store ruleId action plan := by
  cases action with
  | set target value =>
      rcases Plan.ofOperand_cases catalog store target value with
        blocked | checked | ⟨issue, v, checked, resolved⟩
      · obtain ⟨issue, refused⟩ := @Plan.ofOperand_blocked catalog store ruleId "set" target value
          (fun v => (store.read target, v)) blocked
        rw [Plan.ofAction_set, refused] at planned
        cases planned
        exact .refuse (.set blocked)
      · rw [Plan.ofAction_set, Plan.ofOperand_interrupted checked] at planned
        cases planned
      · have writes := @Writes.set catalog store ruleId target value issue v checked resolved
        rw [← Except.ok.inj (writes.planned.symm.trans planned)]
        exact .field writes
  | append target value =>
      rcases Plan.ofOperand_cases catalog store target value with
        blocked | checked | ⟨issue, v, checked, resolved⟩
      · obtain ⟨issue, refused⟩ := @Plan.ofOperand_blocked catalog store ruleId "append to" target
          value (Plan.appended (store.read target)) blocked
        rw [Plan.ofAction_append, refused] at planned
        cases planned
        exact .refuse (.append blocked)
      · rw [Plan.ofAction_append, Plan.ofOperand_interrupted checked] at planned
        cases planned
      · have writes := @Writes.append catalog store ruleId target value issue v checked resolved
        rw [← Except.ok.inj (writes.planned.symm.trans planned)]
        exact .field writes
  | increment target delta =>
      cases checked : catalog.checkIncrement target with
      | error e =>
          rw [Plan.ofAction_increment_refused checked] at planned
          cases planned
          exact .refuse (.increment checked)
      | ok _ =>
          cases sum : delta.addTo ((store.read target).getD .null) with
          | error e =>
              rw [Plan.ofAction_increment checked, sum] at planned
              cases planned
          | ok after =>
              have writes := @Writes.increment catalog store ruleId target delta after checked sum
              rw [← Except.ok.inj (writes.planned.symm.trans planned)]
              exact .field writes
  | route queue reason =>
      cases planned
      exact .route
  | emit name payload =>
      cases planned
      exact .event

theorem Writes.of_planned {target : String} {before : Option Value} {after : Value}
    {issues : List Issue}
    (planned : Plan.ofAction catalog store ruleId action =
      .ok (.field target before after issues)) :
    Writes catalog store ruleId action target before after issues := by
  cases Planned.of_eq planned with
  | field writes => exact writes

theorem Writes.target?_eq {target : String} {before : Option Value} {after : Value}
    {issues : List Issue} (writes : Writes catalog store ruleId action target before after issues) :
    action.target? = some target := by
  cases writes <;> rfl

/-- What is written to a field has a declared target. -/
theorem Writes.declared {target : String} {before : Option Value} {after : Value}
    {issues : List Issue} (writes : Writes catalog store ruleId action target before after issues) :
    ∃ decl, catalog.resolve target = .ok decl := by
  cases writes with
  | set checked => exact Plan.checkWrite_resolves checked
  | append checked => exact Plan.checkWrite_resolves checked
  | increment checked => exact Plan.checkIncrement_resolves checked

/-- What is written to a field has a path of a field as its target. -/
theorem Writes.splits {target : String} {before : Option Value} {after : Value}
    {issues : List Issue} (writes : Writes catalog store ruleId action target before after issues) :
    ∃ entity field, splitPath? target = some (entity, field) := by
  obtain ⟨decl, resolved⟩ := writes.declared
  exact Catalog.splitPath?_of_resolve resolved

end Plans

/-! ### Effects -/

/-- The ways in which applying an action ends. -/
inductive Effect (catalog : Catalog) (live : Bool) (workspace : Workspace) (action : Action)
    (now : Writer) : ActionOutcome → Workspace → Prop where
  | refused {target issue} :
      Plan.ofAction catalog workspace.store now.ruleId action = .ok (.refuse target issue) →
      Effect catalog live workspace action now
        (action.refusedOutcome now target (shown (workspace.store.read target)) issue) workspace
  | event {name payload} :
      Plan.ofAction catalog workspace.store now.ruleId action = .ok (.event name payload) →
      Effect catalog live workspace action now (action.eventOutcome live now name payload)
        workspace
  | field {target entity name before after issues} :
      Plan.ofAction catalog workspace.store now.ruleId action =
        .ok (.field target before after issues) →
      splitPath? target = some (entity, name) →
      Effect catalog live workspace action now
        (action.writeOutcome live now target before after issues
          (workspace.tracker.record target now).1)
        ⟨if live then workspace.store.writeField entity name after else workspace.store,
          (workspace.tracker.record target now).2⟩
  | route {before after} :
      Plan.ofAction catalog workspace.store now.ruleId action = .ok (.route before after) →
      Effect catalog live workspace action now
        (action.writeOutcome live now routeSlot before after []
          (workspace.tracker.record routeSlot now).1)
        ⟨if live then workspace.store.writeRoute after else workspace.store,
          (workspace.tracker.record routeSlot now).2⟩

namespace Action

variable {catalog : Catalog} {live : Bool} {workspace : Workspace} {action : Action}
  {now : Writer}

/-- Committing a planned field writes it and tells what was written. -/
theorem commit_field {target entity name : String} {before : Option Value} {after : Value}
    {issues : List Issue} (split : splitPath? target = some (entity, name)) :
    action.commit live workspace now (.field target before after issues) =
      .ok (action.writeOutcome live now target before after issues
          (workspace.tracker.record target now).1,
        ⟨if live then workspace.store.writeField entity name after else workspace.store,
          (workspace.tracker.record target now).2⟩) := by
  cases live with
  | true => simp [commit, Store.write, split, bind, Except.bind, pure, Except.pure]
  | false => simp [commit, bind, Except.bind, pure, Except.pure]

/-- What an action does is one of its effects, and each of them is done. -/
theorem apply_eq_ok_iff {outcome : ActionOutcome} {next : Workspace} :
    action.apply catalog live workspace now = .ok (outcome, next) ↔
      Effect catalog live workspace action now outcome next := by
  constructor
  · intro applied
    cases planned : Plan.ofAction catalog workspace.store now.ruleId action with
    | error e => simp [apply, planned, bind, Except.bind] at applied
    | ok plan =>
        simp only [apply, planned, bind, Except.bind] at applied
        cases plan with
        | refuse target issue =>
            cases applied
            exact .refused planned
        | event name payload =>
            cases applied
            exact .event planned
        | field target before after issues =>
            obtain ⟨entity, name, split⟩ := (Writes.of_planned planned).splits
            rw [commit_field split] at applied
            cases applied
            exact .field planned split
        | route before after =>
            cases applied
            exact .route planned
  · intro effect
    cases effect with
    | refused planned => simp [apply, planned, bind, Except.bind, commit]
    | event planned => simp [apply, planned, bind, Except.bind, commit]
    | field planned split => simp [apply, planned, bind, Except.bind, commit_field split]
    | route planned => simp [apply, planned, bind, Except.bind, commit]

/-- An action is interrupted only while its plan is made. -/
theorem apply_eq_error_iff {interruption : Interruption} :
    action.apply catalog live workspace now = .error interruption ↔
      Plan.ofAction catalog workspace.store now.ruleId action = .error interruption := by
  cases planned : Plan.ofAction catalog workspace.store now.ruleId action with
  | error e => simp [apply, planned, bind, Except.bind]
  | ok plan =>
      simp only [apply, planned, bind, Except.bind, reduceCtorEq, iff_false]
      cases plan with
      | field target before after issues =>
          obtain ⟨entity, name, split⟩ := (Writes.of_planned planned).splits
          simp [commit_field split]
      | _ => simp [commit]

/-- A write has changed the facts when it was a live one and the values differ. -/
theorem writeOutcome_mutated {path : String} {before : Option Value} {after : Value}
    {issues : List Issue} {conflict : Option String} :
    (action.writeOutcome live now path before after issues conflict).mutated =
      (live && isChange before after) := by
  unfold ActionOutcome.mutated writeOutcome
  cases isChange before after <;> rfl

end Action

end Rulebook
