import Rulebook.Proofs.Run.Footprint
import Rulebook.Proofs.Run.Journal
import Rulebook.Proofs.Run.Visited

/-!
The same rule on another occasion.

What a rule does depends on what it reads and on what is held where it writes. Run again on
facts that are the same there, whatever else has been written meanwhile and by whom, it
matches or not as before and its actions do the same (`RuleRan.retold`). Only what tells of
the history differs: the numbers of the actions, and the warnings about earlier writers.
-/

namespace Rulebook

/-! ### Retold traces -/

/-- What an action did, without its number and without who has written before it. -/
def ActionTrace.bare (trace : ActionTrace) : ActionTrace :=
  { trace with actionId := "", conflict := false }

/-- A log entry without the number of its action. -/
def ActionLog.bare (log : ActionLog) : ActionLog := { log with actionId := "" }

/-- The warning about an earlier writer that goes with an action, if there is one. -/
inductive ActionTrace.Warns (trace : ActionTrace) : List String → Prop where
  | none : trace.conflict = false → Warns trace []
  | conflict {path prior} : trace.conflict = true → trace.path = some path →
      Warns trace [WriteTracker.conflictWarning path prior ⟨trace.ruleId, trace.actionId⟩]

/-- Two outcomes that differ in what tells of the history only. -/
structure ActionOutcome.Retold (a b : ActionOutcome) : Prop where
  trace : a.trace.bare = b.trace.bare
  diffs : a.diffs = b.diffs
  log : a.log.map ActionLog.bare = b.log.map ActionLog.bare
  warnings : ∃ own first second, a.trace.Warns first ∧ b.trace.Warns second ∧
    a.warnings = own ++ first ∧ b.warnings = own ++ second

/-! ### Actions -/

section Outcomes

variable {action : Action} {live : Bool} {now now' : Writer}

/-- A write warns of the writer before it and of nothing else. -/
theorem Action.writeOutcome_warns (tracker : WriteTracker) (path : String) (before : Option Value)
    (after : Value) (issues : List Issue) :
    (action.writeOutcome live now path before after issues
      (tracker.record path now).1).trace.Warns (tracker.record path now).1.toList := by
  cases writer : tracker.writer? path with
  | none =>
      have quiet : (tracker.record path now).1 = none := by rw [WriteTracker.record, writer]; rfl
      rw [quiet]
      exact .none rfl
  | some prior =>
      have warned : (tracker.record path now).1 =
          some (WriteTracker.conflictWarning path prior now) := by
        rw [WriteTracker.record, writer]
        rfl
      rw [warned]
      exact .conflict rfl rfl

/-- A write is told alike by writers of one rule, its conflict apart. -/
theorem Action.writeOutcome_retold (ruleId : now.ruleId = now'.ruleId)
    (tracker tracker' : WriteTracker) (path : String) (before : Option Value) (after : Value)
    (issues : List Issue) :
    (action.writeOutcome live now path before after issues (tracker.record path now).1).Retold
      (action.writeOutcome live now' path before after issues (tracker'.record path now').1) where
  trace := by simp [ActionTrace.bare, writeOutcome, ruleId]
  diffs := rfl
  log := by cases live <;> simp [ActionLog.bare, writeOutcome, ruleId]
  warnings := ⟨issues.map (·.message), _, _, writeOutcome_warns tracker path before after issues,
    writeOutcome_warns tracker' path before after issues, rfl, rfl⟩

/-- An action does the same where it finds the same facts. -/
theorem Effect.retold {catalog : Catalog} {workspace workspace' next : Workspace}
    {outcome : ActionOutcome} (effect : Effect catalog live workspace action now outcome next)
    (same : workspace.store.SameOn (action.reads ++ action.writes) workspace'.store)
    (ruleId : now.ruleId = now'.ruleId) :
    ∃ outcome' next', Effect catalog live workspace' action now' outcome' next' ∧
      outcome.Retold outcome' := by
  -- The plan is made from the footprint alone.
  have plans := @Plan.ofAction_congr catalog _ _ now.ruleId action same
  rw [ruleId] at plans
  cases effect with
  | @refused target issue planned =>
      have current := Store.read_congr
        (same target (List.mem_append_right _ (Plan.mem_writes_of_refuse planned)))
      rw [ruleId, plans] at planned
      refine ⟨_, _, .refused planned, ?_⟩
      rw [current]
      exact
        { trace := by simp [ActionTrace.bare, Action.refusedOutcome, ruleId]
          diffs := rfl
          log := rfl
          warnings := ⟨_, [], [], .none rfl, .none rfl, (List.append_nil _).symm,
            (List.append_nil _).symm⟩ }
  | event planned =>
      rw [ruleId, plans] at planned
      exact ⟨_, _, .event planned,
        { trace := by simp [ActionTrace.bare, Action.eventOutcome, ruleId]
          diffs := rfl
          log := by cases live <;> simp [ActionLog.bare, Action.eventOutcome, ruleId]
          warnings := ⟨[], [], [], .none rfl, .none rfl, rfl, rfl⟩ }⟩
  | field planned split =>
      rw [ruleId, plans] at planned
      exact ⟨_, _, .field planned split, Action.writeOutcome_retold ruleId _ _ _ _ _ _⟩
  | route planned =>
      rw [ruleId, plans] at planned
      exact ⟨_, _, .route planned, Action.writeOutcome_retold ruleId _ _ _ _ _ _⟩

end Outcomes

/-! ### What was written -/

def ActionLog.write? (log : ActionLog) : Option (String × Value) := log.path.map (·, log.after)

def writesOf (outcomes : List ActionOutcome) : List (String × Value) :=
  (journalOf outcomes).filterMap ActionLog.write?

/-- Redoing a log puts what it says. -/
theorem ActionLog.putAll_of_redo {store next : Store} {log : ActionLog}
    (redone : log.redo store = .ok next) : store.putAll log.write?.toList = next := by
  unfold ActionLog.redo at redone
  unfold ActionLog.write?
  cases path : log.path with
  | none =>
      rw [path] at redone
      exact Except.ok.inj redone
  | some target =>
      simp only [path] at redone
      show store.put target log.after = next
      by_cases slot : target = routeSlot
      · rw [if_pos slot] at redone
        rw [slot, Store.put_routeSlot]
        exact Except.ok.inj redone
      · rw [if_neg slot, Store.write] at redone
        cases split : splitPath? target with
        | none => simp [split, Except.map] at redone
        | some parts =>
            rw [Store.put_of_split store split]
            rw [split] at redone
            exact Except.ok.inj redone

/-- Replaying a journal puts its writes one after another. -/
theorem Store.putAll_of_replay {store after : Store} {journal : List ActionLog}
    (replayed : store.replay journal = .ok after) :
    store.putAll (journal.filterMap ActionLog.write?) = after := by
  induction journal generalizing store with
  | nil => exact Except.ok.inj replayed
  | cons log rest ih =>
      rw [Store.replay, List.foldlM_cons] at replayed
      obtain ⟨middle, redone, more⟩ := Except.bind_eq_ok_iff.mp replayed
      have writes : (log :: rest).filterMap ActionLog.write? =
          log.write?.toList ++ rest.filterMap ActionLog.write? := by
        cases write : log.write? <;> simp [write]
      rw [writes, Store.putAll_append, ActionLog.putAll_of_redo redone]
      exact ih more

/-- A live action puts what its log says. -/
theorem Effect.store_eq {catalog : Catalog} {workspace next : Workspace} {action : Action}
    {now : Writer} {outcome : ActionOutcome}
    (effect : Effect catalog true workspace action now outcome next) :
    next.store = workspace.store.putAll (writesOf [outcome]) := by
  rw [writesOf, journalOf_singleton]
  exact (Store.putAll_of_replay effect.replay_log).symm

/-- So a stretch of actions puts the writes of its journal. -/
theorem Journalled.store_eq {before after : Progress} {outcomes : List ActionOutcome}
    (journalled : Journalled before outcomes after) :
    after.workspace.store = before.workspace.store.putAll (writesOf outcomes) :=
  (Store.putAll_of_replay journalled.replayed).symm

/-- Actions that do the same write the same. -/
theorem writesOf_retold {outcomes outcomes' : List ActionOutcome}
    (retold : List.Forall₂ ActionOutcome.Retold outcomes outcomes') :
    writesOf outcomes = writesOf outcomes' := by
  induction retold with
  | nil => rfl
  | @cons a b rest rest' first _ ih =>
      have logs := first.log
      rw [writesOf, writesOf, journalOf, journalOf] at ih ⊢
      rw [List.filterMap_cons, List.filterMap_cons]
      cases one : a.log with
      | none =>
          cases two : b.log with
          | none => exact ih
          | some other => simp [one, two] at logs
      | some log =>
          cases two : b.log with
          | none => simp [one, two] at logs
          | some other =>
              simp only [one, two, Option.map_some, Option.some.injEq] at logs
              have same : log.write? = other.write? := by
                have path := congrArg ActionLog.path logs
                have after := congrArg ActionLog.after logs
                simp only [ActionLog.bare] at path after
                rw [ActionLog.write?, ActionLog.write?, path, after]
              simp only [List.filterMap_cons, same, ih]

/-! ### Rules -/

section Rules

variable {context : RunContext} (live : context.options.enableActions = true)

include live

/-- Actions do the same where they find the same facts. -/
theorem Applied.retold {ruleId : String} {actions : List Action} {before after again : Progress}
    {outcomes : List ActionOutcome} {paths : List String}
    (applied : Applied context ruleId actions before outcomes after)
    (same : before.workspace.store.SameOn paths again.workspace.store)
    (among : ∀ action ∈ actions, action.reads ++ action.writes ⊆ paths) :
    ∃ outcomes' after', Applied context ruleId actions again outcomes' after' ∧
      List.Forall₂ ActionOutcome.Retold outcomes outcomes' := by
  induction applied generalizing again with
  | done => exact ⟨[], again, .done again, .nil⟩
  | @step action rest before outcome workspace outcomes after acted _ ih =>
      obtain ⟨here, there⟩ := List.forall_mem_cons.mp among
      rw [RunContext.act, live, Action.apply_eq_ok_iff] at acted
      have redone : ∃ outcome' next, Effect context.catalog true again.workspace action
          ⟨ruleId, actionId (again.actionCount + 1)⟩ outcome' next ∧ outcome.Retold outcome' :=
        acted.retold (same.mono here) rfl
      obtain ⟨outcome', next, effect, retold⟩ := redone
      have actedAgain : context.act ruleId again action = .ok (outcome', next) := by
        rw [RunContext.act, live, Action.apply_eq_ok_iff]
        exact effect
      -- the same is written, so the stores still agree for the actions that follow
      have sameNext : Store.SameOn paths workspace.store next.store := by
        rw [acted.store_eq, effect.store_eq, writesOf_retold (.cons retold .nil)]
        exact same.putAll _
      obtain ⟨outcomes', after', applied', retoldRest⟩ :=
        @ih (again.acted next) sameNext there
      exact ⟨outcome' :: outcomes', after', .step actedAgain applied', .cons retold retoldRest⟩

/-- A rule does the same where it finds the same facts. -/
theorem RuleRan.retold {rule : Rule} {before after again : Progress} {why : ConditionTrace}
    {outcomes : List ActionOutcome} (ran : RuleRan context rule before why outcomes after)
    (same : before.workspace.store.SameOn (rule.reads ++ rule.writes) again.workspace.store) :
    ∃ outcomes' after', RuleRan context rule again why outcomes' after' ∧
      List.Forall₂ ActionOutcome.Retold outcomes outcomes' := by
  have evaluated : rule.condition.evaluate again.workspace.store = .ok why := by
    rw [← ran.evaluated]
    refine (Condition.evaluate_congr rule.condition fun path named => ?_).symm
    exact Store.read_congr
      (same path (List.mem_append_left _ (List.mem_append_left _ named)))
  have among : ∀ action ∈ rule.branch why.result,
      action.reads ++ action.writes ⊆ rule.reads ++ rule.writes := by
    intro action member path inside
    have whole := Rule.mem_actions_of_branch member
    rcases List.mem_append.mp inside with read | written
    · exact List.mem_append_left _ (List.mem_append_right _
        (List.mem_flatMap.mpr ⟨action, whole, read⟩))
    · exact List.mem_append_right _ (List.mem_flatMap.mpr ⟨action, whole, written⟩)
  -- Counting a firing does not touch the store.
  have sameCount : Store.SameOn (rule.reads ++ rule.writes)
      (before.count why.result).workspace.store (again.count why.result).workspace.store := by
    rwa [Progress.count_workspace, Progress.count_workspace]
  obtain ⟨outcomes', after', applied, retold⟩ := ran.applied.retold live sameCount among
  exact ⟨outcomes', after', ⟨evaluated, applied⟩, retold⟩

end Rules

/-! ### Entries -/

/-- The actions of two entries, together with their warnings, differ in what tells of the history
only. -/
inductive SameActions : List ActionTrace → List String → List ActionTrace → List String → Prop where
  | nil : SameActions [] [] [] []
  | cons {a b as bs own first second ws vs} :
      a.bare = b.bare → a.Warns first → b.Warns second → SameActions as ws bs vs →
      SameActions (a :: as) ((own ++ first) ++ ws) (b :: bs) ((own ++ second) ++ vs)

/-- The two entries tell the same about their rule, in whatever passes they are. -/
structure RuleTrace.Retold (a b : RuleTrace) : Prop where
  ruleId : a.ruleId = b.ruleId
  ruleName : a.ruleName = b.ruleName
  priority : a.priority = b.priority
  matched : a.matched = b.matched
  skipped : a.skipped = b.skipped
  why : a.why = b.why
  stateDiff : a.stateDiff = b.stateDiff
  stopProcessing : a.stopProcessing = b.stopProcessing
  actions : SameActions a.actionsApplied a.warnings b.actionsApplied b.warnings

/-- Retold outcomes apply the same actions. -/
theorem sameActions_of_retold {outcomes outcomes' : List ActionOutcome}
    (retold : List.Forall₂ ActionOutcome.Retold outcomes outcomes') :
    SameActions (outcomes.map (·.trace)) (outcomes.flatMap (·.warnings))
      (outcomes'.map (·.trace)) (outcomes'.flatMap (·.warnings)) := by
  induction retold with
  | nil => exact .nil
  | cons first _ ih =>
      obtain ⟨own, one, two, warns, warns', warnings, warnings'⟩ := first.warnings
      rw [List.map_cons, List.map_cons, List.flatMap_cons, List.flatMap_cons, warnings, warnings']
      exact .cons first.trace warns warns' ih

theorem diffs_of_retold {outcomes outcomes' : List ActionOutcome}
    (retold : List.Forall₂ ActionOutcome.Retold outcomes outcomes') :
    outcomes.flatMap (·.diffs) = outcomes'.flatMap (·.diffs) := by
  induction retold with
  | nil => rfl
  | cons first _ ih => rw [List.flatMap_cons, List.flatMap_cons, first.diffs, ih]

theorem RunContext.stepOf_retold {context : RunContext} {number : Nat}
    {outcomes outcomes' : List ActionOutcome}
    (retold : List.Forall₂ ActionOutcome.Retold outcomes outcomes') (number' : Nat) (rule : Rule)
    (why : ConditionTrace) :
    (context.stepOf number rule why outcomes).trace.Retold
      (context.stepOf number' rule why outcomes').trace where
  ruleId := rfl
  ruleName := rfl
  priority := rfl
  matched := rfl
  skipped := rfl
  why := rfl
  stateDiff := diffs_of_retold retold
  stopProcessing := rfl
  actions := sameActions_of_retold retold

end Rulebook
