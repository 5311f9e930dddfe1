import Rulebook.Proofs.Run.Footprint
import Rulebook.Proofs.State.Reading

/-!
What a dry action says of a live one.

Both are planned alike, and they are interrupted only while they are planned. What they then do
differs in nothing but the store, the log and the note that the action was applied
(`Effect.predicted`), and the store of the live one reads at the action's cell what the dry one
has shown.
-/

namespace Rulebook

/-- A dry outcome and what it has left predict what a live action on the same store gives and
leaves. -/
structure Predicts (action : Action) (store : Store) (dry live : ActionOutcome)
    (dryNext liveNext : Workspace) : Prop where
  diffs : dry.diffs = live.diffs
  warnings : dry.warnings = live.warnings
  issues : dry.issues = live.issues
  conflict : dry.conflict = live.conflict
  trace : dry.trace = { live.trace with applied := dry.trace.applied }
  tracker : dryNext.tracker = liveNext.tracker
  unlogged : dry.log = none
  untouched : dryNext.store = store
  written : live.trace.applied = true →
    ∀ path ∈ action.writes, liveNext.store.reading path = some dry.trace.after

section Actions

variable {catalog : Catalog} {workspace next : Workspace} {action : Action} {now : Writer}
  {outcome : ActionOutcome}

/-- A dry write predicts a live one whose value is read in the action's cell. -/
theorem Action.writeOutcome_predicts {path : String} {before : Option Value} {after : Value}
    {issues : List Issue} {store : Store} {tracker : WriteTracker}
    (own : action.writes = [path]) (written : store.reading path = some after)
    (conflict : Option String) :
    Predicts action workspace.store
      (action.writeOutcome false now path before after issues conflict)
      (action.writeOutcome true now path before after issues conflict)
      ⟨workspace.store, tracker⟩ ⟨store, tracker⟩ := by
  refine ⟨rfl, rfl, rfl, rfl, rfl, rfl, rfl, rfl, fun _ => ?_⟩
  rw [own]
  exact List.forall_mem_singleton.mpr written

/-- Each effect of a live action has its dry counterpart, which predicts it. -/
theorem Effect.predicted (effect : Effect catalog true workspace action now outcome next) :
    ∃ dry dryNext, Effect catalog false workspace action now dry dryNext ∧
      Predicts action workspace.store dry outcome dryNext next := by
  cases effect with
  | refused planned =>
      exact ⟨_, _, .refused planned, rfl, rfl, rfl, rfl, rfl, rfl, rfl, rfl, nofun⟩
  | event planned =>
      refine ⟨_, _, .event planned, rfl, rfl, rfl, rfl, rfl, rfl, rfl, rfl, fun _ => ?_⟩
      cases Planned.of_eq planned with
      | event => exact fun _ member => nomatch member
  | field planned split =>
      have writes := Writes.of_planned planned
      exact ⟨_, _, .field planned split,
        Action.writeOutcome_predicts writes.writes_eq (Store.reading_writeField split _) _⟩
  | route planned =>
      refine ⟨_, _, .route planned, Action.writeOutcome_predicts ?_ ?_ _⟩
      · cases Planned.of_eq planned with
        | route => rfl
      · exact Store.reading_routeSlot.trans (Fields.get?_set_self ..)

end Actions

/-- A dry action is interrupted exactly as the live one is, or else it predicts what that one gives
and leaves. -/
theorem dry_action_predicts (catalog : Catalog) (workspace : Workspace) (action : Action)
    (now : Writer) :
    (∃ e, action.apply catalog false workspace now = .error e ∧
      action.apply catalog true workspace now = .error e) ∨
    ∃ dry dryNext live liveNext,
      action.apply catalog false workspace now = .ok (dry, dryNext) ∧
      action.apply catalog true workspace now = .ok (live, liveNext) ∧
      Predicts action workspace.store dry live dryNext liveNext := by
  cases applied : action.apply catalog true workspace now with
  | error e =>
      refine .inl ⟨e, ?_, rfl⟩
      rw [Action.apply_eq_error_iff] at applied ⊢
      exact applied
  | ok done =>
      obtain ⟨live, liveNext⟩ := done
      obtain ⟨dry, dryNext, effect, predicts⟩ := (Action.apply_eq_ok_iff.mp applied).predicted
      exact .inr ⟨dry, dryNext, live, liveNext, Action.apply_eq_ok_iff.mpr effect, rfl, predicts⟩

end Rulebook
