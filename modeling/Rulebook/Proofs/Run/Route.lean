import Rulebook.Proofs.Run.Acted
import Rulebook.Proofs.Run.Calm
import Rulebook.Validate.Verdict

/-!
The slot of the route.

The slot shares one map with the entities, and no check keeps a program from declaring an
entity of its name. A write to a field of that entity changes the slot, and nothing else does
but a route action (`Effect.readRoute_cases`): exactly as far as such writes leave it alone is
the slot reserved for route actions (`route_reserved_iff`).
-/

namespace Rulebook

namespace ActionOutcome

/-- The queue and the reason of a route action that was applied. -/
def routed? (outcome : ActionOutcome) : Option (String × Option String) :=
  match outcome.trace.action with
  | .route queue reason => if outcome.trace.applied then some (queue, reason) else none
  | .set .. | .increment .. | .append .. | .emit .. => none

/-- The action was applied and has written to a field of the entity that is named as the slot
of the route. -/
def WritesSlot (outcome : ActionOutcome) : Prop :=
  outcome.trace.applied = true ∧ ∃ path field, outcome.trace.path = some path ∧
    splitPath? path = some (routeSlot, field)

end ActionOutcome

/-- The last of the route actions that were applied. -/
def lastRouted (outcomes : List ActionOutcome) : Option (String × Option String) :=
  (outcomes.filterMap (·.routed?)).getLast?

/-- The slot holds what the last route action has put there, and without one what it has held at
the start. -/
def Store.HoldsRoute (store start : Store) : Option (String × Option String) → Prop
  | none => store.readRoute = start.readRoute
  | some (queue, reason) =>
      ∃ route, store.readRoute = some route ∧ Plan.HasRoute queue reason route

/-- What the slot holds is decided by what is read from it. -/
theorem Store.HoldsRoute.congr {s t start : Store} {last : Option (String × Option String)}
    (held : s.HoldsRoute start last) (same : t.readRoute = s.readRoute) :
    t.HoldsRoute start last := by
  cases last with
  | none => exact same.trans held
  | some routed =>
      obtain ⟨route, holds, has⟩ := held
      exact ⟨route, same.trans holds, has⟩

/-! ### One action -/

/-- The queue and the reason are there after a route action. -/
theorem Plan.hasRoute_routed (before : Option Value) (queue : String) (reason : Option String) :
    HasRoute queue reason (routed before queue reason) := by
  refine ⟨_, rfl, ?_, ?_⟩
  · rw [Fields.get?_set_of_ne (by decide), Fields.get?_set_self]
  · rw [Fields.get?_set_self]

namespace Effect

variable {catalog : Catalog} {live : Bool} {workspace next : Workspace} {action : Action}
  {now : Writer} {outcome : ActionOutcome}

/-- Nothing but a route action and a write to a field of the slot changes what the slot holds. -/
theorem readRoute_cases (effect : Effect catalog live workspace action now outcome next) :
    (∃ queue reason route, outcome.routed? = some (queue, reason) ∧
        next.store.readRoute = some route ∧ Plan.HasRoute queue reason route) ∨
      outcome.routed? = none ∧
        (outcome.WritesSlot ∨ next.store.readRoute = workspace.store.readRoute) := by
  cases effect with
  | refused planned =>
      cases Planned.of_eq planned with
      | refuse refuses => exact .inr ⟨by cases refuses <;> rfl, .inr rfl⟩
  | event planned =>
      cases Planned.of_eq planned with
      | event => exact .inr ⟨rfl, .inr rfl⟩
  | @field target entity name before after issues planned split =>
      refine .inr ⟨by cases Writes.of_planned planned <;> rfl, ?_⟩
      cases live with
      | false => exact .inr rfl
      | true =>
          -- A field of the slot itself is the one way to write it without a route.
          by_cases slot : entity = routeSlot
          · exact .inl ⟨rfl, target, name, rfl, slot ▸ split⟩
          · exact .inr (Fields.get?_set_of_ne (Ne.symm slot) _ _)
  | route planned =>
      cases Planned.of_eq planned with
      | @route queue reason =>
          cases live with
          | false => exact .inr ⟨rfl, .inr rfl⟩
          | true =>
              exact .inl ⟨queue, reason, _, rfl, Fields.get?_set_self _ _ _,
                Plan.hasRoute_routed _ queue reason⟩

/-- A field of the slot is written only where an entity of its name is declared. -/
theorem declared_of_writesSlot (effect : Effect catalog live workspace action now outcome next)
    (writes : outcome.WritesSlot) : ∃ entity ∈ catalog.entities, entity.name = routeSlot := by
  obtain ⟨applied, path, field, placed, split⟩ := writes
  cases effect with
  | refused => cases applied
  | event => cases placed
  | field planned _ =>
      cases placed
      obtain ⟨decl, resolved⟩ := (Writes.of_planned planned).declared
      exact Catalog.mem_of_resolve resolved split
  | route =>
      cases placed
      rw [splitPath?_routeSlot] at split
      cases split

/-- A write to a field of the slot is no route action. -/
theorem not_routed_of_writesSlot (effect : Effect catalog live workspace action now outcome next)
    (writes : outcome.WritesSlot) : outcome.routed? = none := by
  obtain ⟨_, path, field, placed, split⟩ := writes
  cases effect with
  | refused planned =>
      cases Planned.of_eq planned with
      | refuse refuses => cases refuses <;> rfl
  | event => cases placed
  | field planned _ => cases Writes.of_planned planned <;> rfl
  | route =>
      cases placed
      rw [splitPath?_routeSlot] at split
      cases split

end Effect

/-! ### Runs -/

/-- In a run with these outcomes, the action with this one comes after the earlier ones and leads
from one workspace to another. -/
structure ActedAt (context : RunContext) (start : Store) (outcomes earlier : List ActionOutcome)
    (before : Workspace) (outcome : ActionOutcome) (after : Workspace) : Prop where
  place : earlier ++ [outcome] <+: outcomes
  reached : Acted context 0 ⟨start, .empty⟩ earlier before
  acted : Acted context earlier.length before [outcome] after

/-- In a run with these outcomes the slot of the route is reserved: only route actions change what
it holds, and it holds what the last of them has put there, if there was one. -/
structure RouteReserved (context : RunContext) (start : Store) (outcomes : List ActionOutcome) :
    Prop where
  untouched : ∀ earlier before outcome after,
    ActedAt context start outcomes earlier before outcome after → outcome.routed? = none →
      after.store.readRoute = before.store.readRoute
  held : ∀ earlier workspace, earlier <+: outcomes →
    Acted context 0 ⟨start, .empty⟩ earlier workspace →
      workspace.store.HoldsRoute start (lastRouted earlier)

/-- The writes to fields of the slot, if there are any, leave the slot as it is. -/
def SlotLeftAlone (context : RunContext) (start : Store) (outcomes : List ActionOutcome) : Prop :=
  ∀ earlier before outcome after, ActedAt context start outcomes earlier before outcome after →
    outcome.WritesSlot → after.store.readRoute = before.store.readRoute

section Runs

variable {context : RunContext} {start : Store} {outcomes earlier : List ActionOutcome}
  {before after : Workspace} {outcome : ActionOutcome}

/-- Each step of a run is the effect of an action of one of its rules. -/
theorem ActedAt.effect (step : ActedAt context start outcomes earlier before outcome after) :
    ∃ rule ∈ context.rules, ∃ action ∈ rule.actions,
      Effect context.catalog context.options.enableActions before action
        ⟨rule.id, actionId (earlier.length + 1)⟩ outcome after := by
  cases step.acted with
  | step ruled listed applied ended =>
      cases ended
      exact ⟨_, ruled, _, listed, Action.apply_eq_ok_iff.mp applied⟩

theorem lastRouted_append (earlier : List ActionOutcome) (outcome : ActionOutcome) :
    lastRouted (earlier ++ [outcome]) = (outcome.routed?).or (lastRouted earlier) := by
  rw [lastRouted, filterMap_concat, List.getLast?_append]
  cases outcome.routed? <;> rfl

namespace SlotLeftAlone

theorem untouched (alone : SlotLeftAlone context start outcomes)
    (step : ActedAt context start outcomes earlier before outcome after)
    (unrouted : outcome.routed? = none) : after.store.readRoute = before.store.readRoute := by
  obtain ⟨_, _, _, _, effect⟩ := step.effect
  rcases effect.readRoute_cases with ⟨_, _, _, routed, _⟩ | ⟨_, writes | same⟩
  · cases unrouted.symm.trans routed
  · exact alone _ _ _ _ step writes
  · exact same

/-- What is left alone by the writes to its fields is reserved. -/
theorem reserved (alone : SlotLeftAlone context start outcomes) :
    RouteReserved context start outcomes := by
  refine ⟨fun _ _ _ _ => alone.untouched, ?_⟩
  -- by the number of actions, since what the last one has left is what counts
  intro earlier workspace place reached
  induction earlier using List.reverseRecOn generalizing workspace with
  | nil =>
      cases reached
      rfl
  | append_singleton earlier outcome ih =>
      obtain ⟨middle, one, two⟩ := Acted.append_iff.mp reached
      rw [Nat.zero_add] at two
      have step : ActedAt context start outcomes earlier middle outcome workspace :=
        ⟨place, one, two⟩
      rw [lastRouted_append]
      obtain ⟨_, _, _, _, effect⟩ := step.effect
      rcases effect.readRoute_cases with ⟨queue, reason, route, routed, holds, has⟩ | ⟨unrouted, _⟩
      · rw [routed]
        exact ⟨route, holds, has⟩
      · have held := ih middle ((List.prefix_append _ _).trans place) one
        rw [unrouted, Option.none_or]
        exact held.congr (alone.untouched step unrouted)

end SlotLeftAlone

/-- The slot is reserved exactly as far as the writes to its fields leave it alone. -/
theorem routeReserved_iff :
    RouteReserved context start outcomes ↔ SlotLeftAlone context start outcomes := by
  refine ⟨fun reserved earlier before outcome after step writes => ?_, SlotLeftAlone.reserved⟩
  obtain ⟨_, _, _, _, effect⟩ := step.effect
  exact reserved.untouched _ _ _ _ step (effect.not_routed_of_writesSlot writes)

/-- It is left alone where no entity has its name. -/
theorem slotLeftAlone_of_undeclared
    (undeclared : ∀ entity ∈ context.catalog.entities, entity.name ≠ routeSlot) :
    SlotLeftAlone context start outcomes := by
  intro earlier before outcome after step writes
  obtain ⟨_, _, _, _, effect⟩ := step.effect
  obtain ⟨entity, declared, named⟩ := effect.declared_of_writesSlot writes
  exact absurd named (undeclared entity declared)

end Runs

/-- In a run that returns, the slot of the route is reserved for route actions exactly as far as
the writes to fields of an entity of its name leave it alone, and always if there is no such
entity. -/
theorem route_reserved_iff (engine : Engine) (program : Program) (payload : Value)
    (options : ExecutionOptions) (result : ExecutionResult)
    (returned : (engine.run program payload options).result = .ok result) :
    ∃ start execution, Store.ofPayload payload = .ok start ∧
      (engine.execute program start options).result = .ok execution ∧
      result.resultState = execution.progress.workspace.store.snapshot ∧
      Acted (engine.context program options) 0 ⟨start, .empty⟩ execution.outcomes
        execution.progress.workspace ∧
      (RouteReserved (engine.context program options) start execution.outcomes ↔
        SlotLeftAlone (engine.context program options) start execution.outcomes) ∧
      ((∀ entity ∈ program.entities, entity.name ≠ routeSlot) →
        RouteReserved (engine.context program options) start execution.outcomes) := by
  obtain ⟨start, execution, report, tests, taken, executed, _, _, rfl⟩ :=
    Engine.runWith_eq_ok_iff.mp returned
  have ran := (Engine.execute_eq_ok_iff.mp executed).1
  exact ⟨start, execution, taken, executed, rfl, ran.acted, routeReserved_iff,
    fun undeclared => (slotLeftAlone_of_undeclared undeclared).reserved⟩

/-- The ticket program has a route action and no entity that is named as the slot. -/
theorem ticket_route_reserved :
    ∃ result, ((⟨.default, 1⟩ : Engine).run ticketProgram ticketPayload .once).result =
        .ok result ∧
      ∃ start execution, Store.ofPayload ticketPayload = .ok start ∧
        ((⟨.default, 1⟩ : Engine).execute ticketProgram start .once).result = .ok execution ∧
        RouteReserved ((⟨.default, 1⟩ : Engine).context ticketProgram .once) start
          execution.outcomes := by
  obtain ⟨result, returned⟩ := ticket_returns
  obtain ⟨start, execution, taken, executed, _, _, _, reserved⟩ :=
    route_reserved_iff _ _ _ _ result returned
  exact ⟨result, returned, start, execution, taken, executed, reserved (by decide)⟩

/-- A program with an entity that is named as the slot of the route. Its only rule does not match
on empty facts and then sets a field of that entity. -/
def deskProgram : Program :=
  .plain "route" [("queue", .string)]
    [.plain "pick" 0 (.present ⟨"route.queue", none⟩) []
      [.set "route.queue" (.literal (.text "desk") none)]]

/-- The program is valid and has no route action, yet a run of it puts an entry into the slot that
the payload has not. -/
theorem declared_route_is_written :
    ∃ validation result, ((⟨.default, 1⟩ : Engine).validate deskProgram).result =
        .ok validation ∧ validation.valid = true ∧
      ((⟨.default, 1⟩ : Engine).run deskProgram (.record []) .once).result = .ok result ∧
      (∀ entry ∈ result.trace, ∀ action ∈ entry.actionsApplied, action.action.kind ≠ "route") ∧
      Store.ofPayload (.record []) = .ok ⟨[]⟩ ∧ (⟨[]⟩ : Store).readRoute = none ∧
      Fields.get? routeSlot result.resultState =
        some (.object [(.text "queue", .text "desk")]) := by
  have validates : returnsWith (·.valid)
      ((⟨.default, 1⟩ : Engine).validate deskProgram).result = true := by decide +kernel
  have runs : returnsWith (fun result =>
      decide (∀ entry ∈ result.trace, ∀ action ∈ entry.actionsApplied,
        action.action.kind ≠ "route") &&
      decide (Fields.get? routeSlot result.resultState =
        some (.object [(.text "queue", .text "desk")])))
      ((⟨.default, 1⟩ : Engine).run deskProgram (.record []) .once).result = true := by
    decide +kernel
  obtain ⟨validation, validated, valid⟩ := eq_ok_of_returnsWith validates
  obtain ⟨result, returned, shows⟩ := eq_ok_of_returnsWith runs
  obtain ⟨unrouted, written⟩ := Bool.and_eq_true_iff.mp shows
  exact ⟨validation, result, validated, valid, returned, of_decide_eq_true unrouted, rfl, rfl,
    of_decide_eq_true written⟩

end Rulebook
