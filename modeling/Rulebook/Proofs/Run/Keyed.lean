import Rulebook.Proofs.Number.Sum
import Rulebook.Proofs.Run.Course
import Rulebook.Proofs.Run.Effect
import Rulebook.Proofs.Run.Visited
import Rulebook.Proofs.State.Keyed

/-!
Runs keep stores named and keyed.

A write names the field that it changes, so distinct names stay distinct. Whatever it writes
is a literal, a value that was in the store, a sum, a list of such values or a route, so a
run on a store whose objects have text keys never leaves such stores.
-/

namespace Rulebook

/-! ### What is written -/

namespace Plan

/-- Appending shows the list that the new item is added to, or what is no list and is
replaced by a new one. -/
theorem appended_eq (current : Option Value) (v : Value) :
    ∃ items, appended current v = (some (current.getD (.list [])), .list (items ++ [v])) ∧
      (current.getD (.list []) = .list items ∨
        items = [] ∧ ∀ xs, current.getD (.list []) ≠ .list xs) := by
  unfold appended
  cases shown : current.getD (.list []) with
  | list items => exact ⟨items, rfl, .inl rfl⟩
  | _ => exact ⟨[], rfl, .inr ⟨rfl, by simp⟩⟩

/-- The items after an append are the new one and those of the list that was there, if any. -/
theorem appended_items (current : Option Value) (v : Value) :
    ∃ items, (appended current v).2 = .list items ∧
      ∀ item ∈ items, item = v ∨ ∃ xs, current = some (.list xs) ∧ item ∈ xs := by
  obtain ⟨items, same, origin⟩ := appended_eq current v
  refine ⟨items ++ [v], by rw [same], fun item member => ?_⟩
  rcases List.mem_append.mp member with old | new
  · rcases origin with list | ⟨rfl, _⟩
    · cases current with
      | none =>
          cases list
          cases old
      | some u =>
          cases list
          exact .inr ⟨items, rfl, old⟩
    · cases old
  · exact .inl (List.mem_singleton.mp new)

theorem keyed_appended {current : Option Value} {v : Value} (keyed : ∀ u ∈ current, u.Keyed)
    (item : v.Keyed) : (appended current v).2.Keyed := by
  obtain ⟨items, same, origin⟩ := appended_items current v
  rw [same]
  refine .list fun u member => ?_
  rcases origin u member with rfl | ⟨xs, list, among⟩
  · exact item
  · exact (keyed _ list).items u among

theorem textKeyed_routed {before : Option Value} (keyed : ∀ v ∈ before, v.TextKeyed)
    (queue : String) (reason : Option String) : (routed before queue reason).TextKeyed := by
  unfold routed
  split
  · exact ((keyed _ rfl).set _ _).set _ _
  · exact (Value.textKeyed_empty.set _ _).set _ _

theorem keyed_routed {before : Option Value} (keyed : ∀ v ∈ before, v.Keyed) (queue : String)
    (reason : Option String) : (routed before queue reason).Keyed := by
  have base : ∀ fields, (Value.object fields).Keyed → (Value.object (Fields.set (.text "reason")
      (.ofText? reason) (Fields.set (.text "queue") (.text queue) fields))).Keyed := by
    intro fields object
    refine (object.set (.scalar rfl)).set ?_
    cases reason <;> exact .scalar rfl
  unfold routed
  split
  · exact base _ (keyed _ rfl)
  · exact base _ .empty

end Plan

section Plans

variable {catalog : Catalog} {store : Store} {ruleId : String} {action : Action}

theorem Writes.keyed {target : String} {before : Option Value} {after : Value} {issues : List Issue}
    (writes : Writes catalog store ruleId action target before after issues) (keyed : store.Keyed) :
    after.Keyed := by
  cases writes with
  | set _ resolved => exact Operand.keyed_resolve keyed resolved
  | append _ resolved =>
      exact Plan.keyed_appended (fun u found => keyed.read found)
        (Operand.keyed_resolve keyed resolved)
  | increment _ sum => exact .scalar (Value.isScalar_of_isNumber (Amount.isNumber_of_addTo sum))

theorem Plan.keyed_route {before : Option Value} {after : Value} (keyed : store.Keyed)
    (planned : ofAction catalog store ruleId action = .ok (.route before after)) : after.Keyed := by
  cases Planned.of_eq planned with
  | route => exact keyed_routed (fun v found => keyed.values _ (Fields.get?_mem found)) _ _

end Plans

/-! ### Actions, passes, runs -/

theorem Effect.named {catalog : Catalog} {live : Bool} {workspace next : Workspace}
    {action : Action} {now : Writer} {outcome : ActionOutcome}
    (effect : Effect catalog live workspace action now outcome next)
    (named : workspace.store.Named) : next.store.Named := by
  cases effect with
  | refused => exact named
  | event => exact named
  | field =>
      cases live with
      | true => exact named.writeField ..
      | false => exact named
  | route planned =>
      cases live with
      | true =>
          cases Planned.of_eq planned with
          | route =>
              refine named.writeRoute (Plan.textKeyed_routed (fun v found => ?_) _ _)
              exact named.entities _ (Fields.get?_mem found)
      | false => exact named

theorem Effect.keyed {catalog : Catalog} {live : Bool} {workspace next : Workspace}
    {action : Action} {now : Writer} {outcome : ActionOutcome}
    (effect : Effect catalog live workspace action now outcome next)
    (keyed : workspace.store.Keyed) : next.store.Keyed := by
  cases effect with
  | refused => exact keyed
  | event => exact keyed
  | field planned =>
      cases live with
      | true => exact keyed.writeField _ _ ((Writes.of_planned planned).keyed keyed)
      | false => exact keyed
  | route planned =>
      cases live with
      | true => exact keyed.writeRoute (Plan.keyed_route keyed planned)
      | false => exact keyed

section Runs

variable {context : RunContext} {number : Nat}

theorem RunContext.keeps_named (context : RunContext) (ruleId : String) (action : Action) :
    context.Keeps Store.Named ruleId action :=
  fun _ _ _ named acted => (Action.apply_eq_ok_iff.mp acted).named named

theorem RunContext.keeps_keyed (context : RunContext) (ruleId : String) (action : Action) :
    context.Keeps Store.Keyed ruleId action :=
  fun _ _ _ keyed acted => (Action.apply_eq_ok_iff.mp acted).keyed keyed

theorem Applied.keyed {ruleId : String} {actions : List Action} {before after : Progress}
    {outcomes : List ActionOutcome} (applied : Applied context ruleId actions before outcomes after)
    (keyed : before.workspace.store.Keyed) : after.workspace.store.Keyed :=
  applied.visited.keeps (fun _ _ => context.keeps_keyed _ _) keyed

theorem RuleRan.keyed {rule : Rule} {before after : Progress} {why : ConditionTrace}
    {outcomes : List ActionOutcome} (ran : RuleRan context rule before why outcomes after)
    (keyed : before.workspace.store.Keyed) : after.workspace.store.Keyed :=
  ran.applied.keyed (by simpa using keyed)

theorem PassRan.named {rules : List Rule} {before after : Progress} {pass : Pass}
    (ran : PassRan context number rules before pass after) (named : before.workspace.store.Named) :
    after.workspace.store.Named :=
  ran.visited.keeps (fun _ _ _ _ => context.keeps_named _ _) named

theorem RunRan.named {start : Store} {execution : Execution}
    (ran : RunRan context 1 (.start start) execution) (named : start.Named) :
    execution.progress.workspace.store.Named :=
  (ran.visited rfl .start).keeps (fun _ _ _ _ => context.keeps_named _ _) named

theorem RunRan.keyed {start : Store} {execution : Execution}
    (ran : RunRan context 1 (.start start) execution) (keyed : start.Keyed) :
    execution.progress.workspace.store.Keyed :=
  (ran.visited rfl .start).keeps (fun _ _ _ _ => context.keeps_keyed _ _) keyed

theorem PassRan.keyed {rules : List Rule} {before after : Progress} {pass : Pass}
    (ran : PassRan context number rules before pass after) (keyed : before.workspace.store.Keyed) :
    after.workspace.store.Keyed :=
  ran.visited.keeps (fun _ _ _ _ => context.keeps_keyed _ _) keyed

end Runs

end Rulebook
