import Rulebook.Proofs.Run.Journal
import Rulebook.Proofs.Run.Keyed
import Rulebook.Proofs.Run.Visited
import Rulebook.Proofs.State.Typed

/-!
Runs keep declared types.

Checks compare declared types only, never the values that fields hold. That is enough: a
value that an action writes is a literal of the field's type, what a field of the same type
holds, a sum, or a list to which such a value is added. So where all declared fields hold
values of their types, or lists of such values, this is so throughout a run
(`run_keeps_types`), whether the program is valid or not.
-/

namespace Rulebook

/-! ### What is written -/

/-- Appending an item of the type keeps a list of it. -/
theorem Plan.typed_appended {type : ScalarType} {current : Option Value} {v : Value}
    (typed : ∀ u ∈ current, u.Typed type) (item : v.Typed type) :
    (appended current v).2.Typed type := by
  obtain ⟨items, same, origin⟩ := appended_items current v
  rw [same]
  refine .list fun u member => ?_
  rcases origin u member with rfl | ⟨xs, list, among⟩
  · exact item
  · exact (typed _ list).items u among

/-- A checked write has a declared target, and its operand was checked against the type of it. -/
theorem Plan.checkWrite_types {catalog : Catalog} {target : String} {value : Operand}
    {issue : Option Issue} (checked : checkWrite catalog target value = .ok issue) :
    ∃ decl, catalog.resolve target = .ok decl ∧
      catalog.checkOperand value (some decl.type) = .ok decl.type := by
  obtain ⟨decl, declared, checked⟩ := CheckFailure.lift_bind_eq_ok_iff.mp checked
  obtain ⟨type, typed, _⟩ := Except.bind_eq_ok_iff.mp checked
  exact ⟨decl, declared, Catalog.checkOperand_expected typed ▸ typed⟩

/-- Only numbers are incremented. -/
theorem Catalog.checkIncrement_types {catalog : Catalog} {target : String}
    (checked : catalog.checkIncrement target = .ok ()) :
    ∃ decl, catalog.resolve target = .ok decl ∧ decl.type = .number := by
  obtain ⟨decl, declared, checked⟩ := Except.bind_eq_ok_iff.mp checked
  split at checked
  · rename_i number
    exact ⟨decl, declared, number⟩
  · cases checked

/-- What a checked write writes is of the field's type. -/
theorem Writes.typed {catalog : Catalog} {store : Store} {ruleId : String} {action : Action}
    {target : String} {before : Option Value} {after : Value} {issues : List Issue}
    (writes : Writes catalog store ruleId action target before after issues)
    (typed : store.Typed catalog) :
    ∃ decl, catalog.resolve target = .ok decl ∧ after.Typed decl.type := by
  cases writes with
  | set checked resolved =>
      obtain ⟨decl, declared, operand⟩ := Plan.checkWrite_types checked
      exact ⟨decl, declared, typed.resolve operand resolved⟩
  | append checked resolved =>
      obtain ⟨decl, declared, operand⟩ := Plan.checkWrite_types checked
      refine ⟨decl, declared, Plan.typed_appended ?_ (typed.resolve operand resolved)⟩
      intro current found
      exact typed target decl current declared found
  | increment checked sum =>
      obtain ⟨decl, declared, number⟩ := Catalog.checkIncrement_types checked
      refine ⟨decl, declared, .scalar ?_⟩
      rw [number]
      exact Amount.isNumber_of_addTo sum

/-! ### Actions and runs -/

/-- An effect keeps every declared field typed, -/
theorem Effect.typed {catalog : Catalog} {live : Bool} {workspace next : Workspace}
    {action : Action} {now : Writer} {outcome : ActionOutcome}
    (effect : Effect catalog live workspace action now outcome next)
    (routeless : ∀ entity ∈ catalog.entities, entity.name ≠ routeSlot)
    (typed : workspace.store.Typed catalog) : next.store.Typed catalog := by
  cases effect with
  | refused => exact typed
  | event => exact typed
  | field planned split =>
      obtain ⟨decl, declared, value⟩ := (Writes.of_planned planned).typed typed
      cases live with
      | true => exact typed.writeField declared split value
      | false => exact typed
  | route =>
      cases live with
      | true => exact typed.writeRoute routeless _
      | false => exact typed

/-- and so does every action of a program that declares no entity named as the slot. -/
theorem RunContext.keeps_typed {context : RunContext}
    (routeless : ∀ entity ∈ context.catalog.entities, entity.name ≠ routeSlot) (ruleId : String)
    (action : Action) : context.Keeps (Store.Typed context.catalog) ruleId action :=
  fun _ _ _ typed acted => (Action.apply_eq_ok_iff.mp acted).typed routeless typed

/-- From facts in which every declared field that is there holds a value of its type or a list
of such values, a run of a program in which no entity has the name of the route comes only to
facts with this property, however far it gets. -/
theorem run_keeps_types (engine : Engine) (program : Program) (payload : Value)
    (options : ExecutionOptions) (start : Store)
    (routeless : ∀ entity ∈ program.entities, entity.name ≠ routeSlot)
    (taken : Store.ofPayload payload = .ok start) (typed : start.Typed (.ofProgram program)) :
    (∀ state, RunVisits (engine.context program options) (.start start) state →
      state.workspace.store.Typed (.ofProgram program)) ∧
    ∀ result, (engine.run program payload options).result = .ok result →
      (⟨result.resultState⟩ : Store).Typed (.ofProgram program) := by
  have throughout : ∀ state, RunVisits (engine.context program options) (.start start) state →
      state.workspace.store.Typed (.ofProgram program) := by
    intro state visits
    exact visits.keeps (fun _ _ _ _ => RunContext.keeps_typed routeless _ _) typed
  refine ⟨throughout, fun result returned => ?_⟩
  obtain ⟨start', execution, report, tests, taken', executed, _, _, rfl⟩ :=
    Engine.runWith_eq_ok_iff.mp returned
  cases taken.symm.trans taken'
  exact throughout _ ((Engine.execute_eq_ok_iff.mp executed).1.visited rfl .start)

/-- The facts of a late ticket. -/
def ticketStore : Store := ⟨[("ticket", .object [(.text "text", .text "late")])]⟩

theorem ticketStore_typed : ticketStore.Typed (.ofProgram ticketProgram) := by
  intro path decl v resolved found
  obtain ⟨field, split, declared⟩ := Program.plain_resolve resolved
  rw [Store.read_of_split split] at found
  simp only [List.mem_cons, Prod.mk.injEq, List.not_mem_nil, or_false] at declared
  rcases declared with ⟨rfl, type⟩ | ⟨rfl, _⟩ | ⟨rfl, _⟩
  · cases found
    rw [type]
    exact .scalar rfl
  · cases found
  · cases found

theorem ticket_keeps_types :
    ∃ result, ((⟨.default, 1⟩ : Engine).run ticketProgram ticketPayload .once).result =
        .ok result ∧ (⟨result.resultState⟩ : Store).Typed (.ofProgram ticketProgram) := by
  obtain ⟨result, returned⟩ := ticket_returns
  have routeless : ∀ entity ∈ ticketProgram.entities, entity.name ≠ routeSlot := by decide
  exact ⟨result, returned, (run_keeps_types ⟨.default, 1⟩ ticketProgram ticketPayload .once
    ticketStore routeless rfl ticketStore_typed).2 result returned⟩

end Rulebook
