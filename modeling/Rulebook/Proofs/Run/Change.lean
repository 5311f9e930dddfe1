import Rulebook.Proofs.Run.Footprint
import Rulebook.Proofs.Run.Route
import Rulebook.Proofs.State.Reading

/-!
What an action says that it has changed.

The change that an outcome tells of is found by comparing two values that the plan has made, and
not by looking at the store. `changes_told_exactly` says that it is the change of the store: an
applied action has mutated the store if and only if some path reads something else than before,
its one diff says what its own cell reads now, and no path but those that it touches reads
anything new.
-/

namespace Rulebook

/-- The paths that may read something else after an action: those that it writes to, and the
queue and the reason of the route when it replaces the slot. -/
def Action.touches (action : Action) : List String :=
  action.writes ++
    match action with
    | .route .. => ["route.queue", "route.reason"]
    | .set .. | .increment .. | .append .. | .emit .. => []

/-- An outcome tells exactly how the first store has become the second one. -/
structure ActionOutcome.Tells (outcome : ActionOutcome) (action : Action) (s t : Store) :
    Prop where
  mutated_iff : outcome.mutated = true ↔ ∃ path, s.Changes t path
  diff : outcome.mutated = true → ∃ diff, outcome.diffs = [diff] ∧ action.writes = [diff.path] ∧
    t.reading diff.path = some diff.after
  silent : outcome.mutated = false → outcome.diffs = []
  elsewhere : ∀ path ∉ action.touches, t.reading path = s.reading path
  routed : ∀ queue reason, action = .route queue reason →
    t.reading "route.queue" = some (.text queue) ∧
      t.reading "route.reason" = some (.ofText? reason)

section Actions

variable {catalog : Catalog} {store : Store} {ruleId : String} {action : Action} {now : Writer}

/-! ### Writes to fields -/

/-- What is shown as the earlier value of a field differs from the new one exactly if what the
field holds does: only an append shows something else, and it always changes the field. -/
theorem Writes.isChange_eq {target : String} {before : Option Value} {after : Value}
    {issues : List Issue} (writes : Writes catalog store ruleId action target before after issues) :
    isChange before after = isChange (store.read target) after := by
  cases writes with
  | set => rfl
  | increment => rfl
  | @append _ _ _ v =>
      cases held : store.read target with
      | none => exact Plan.isChange_appended none v
      | some current =>
          obtain ⟨items, same, _⟩ := Plan.appended_eq (some current) v
          rw [same]
          rfl

/-- A write is told as it is, if the values that it compares differ exactly if its own cell
changes, and other paths change only along with that cell. -/
theorem ActionOutcome.tells_of_written {s t : Store} {path : String} {before : Option Value}
    {after : Value} {issues : List Issue} {conflict : Option String}
    (own : action.writes = [path]) (written : t.reading path = some after)
    (change : isChange before after = isChange (s.reading path) after)
    (along : ∀ other, s.Changes t other → s.Changes t path)
    (elsewhere : ∀ other ∉ action.touches, t.reading other = s.reading other)
    (routed : ∀ queue reason, action = .route queue reason →
      t.reading "route.queue" = some (.text queue) ∧
        t.reading "route.reason" = some (.ofText? reason)) :
    (action.writeOutcome true now path before after issues conflict).Tells action s t := by
  have mutated : (action.writeOutcome true now path before after issues conflict).mutated =
      isChange before after := by
    rw [Action.writeOutcome_mutated, Bool.true_and]
  have cell : isChange before after = true ↔ s.Changes t path := by
    rw [change, Store.changes_iff written]
  refine ⟨?_, ?_, ?_, elsewhere, routed⟩
  · rw [mutated, cell]
    exact ⟨fun changed => ⟨path, changed⟩, fun ⟨other, changed⟩ => along other changed⟩
  · intro changed
    rw [mutated] at changed
    exact ⟨⟨path, shown before, after⟩, if_pos changed, own, written⟩
  · intro same
    rw [mutated] at same
    exact if_neg (Bool.eq_false_iff.mp same)

section Numeric

variable (wellKeyed : ∀ entry ∈ store.entries, entry.2.WellKeyed)
  (numeric : ∀ entry ∈ store.entries, entry.2.Numeric)

include wellKeyed numeric

/-- A write tells its change: what was read before and what is read after. -/
theorem Writes.tells {target entity name : String} {before : Option Value} {after : Value}
    {issues : List Issue} (writes : Writes catalog store ruleId action target before after issues)
    (split : splitPath? target = some (entity, name)) (apart : entity ≠ routeSlot)
    (conflict : Option String) :
    (action.writeOutcome true now target before after issues conflict).Tells action store
      (store.writeField entity name after) := by
  have other : ∀ path, path ≠ target →
      (store.writeField entity name after).reading path = store.reading path :=
    fun path differs =>
      Store.reading_writeField_of_ne split differs (fun same => absurd same apart) after
  refine ActionOutcome.tells_of_written writes.writes_eq (Store.reading_writeField split after)
    ?_ ?_ ?_ ?_
  · rw [writes.isChange_eq, Store.reading_of_split split, Store.read_of_split split]
  · intro path changed
    by_cases same : path = target
    · rwa [same] at changed
    · exact absurd changed (Store.not_changes_of_reading wellKeyed numeric (other path same))
  · intro path untouched
    refine other path fun same => untouched ?_
    exact List.mem_append_left _ (same ▸ writes.mem_writes)
  · rintro queue reason rfl
    cases writes

/-! ### Routes -/

/-- A new route is told as it is: a route that is strictly equal to the one before is the same. -/
theorem tells_route (queue : String) (reason conflict : Option String) :
    ((Action.route queue reason).writeOutcome true now routeSlot store.readRoute
      (Plan.routed store.readRoute queue reason) [] conflict).Tells (.route queue reason) store
        (store.writeRoute (Plan.routed store.readRoute queue reason)) := by
  have splitQueue : splitPath? "route.queue" = some (routeSlot, "queue") := by decide
  have splitReason : splitPath? "route.reason" = some (routeSlot, "reason") := by decide
  have written : (store.writeRoute (Plan.routed store.readRoute queue reason)).reading routeSlot =
      some (Plan.routed store.readRoute queue reason) :=
    Store.reading_routeSlot.trans (Fields.get?_set_self ..)
  refine ActionOutcome.tells_of_written rfl written ?_ ?_ ?_ ?_
  · rw [Store.reading_routeSlot]
  · intro path changed
    refine (Store.changes_iff written).mpr ?_
    -- Had the slot held this route before, it would have been written back as it stood.
    by_contra same
    rw [Bool.not_eq_true, Store.reading_routeSlot, isChange_eq_false_iff] at same
    obtain ⟨route, held, equal⟩ := same
    rw [held] at equal changed
    rw [Plan.routed_of_hasRoute (Plan.hasRoute_of_strictEq equal), Store.writeRoute_self held]
      at changed
    exact Store.not_changes_of_reading wellKeyed numeric rfl changed
  · intro path untouched
    have apart : path ≠ routeSlot ∧ path ≠ "route.queue" ∧ path ≠ "route.reason" := by
      simpa [Action.touches, Action.writes] using untouched
    rw [Store.writeRoute_routed,
      Store.reading_writeField_of_ne splitReason apart.2.2 fun _ => apart.1,
      Store.reading_writeField_of_ne splitQueue apart.2.1 fun _ => apart.1]
  · rintro _ _ ⟨⟩
    rw [Store.writeRoute_routed]
    refine ⟨?_, Store.reading_writeField splitReason _⟩
    rw [Store.reading_of_split splitQueue,
      Store.readField_writeField_of_ne _ (by decide), Store.readField_writeField]

/-! ### All actions -/

/-- What changes nothing is told as it is. -/
theorem tells_nothing {outcome : ActionOutcome} (unchanged : outcome.mutated = false)
    (silent : outcome.diffs = []) (plain : ∀ queue reason, action ≠ .route queue reason) :
    outcome.Tells action store store := by
  have same : ∀ path, ¬ store.Changes store path := fun _ =>
    Store.not_changes_of_reading wellKeyed numeric rfl
  refine ⟨?_, ?_, fun _ => silent, fun _ _ => rfl, fun queue reason is => absurd is (plain _ _)⟩
  · simp [unchanged, same]
  · simp [unchanged]

end Numeric

end Actions

/-- The change that a live action tells of is the change of the store, on every store whose objects
are mappings and that holds no `nan`, and as long as no entity has the name of the route's slot. -/
theorem changes_told_exactly (catalog : Catalog) (workspace next : Workspace) (action : Action)
    (now : Writer) (outcome : ActionOutcome)
    (unnamed : ∀ entity ∈ catalog.entities, entity.name ≠ routeSlot)
    (wellKeyed : ∀ entry ∈ workspace.store.entries, entry.2.WellKeyed)
    (numeric : ∀ entry ∈ workspace.store.entries, entry.2.Numeric)
    (applied : action.apply catalog true workspace now = .ok (outcome, next)) :
    outcome.Tells action workspace.store next.store := by
  cases Action.apply_eq_ok_iff.mp applied with
  | refused planned =>
      cases Planned.of_eq planned with
      | refuse refuses =>
          exact tells_nothing wellKeyed numeric rfl rfl (by rintro _ _ rfl; cases refuses)
  | event planned =>
      cases Planned.of_eq planned with
      | event => exact tells_nothing wellKeyed numeric rfl rfl (by simp)
  | @field target entity name before after issues planned split =>
      have writes := Writes.of_planned planned
      obtain ⟨decl, resolved⟩ := writes.declared
      obtain ⟨declared, among, named⟩ := Catalog.mem_of_resolve resolved split
      exact writes.tells wellKeyed numeric split (named ▸ unnamed declared among) _
  | route planned =>
      cases Planned.of_eq planned with
      | route => exact tells_route wellKeyed numeric _ _ _

def meterCatalog : Catalog := ⟨[⟨"meter", [⟨"count", .number, none, none⟩], none⟩]⟩

def meterStore : Store :=
  ⟨[("meter", .record [("count", .text "many")]), ("route", .record [("queue", .text "desk")])]⟩

/-- A number that replaces the text is told, and is all that has changed. -/
theorem replaced_count_told :
    ∃ outcome next, (Action.increment "meter.count" (.int 2)).apply meterCatalog true
        ⟨meterStore, .empty⟩ ⟨"raise", "act-1"⟩ = .ok (outcome, next) ∧
      outcome.diffs = [⟨"meter.count", .text "many", .int 2⟩] ∧
      outcome.Tells (.increment "meter.count" (.int 2)) meterStore next.store := by
  refine ⟨_, _, rfl, by decide +kernel, ?_⟩
  have determinate : ∀ entry ∈ meterStore.entries, entry.2.Determinate := by simp [meterStore]
  exact changes_told_exactly meterCatalog ⟨meterStore, .empty⟩ _ _ _ _ (by decide)
    (fun entry member => (determinate entry member).keyed.wellKeyed)
    (fun entry member => (determinate entry member).numeric) rfl

/-- It is not only the slot that reads a new route: so does the path of its queue, which no
action writes to. -/
theorem new_route_read_as_field :
    ¬ ∀ (catalog : Catalog) (workspace next : Workspace) (action : Action) (now : Writer)
      (outcome : ActionOutcome), (∀ entity ∈ catalog.entities, entity.name ≠ routeSlot) →
      (∀ entry ∈ workspace.store.entries, entry.2.WellKeyed) →
      (∀ entry ∈ workspace.store.entries, entry.2.Numeric) →
      action.apply catalog true workspace now = .ok (outcome, next) →
      ∀ path, (splitPath? path).isSome → path ∉ action.writes →
        next.store.reading path = workspace.store.reading path := by
  intro claimed
  have same := claimed ⟨[]⟩ ⟨⟨[]⟩, .empty⟩ _ (.route "desk" none) ⟨"raise", "act-1"⟩ _ (by simp)
    (by simp) (by simp) rfl "route.queue" (by decide) (by decide)
  exact absurd same (by decide +kernel)

end Rulebook
