import Rulebook.Proofs.Run.Refusal
import Rulebook.Proofs.State.Path

/-!
The paths that actions write to.

The catalog and the store read a path as the same two names, and refuse the same texts
(`Catalog.addresses_iff`, `Store.addresses_iff`). An action has its target resolved before it
writes there, so no write is reached that the store would refuse, and what the tracker is told of
is either the path of a field or, from a route action alone, the slot of the route
(`paths_have_one_grammar`).
-/

namespace Rulebook

variable {path entity field : String}

/-! ### Two readers -/

/-- Every catalog resolves the text exactly if it declares this field of the entity. -/
def Catalog.Addresses (path entity field : String) : Prop :=
  ∀ catalog : Catalog, (∃ decl, catalog.resolve path = .ok decl) ↔
    ∃ decl ∈ catalog.fieldsOf entity, decl.name = field

/-- Every store takes the text for this field of the entity when it writes. -/
def Store.Addresses (path entity field : String) : Prop :=
  ∀ (store : Store) (value : Value),
    store.write path value = .ok (store.readField entity field, store.writeField entity field value)

/-- A pair is resolved where the entity declares the field. -/
theorem Catalog.resolves_iff {catalog : Catalog} (split : splitPath? path = some (entity, field)) :
    (∃ decl, catalog.resolve path = .ok decl) ↔
      ∃ decl ∈ catalog.fieldsOf entity, decl.name = field := by
  have found : (∃ decl, catalog.resolve path = .ok decl) ↔
      ∃ decl, (catalog.fieldsOf entity).find? (fun decl => decl.name == field) = some decl := by
    refine exists_congr fun decl => ?_
    rw [resolve_eq_ok_iff]
    constructor
    · rintro ⟨entity', field', split', found⟩
      cases split.symm.trans split'
      exact found
    · intro found
      exact ⟨entity, field, split, found⟩
  rw [found, ← Option.isSome_iff_exists, List.find?_isSome]
  simp only [beq_iff_eq]

/-- The catalog that declares one field. -/
def Catalog.single (entity field : String) : Catalog :=
  ⟨[⟨entity, [⟨field, .number, none, none⟩], none⟩]⟩

theorem Catalog.mem_fieldsOf_single {entity' field' : String} :
    (∃ decl ∈ (single entity field).fieldsOf entity', decl.name = field') ↔
      entity = entity' ∧ field = field' := by
  by_cases same : entity = entity'
  · simp [single, fieldsOf, same]
  · simp [single, fieldsOf, same]

/-- The catalog reads a text as two names exactly if it is their path. -/
theorem Catalog.addresses_iff :
    Catalog.Addresses path entity field ↔ splitPath? path = some (entity, field) := by
  constructor
  · intro addresses
    have resolves := (addresses (single entity field)).mpr (mem_fieldsOf_single.mpr ⟨rfl, rfl⟩)
    obtain ⟨decl, resolved⟩ := resolves
    obtain ⟨entity', field', split⟩ := splitPath?_of_resolve resolved
    obtain ⟨rfl, rfl⟩ := mem_fieldsOf_single.mp ((resolves_iff split).mp ⟨decl, resolved⟩)
    exact split
  · intro split catalog
    exact resolves_iff split

/-- The store reads a text as two names exactly if it is their path. -/
theorem Store.addresses_iff :
    Store.Addresses path entity field ↔ splitPath? path = some (entity, field) := by
  constructor
  · intro addresses
    have written := addresses ⟨[]⟩ .null
    cases split : splitPath? path with
    | none =>
        rw [write, split] at written
        cases written
    | some names =>
        obtain ⟨entity', field'⟩ := names
        rw [write, split] at written
        cases written
        rfl
  · intro split store value
    rw [write, split]

/-- The catalog refuses a text as malformed exactly if it is no path. -/
theorem Catalog.resolve_malformed_iff {catalog : Catalog} :
    catalog.resolve path = .error (.malformedPath path) ↔ splitPath? path = none := by
  unfold resolve
  cases splitPath? path with
  | none => simp
  | some names =>
      dsimp only
      split
      · split <;> simp
      · simp

/-- The store refuses a text exactly if it is no path. -/
theorem Store.write_malformed_iff {store : Store} {value : Value} :
    store.write path value = .error (.malformedPath path) ↔ splitPath? path = none := by
  unfold write
  cases splitPath? path with
  | none => simp
  | some names => simp

/-! ### Actions -/

/-- The action comes to write this value to the store under this text. -/
def Action.Reaches (catalog : Catalog) (live : Bool) (workspace : Workspace) (now : Writer)
    (action : Action) (path : String) (value : Value) : Prop :=
  live = true ∧ ∃ before issues,
    Plan.ofAction catalog workspace.store now.ruleId action = .ok (.field path before value issues)

/-- What an action may tell the tracker of: the path that it has as its target, or the slot of the
route if it is a route action. -/
inductive Action.Marks (action : Action) : String → Prop where
  | field {entity field : String} : IsName entity → IsName field →
      action.target? = some (dotted entity field) → Marks action (dotted entity field)
  | route {queue : String} {reason : Option String} : action = .route queue reason →
      Marks action routeSlot

section Actions

variable {catalog : Catalog} {live : Bool} {workspace next : Workspace} {action : Action}
  {now : Writer} {outcome : ActionOutcome} {value : Value}

/-- A sum fails only where it is out of range. -/
theorem Amount.addTo_eq_error {delta : Amount} {e : Interruption}
    (failed : delta.addTo value = .error e) : e = .sumOutOfRange := by
  cases value with
  | int n =>
      cases delta with
      | int d => cases failed
      | float d => cases converted : floatOfInt? n <;> simp_all [addTo]
  | float x =>
      cases delta with
      | int d => cases converted : floatOfInt? d <;> simp_all [addTo]
      | float d => cases failed
  | _ => cases failed

/-- A write fails only where its check would have to name a literal that cannot be written. -/
theorem Plan.ofOperand_eq_error {store : Store} {ruleId task target : String} {operand : Operand}
    {apply : Value → Option Value × Value} {e : Interruption}
    (failed : ofOperand catalog store ruleId task target operand apply = .error e) :
    e = .tooManyDigits := by
  rcases ofOperand_cases catalog store target operand with
    blocked | checked | ⟨issue, v, checked, resolved⟩
  · obtain ⟨_, refused⟩ := @ofOperand_blocked catalog store ruleId task target operand apply blocked
    cases refused.symm.trans failed
  · cases (ofOperand_interrupted checked).symm.trans failed
    rfl
  · cases (ofOperand_eq_ok checked resolved).symm.trans failed

/-- A plan fails only where a sum is out of range or a literal cannot be named. -/
theorem Plan.ofAction_eq_error {store : Store} {ruleId : String} {e : Interruption}
    (failed : Plan.ofAction catalog store ruleId action = .error e) :
    e = .sumOutOfRange ∨ e = .tooManyDigits := by
  cases action with
  | set target value =>
      rw [ofAction_set] at failed
      exact .inr (ofOperand_eq_error failed)
  | append target value =>
      rw [ofAction_append] at failed
      exact .inr (ofOperand_eq_error failed)
  | increment target delta =>
      cases checked : catalog.checkIncrement target with
      | error _ =>
          rw [ofAction_increment_refused checked] at failed
          cases failed
      | ok _ =>
          rw [ofAction_increment checked] at failed
          cases sum : delta.addTo ((store.read target).getD .null) with
          | ok after =>
              rw [sum] at failed
              cases failed
          | error other =>
              rw [sum] at failed
              cases failed
              exact .inl (Amount.addTo_eq_error sum)
  | _ => cases failed

/-- No action is interrupted by the store. -/
theorem Action.apply_ne_store_error (e : StoreError) :
    action.apply catalog live workspace now ≠ .error (.store e) := by
  intro interrupted
  rcases Plan.ofAction_eq_error (apply_eq_error_iff.mp interrupted) with sum | digits
  · cases sum
  · cases digits

/-- Only pairs of names are ever written. -/
theorem Action.Reaches.writes (reaches : action.Reaches catalog live workspace now path value) :
    ∃ entity field, IsName entity ∧ IsName field ∧ path = dotted entity field := by
  obtain ⟨_, before, issues, planned⟩ := reaches
  obtain ⟨entity, field, split⟩ := (Writes.of_planned planned).splits
  obtain ⟨same, first, second⟩ := splitPath?_eq_some_iff.mp split
  exact ⟨entity, field, first, second, same⟩

/-- An action tells the tracker of nothing, or of one path. -/
theorem Effect.marks (effect : Effect catalog live workspace action now outcome next) :
    next.tracker = workspace.tracker ∨ ∃ path, action.Marks path ∧
      next.tracker.writes = (path, now) :: workspace.tracker.writes := by
  cases effect with
  | refused => exact .inl rfl
  | event => exact .inl rfl
  | @field target entity field before after issues planned split =>
      obtain ⟨rfl, first, second⟩ := splitPath?_eq_some_iff.mp split
      exact .inr ⟨_, .field first second (Writes.of_planned planned).target?_eq, rfl⟩
  | route planned =>
      cases Planned.of_eq planned with
      | route => exact .inr ⟨routeSlot, .route rfl, rfl⟩

/-- The path of a field is not the slot of the route, so the slot is marked by route actions. -/
theorem Action.Marks.route_of_slot (marks : action.Marks path) (slot : path = routeSlot) :
    ∃ queue reason, action = .route queue reason := by
  cases marks with
  | field first second =>
      exact absurd slot (splitPath?_ne_routeSlot (splitPath?_dotted first second))
  | route isRoute => exact ⟨_, _, isRoute⟩

/-- An action with a target marks its target. -/
theorem Action.Marks.eq_target {target : String} (marks : action.Marks path)
    (goal : action.target? = some target) : path = target := by
  cases marks with
  | field _ _ own => exact Option.some.inj (own.symm.trans goal)
  | route isRoute =>
      rw [isRoute] at goal
      cases goal

/-- An action with a target tells the tracker of its target or of nothing, and the slot of the
route is no target that it tells of. -/
theorem Action.tracker_of_target {target : String} (goal : action.target? = some target)
    (applied : action.apply catalog live workspace now = .ok (outcome, next)) :
    next.tracker = workspace.tracker ∨
      (target ≠ routeSlot ∧ next.tracker.writes = (target, now) :: workspace.tracker.writes) := by
  refine (apply_eq_ok_iff.mp applied).marks.imp id ?_
  rintro ⟨path, marks, told⟩
  obtain rfl := marks.eq_target goal
  refine ⟨fun slot => ?_, told⟩
  obtain ⟨queue, reason, isRoute⟩ := marks.route_of_slot slot
  rw [isRoute] at goal
  cases goal

end Actions

/-! ### Sessions -/

/-- What a session of actions adds to the tracker was marked by its actions. -/
def MarkedBy (session : List (Action × Writer)) (before after : WriteTracker) : Prop :=
  ∃ added, after.writes = added ++ before.writes ∧
    ∀ entry ∈ added, ∃ action, (action, entry.2) ∈ session ∧ action.Marks entry.1

section Sessions

variable {catalog : Catalog} {live : Bool}

/-- One action more. -/
theorem MarkedBy.cons {action : Action} {now : Writer} {session : List (Action × Writer)}
    {before middle after : WriteTracker}
    (first : middle = before ∨ ∃ path, action.Marks path ∧
      middle.writes = (path, now) :: before.writes)
    (later : MarkedBy session middle after) : MarkedBy ((action, now) :: session) before after := by
  obtain ⟨added, appended, marked⟩ := later
  have kept : ∀ entry ∈ added, ∃ other, (other, entry.2) ∈ (action, now) :: session ∧
      other.Marks entry.1 := by
    intro entry member
    obtain ⟨other, among, marks⟩ := marked entry member
    exact ⟨other, List.mem_cons_of_mem _ among, marks⟩
  rcases first with rfl | ⟨path, marks, told⟩
  · exact ⟨added, appended, kept⟩
  · refine ⟨added ++ [(path, now)], ?_, ?_⟩
    · rw [appended, told, List.append_assoc]
      rfl
    · intro entry member
      rcases List.mem_append.mp member with earlier | last
      · exact kept entry earlier
      · rw [List.mem_singleton.mp last]
        exact ⟨action, List.mem_cons_self, marks⟩

/-- In a session no action is interrupted by the store, and the tracker learns what is marked. -/
theorem performAll_marks (session : List (Action × Writer)) (workspace : Workspace) :
    (∀ e, .error (.store e) ∉ (performAll catalog live session workspace).1) ∧
      MarkedBy session workspace.tracker (performAll catalog live session workspace).2.tracker := by
  induction session generalizing workspace with
  | nil => exact ⟨fun _ => List.not_mem_nil, [], rfl, List.forall_mem_nil _⟩
  | cons step later ih =>
      obtain ⟨action, now⟩ := step
      rw [performAll, Action.perform_eq]
      cases applied : action.apply catalog live workspace now with
      | error e =>
          obtain ⟨clean, marked⟩ := ih workspace
          refine ⟨fun store member => ?_, .cons (.inl rfl) marked⟩
          -- An interruption is a sum or a literal, never the store's.
          rcases List.mem_cons.mp member with same | among
          · cases same
            exact Action.apply_ne_store_error store applied
          · exact clean store among
      | ok done =>
          obtain ⟨outcome, next⟩ := done
          obtain ⟨clean, marked⟩ := ih next
          refine ⟨fun store member => ?_, .cons (Action.apply_eq_ok_iff.mp applied).marks marked⟩
          rcases List.mem_cons.mp member with same | among
          · cases same
          · exact clean store among

end Sessions

/-- Cutting a text at its first dot and cutting it at every dot give the same. The catalog reads a
text as two names exactly if the store does, and that is if the text is the two with a dot between
them, both of them not empty and without a dot. What the one refuses as malformed the other refuses
too. So no action comes to a write that the store refuses, and an action with a target never tells
the tracker of the slot of the route. In a session of actions none is interrupted by the store, and
what the tracker learns about the slot it learns from route actions. -/
theorem paths_have_one_grammar :
    (∀ path, twoParts? path = splitPath? path) ∧
    (∀ path entity field,
      (splitPath? path = some (entity, field) ↔ Catalog.Addresses path entity field) ∧
        (Catalog.Addresses path entity field ↔ Store.Addresses path entity field) ∧
        (Store.Addresses path entity field ↔
          path = entity ++ "." ++ field ∧ IsName entity ∧ IsName field)) ∧
    (∀ path (catalog : Catalog) (store : Store) value,
      catalog.resolve path = .error (.malformedPath path) ↔
        store.write path value = .error (.malformedPath path)) ∧
    (∀ catalog live workspace now (action : Action),
      (∀ path value, action.Reaches catalog live workspace now path value →
        ∃ done, workspace.store.write path value = .ok done) ∧
      (∀ e, action.apply catalog live workspace now ≠ .error (.store e)) ∧
      ∀ target outcome next, action.target? = some target →
        action.apply catalog live workspace now = .ok (outcome, next) →
        next.tracker = workspace.tracker ∨
          (target ≠ routeSlot ∧
            next.tracker.writes = (target, now) :: workspace.tracker.writes)) ∧
    ∀ catalog live session workspace,
      (∀ e, .error (.store e) ∉ (performAll catalog live session workspace).1) ∧
        ∃ added, (performAll catalog live session workspace).2.tracker.writes =
            added ++ workspace.tracker.writes ∧
          ∀ entry ∈ added, entry.1 = routeSlot →
            ∃ queue reason, (Action.route queue reason, entry.2) ∈ session := by
  refine ⟨twoParts?_eq, fun path entity field => ⟨Catalog.addresses_iff.symm, ?_, ?_⟩,
    fun path catalog store value => ?_,
    fun catalog live workspace now action => ⟨?_, Action.apply_ne_store_error, ?_⟩,
    fun catalog live session workspace => ?_⟩
  · rw [Catalog.addresses_iff, Store.addresses_iff]
  · rw [Store.addresses_iff]
    exact splitPath?_eq_some_iff
  · rw [Catalog.resolve_malformed_iff, Store.write_malformed_iff]
  · intro path value reaches
    obtain ⟨entity, field, first, second, rfl⟩ := reaches.writes
    rw [Store.write, splitPath?_dotted first second]
    exact ⟨_, rfl⟩
  · intro target outcome next goal applied
    exact Action.tracker_of_target goal applied
  · obtain ⟨clean, added, told, marked⟩ :=
      @performAll_marks catalog live session workspace
    refine ⟨clean, added, told, fun entry member slot => ?_⟩
    obtain ⟨action, among, marks⟩ := marked entry member
    obtain ⟨queue, reason, isRoute⟩ := marks.route_of_slot slot
    exact ⟨queue, reason, isRoute ▸ among⟩

/-- An increment of the gross weight reaches a write, and one of the bare route is refused and
leaves no trace with the tracker. -/
theorem parcel_addressed :
    Catalog.Addresses "parcel.gross" "parcel" "gross" ∧
    (∃ done, (⟨[]⟩ : Store).write "parcel.gross" (.int 2) = .ok done) ∧
    ∃ outcome next, (Action.increment "route" (.int 2)).apply parcelCatalog true
        ⟨⟨[]⟩, .empty⟩ ⟨"raise", "act-1"⟩ = .ok (outcome, next) ∧
      outcome.refused = true ∧ next.tracker = .empty := by
  obtain ⟨_, grammar, _, actions, _⟩ := paths_have_one_grammar
  obtain ⟨_, both, store⟩ := grammar "parcel.gross" "parcel" "gross"
  obtain ⟨reached, _, _⟩ := actions parcelCatalog true ⟨⟨[]⟩, .empty⟩ ⟨"raise", "act-1"⟩
    (.increment "parcel.gross" (.int 2))
  obtain ⟨_, _, marked⟩ :=
    actions parcelCatalog true ⟨⟨[]⟩, .empty⟩ ⟨"raise", "act-1"⟩ (.increment "route" (.int 2))
  obtain ⟨outcome, next, applied, refused⟩ : ∃ outcome next,
      (Action.increment "route" (.int 2)).apply parcelCatalog true ⟨⟨[]⟩, .empty⟩
        ⟨"raise", "act-1"⟩ = .ok (outcome, next) ∧ outcome.refused = true := ⟨_, _, rfl, rfl⟩
  refine ⟨both.mpr (store.mpr (by decide)), reached _ _ ⟨rfl, none, [], rfl⟩, outcome, next,
    applied, refused, ?_⟩
  exact (marked _ _ _ rfl applied).resolve_right fun told => told.1 rfl

end Rulebook
