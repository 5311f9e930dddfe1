import Rulebook.Proofs.Evaluate.Respelling
import Rulebook.Proofs.Number.Sum
import Rulebook.Proofs.Run.Keyed
import Rulebook.Proofs.State.Document

/-!
Actions that change nothing.

An action that changes nothing has written what is strictly equal to what was there:
`Calm` has one constructor for each way to do so, and `Effect.calm` says that these are all.
A calm action therefore leaves a store that is alike, and on a store that is alike it can be
applied once more and changes nothing again (`Calm.repeats`).
-/

namespace Rulebook

/-! ### Routes -/

namespace Plan

/-- What a route action leaves as it is has its queue and its reason already. -/
def HasRoute (queue : String) (reason : Option String) (route : Value) : Prop :=
  ∃ fields, route = .object fields ∧ Fields.get? (.text "queue") fields = some (.text queue) ∧
    Fields.get? (.text "reason") fields = some (.ofText? reason)

variable {queue : String} {reason : Option String}

theorem routed_of_hasRoute {route : Value} (has : HasRoute queue reason route) :
    routed (some route) queue reason = route := by
  obtain ⟨fields, rfl, hasQueue, hasReason⟩ := has
  simp only [routed, Fields.set_get?_self hasQueue, Fields.set_get?_self hasReason]

theorem ofText?_plain (reason : Option String) :
    (Value.ofText? reason).isScalar = true ∧ (Value.ofText? reason).looseOf? = none ∧
      (Value.ofText? reason).position? = none := by
  cases reason <;> exact ⟨rfl, rfl, rfl⟩

/-- A route that is strictly equal to what it is replaced by is not changed at all. -/
theorem hasRoute_of_strictEq {route : Value}
    (equal : route.strictEq (routed (some route) queue reason) = true) :
    HasRoute queue reason route := by
  cases route with
  | object fields =>
      have lengths : fields.length = (Fields.set (.text "reason") (.ofText? reason)
          (Fields.set (.text "queue") (.text queue) fields)).length := by
        simp only [routed, Value.strictEq, Value.agrees, Bool.and_eq_true, beq_iff_eq] at equal
        exact equal.1
      -- neither of the two entries is new, or there would be more of them
      have sameQueue : (Fields.set (.text "queue") (.text queue) fields).length = fields.length :=
        le_antisymm (Fields.length_le_set.trans lengths.ge) Fields.length_le_set
      have queueIn : Key.text "queue" ∈ fields.map Prod.fst := Fields.mem_of_length_set sameQueue
      have reasonIn : Key.text "reason" ∈ fields.map Prod.fst := by
        have present := Fields.mem_of_length_set (lengths.symm.trans sameQueue.symm)
        rwa [Fields.map_fst_set_of_mem queueIn] at present
      refine ⟨fields, rfl, ?_, ?_⟩
      · refine Value.get?_of_agrees equal queueIn ?_ rfl rfl
        rw [Fields.get?_set_of_ne (by decide), Fields.get?_set_self]
      · exact Value.get?_of_agrees equal reasonIn (Fields.get?_set_self ..)
          (ofText?_plain reason).1 (ofText?_plain reason).2.1
  | list items => cases equal
  | _ =>
      rcases (Value.strictEq_scalar_iff rfl).mp equal with ⟨same, _⟩ | ⟨p, _, placed⟩
      · cases same
      · cases placed

/-- Spelling does not matter to it. -/
theorem HasRoute.alike {loose : String → String → Prop} {v w : Value} (keyedV : v.Keyed)
    (has : HasRoute queue reason v) (alike : EntryAlike loose routeSlot v w) :
    HasRoute queue reason w := by
  obtain ⟨fields, rfl, hasQueue, hasReason⟩ := has
  rcases alike with rfl | ⟨fs, gs, same, rfl, related⟩
  · exact ⟨fields, rfl, hasQueue, hasReason⟩
  · cases same
    have found : ∀ {key : Key} {x : Value}, Fields.get? key fields = some x → x.isScalar = true →
        x.position? = none → Fields.get? key gs = some x := by
      intro key x inFs plain unplaced
      have pair := related.get? key
      cases inGs : Fields.get? key gs with
      | none => rw [inFs, inGs] at pair; cases pair
      | some y =>
          rw [inFs, inGs] at pair
          cases pair with
          | some cell => rw [cell.alike.eq_of_unplaced plain unplaced]
    exact ⟨gs, rfl, found hasQueue rfl rfl,
      found hasReason (ofText?_plain reason).1 (ofText?_plain reason).2.2⟩

end Plan

/-! ### Calm actions -/

/-- The ways in which a live action leaves the facts equal. What it respells is loose, and
so is what it copies from a loose fact; a loose fact is incremented by no whole amount but
zero. -/
inductive Calm (loose : String → String → Prop) (catalog : Catalog) (store : Store) :
    Action → Store → Prop where
  | refused {action} : Refuses catalog store action → Calm loose catalog store action store
  | event {name payload} : Calm loose catalog store (.emit name payload) store
  | route {queue reason route} :
      store.readRoute = some route → Plan.HasRoute queue reason route →
      Calm loose catalog store (.route queue reason) store
  | set {target value issue entity name before after} :
      Plan.checkWrite catalog target value = .ok issue → value.resolve store = some after →
      splitPath? target = some (entity, name) → store.readField entity name = some before →
      before.strictEq after = true → before = after ∨ loose entity name →
      (value.IsLoose loose → loose entity name) →
      Calm loose catalog store (.set target value) (store.writeField entity name after)
  | increment {target delta entity name before after} :
      catalog.checkIncrement target = .ok () → delta.addTo before = .ok after →
      splitPath? target = some (entity, name) → store.readField entity name = some before →
      before.strictEq after = true → before = after ∨ loose entity name →
      (loose entity name → ∀ d, delta = .int d → d = 0) →
      Calm loose catalog store (.increment target delta) (store.writeField entity name after)

/-- What an applied action has respelt is loose, and what it has copied from a loose fact. -/
structure ActionOutcome.Covered (loose : String → String → Prop) (outcome : ActionOutcome) :
    Prop where
  respelt : ∀ {path entity name}, outcome.trace.applied = true → outcome.trace.path = some path →
    outcome.trace.before ≠ outcome.trace.after → splitPath? path = some (entity, name) →
    loose entity name
  copied : ∀ {target ref entity name}, outcome.trace.applied = true →
    outcome.trace.action = .set target (.fact ref) → Store.LoosePath loose ref.path →
    splitPath? target = some (entity, name) → loose entity name

/-- The action adds no whole amount but zero to a loose fact. -/
def Action.Exact (loose : String → String → Prop) (action : Action) : Prop :=
  ∀ {target d entity name}, action = .increment target (.int d) →
    splitPath? target = some (entity, name) → loose entity name → d = 0

/-- A write is no change where the value was there and was equal. -/
theorem isChange_eq_false_iff {before : Option Value} {after : Value} :
    isChange before after = false ↔ ∃ v, before = some v ∧ v.strictEq after = true := by
  cases before <;> simp [isChange]

/-- Appending always changes the facts. -/
theorem Plan.isChange_appended (current : Option Value) (v : Value) :
    isChange (appended current v).1 (appended current v).2 = true := by
  obtain ⟨items, same, origin⟩ := appended_eq current v
  rw [same]
  simp only [isChange, Bool.not_eq_true']
  rcases origin with list | ⟨rfl, other⟩
  · rw [list, Bool.eq_false_iff]
    intro equal
    have lengths := (Value.strictEqItems_iff.mp equal).length_eq
    simp at lengths
  · cases shown : current.getD (.list []) with
    | list xs => exact absurd shown (other xs)
    | object fields => rfl
    | _ =>
        rw [Bool.eq_false_iff]
        intro equal
        rcases (Value.strictEq_scalar_iff rfl).mp equal with ⟨same, _⟩ | ⟨p, _, placed⟩
        · cases same
        · cases placed

theorem Store.writeRoute_self {store : Store} {route : Value}
    (found : store.readRoute = some route) : store.writeRoute route = store := by
  rw [writeRoute, Fields.set_get?_self found]

section Actions

variable {loose : String → String → Prop} {catalog : Catalog} {action : Action} {now : Writer}

/-- An action that changed nothing was calm. -/
theorem Effect.calm {workspace next : Workspace} {outcome : ActionOutcome}
    (effect : Effect catalog true workspace action now outcome next)
    (unchanged : outcome.mutated = false) (covered : outcome.Covered loose)
    (exactly : action.Exact loose) :
    Calm loose catalog workspace.store action next.store := by
  cases effect with
  | refused planned =>
      cases Planned.of_eq planned with
      | refuse refuses => exact .refused refuses
  | event planned =>
      cases Planned.of_eq planned with
      | event => exact .event
  | @field target entity name before after issues planned split =>
      rw [Action.writeOutcome_mutated, Bool.true_and] at unchanged
      -- If it was written differently, that is covered, so its path is a loose one.
      have spelling : ∀ v, before = some v → v = after ∨ loose entity name := by
        intro v found
        by_cases same : v = after
        · exact .inl same
        · refine .inr (covered.respelt rfl rfl ?_ split)
          simpa [Action.writeOutcome, shown, found] using same
      cases Writes.of_planned planned with
      | @set _ value issue _ checked resolved =>
          obtain ⟨v, found, equal⟩ := isChange_eq_false_iff.mp unchanged
          have respelt := spelling v found
          rw [Store.read_of_split split] at found
          refine .set checked resolved split found equal respelt ?_
          rintro ⟨ref, rfl, free⟩
          exact covered.copied rfl rfl free split
      | append checked resolved =>
          -- A list grows by what is appended, so this is always a change.
          cases unchanged.symm.trans (Plan.isChange_appended _ _)
      | @increment _ delta _ checked sum =>
          obtain ⟨v, found, equal⟩ := isChange_eq_false_iff.mp unchanged
          have respelt := spelling v found
          rw [found] at sum
          rw [Store.read_of_split split] at found
          refine .increment checked sum split found equal respelt ?_
          rintro free d rfl
          exact exactly rfl split free
  | @route before after planned =>
      cases Planned.of_eq planned with
      | route =>
          rw [Action.writeOutcome_mutated, Bool.true_and] at unchanged
          obtain ⟨route, found, equal⟩ := isChange_eq_false_iff.mp unchanged
          rw [found] at equal ⊢
          have has := Plan.hasRoute_of_strictEq equal
          rw [Plan.routed_of_hasRoute has, if_pos rfl, Store.writeRoute_self found]
          exact .route found has

/-- A calm action leaves a store that is alike. -/
theorem Calm.alikeBut {store after : Store} (calm : Calm loose catalog store action after) :
    store.AlikeBut loose after := by
  cases calm with
  | refused => exact .refl store
  | event => exact .refl store
  | route => exact .refl store
  | set _ _ _ found equal respelt _ =>
      refine Store.alikeBut_writeField found ?_
      exact respelt.imp id fun free => ⟨⟨_, rfl, free⟩, equal⟩
  | increment _ _ _ found equal respelt _ =>
      refine Store.alikeBut_writeField found ?_
      exact respelt.imp id fun free => ⟨⟨_, rfl, free⟩, equal⟩

/-- Writing over a field what is strictly equal to its value changes nothing. -/
theorem unchanged_of_strictEq {store : Store} {path entity name : String} {v x : Value}
    {issues : List Issue} {conflict : Option String} (split : splitPath? path = some (entity, name))
    (found : store.readField entity name = some v) (equal : v.strictEq x = true) :
    (action.writeOutcome true now path (store.read path) x issues conflict).mutated = false := by
  rw [Action.writeOutcome_mutated, Bool.true_and, isChange_eq_false_iff, Store.read_of_split split]
  exact ⟨v, found, equal⟩

/-- An amount that leaves a number equal leaves an alike one alike, unless it is whole and
not zero and the number is loose. -/
theorem CellAlike.addTo {entity name : String} {v w x : Value} {delta : Amount}
    (cell : CellAlike loose entity (.text name) v w) (sum : delta.addTo v = .ok x)
    (equal : v.strictEq x = true) (exactly : loose entity name → ∀ d, delta = .int d → d = 0) :
    ∃ y, delta.addTo w = .ok y ∧ CellAlike loose entity (.text name) x y := by
  rcases cell with rfl | ⟨⟨field, key, free⟩, equalVW⟩
  · exact ⟨x, sum, .inl rfl⟩
  · cases key
    obtain ⟨p, atV, atX⟩ := Value.position?_of_strictEq equal (Amount.isNumber_of_addTo sum)
    have atW := (Value.Alike.position?_eq (.inr equalVW)).symm.trans atV
    obtain ⟨y, sumT, atY⟩ := Amount.addTo_position (exactly free) atV atW sum
    exact ⟨y, sumT, .inr ⟨⟨_, rfl, free⟩, Value.strictEq_of_position? atX (atY.trans atX)⟩⟩

section Again

variable {s t : Store} (alike : s.AlikeBut loose t) (keyedS : s.Keyed) (keyedT : t.Keyed)

include alike keyedS keyedT

/-- What is refused on one state is refused on a respelt one. -/
theorem Refuses.of_alike (refuses : Refuses catalog s action) : Refuses catalog t action := by
  have absent : ∀ {value : Operand}, value.resolve s = none → value.resolve t = none := by
    intro value inS
    rcases value.resolve_cases alike keyedS keyedT with ⟨_, inT⟩ | ⟨v, _, found, _⟩
    · exact inT
    · cases inS.symm.trans found
  cases refuses with
  | set blocked => exact .set (blocked.imp id absent)
  | append blocked => exact .append (blocked.imp id absent)
  | increment failed => exact .increment failed

theorem readField_alike {entity name : String} {v : Value}
    (found : s.readField entity name = some v) :
    ∃ w, t.readField entity name = some w ∧ v.Keyed ∧ w.Keyed ∧
      CellAlike loose entity (.text name) v w := by
  have pair := alike.readField entity name
  cases inT : t.readField entity name with
  | none => rw [found, inT] at pair; cases pair
  | some w =>
      rw [found, inT] at pair
      cases pair with
      | some cell => exact ⟨w, rfl, keyedS.readField found, keyedT.readField inT, cell⟩

theorem readRoute_alike {route : Value} (found : s.readRoute = some route) :
    ∃ w, t.readRoute = some w ∧ route.Keyed ∧ w.Keyed ∧ EntryAlike loose routeSlot route w := by
  have pair := alike.readRoute
  cases inT : t.readRoute with
  | none => rw [found, inT] at pair; cases pair
  | some w =>
      rw [found, inT] at pair
      cases pair with
      | some entry =>
          exact ⟨w, rfl, keyedS.values _ (Fields.get?_mem found),
            keyedT.values _ (Fields.get?_mem inT), entry⟩

/-- What a write takes from an alike store is alike, and loose where it comes from a loose
fact. -/
theorem resolve_alike_cell {value : Operand} {entity name : String} {x : Value}
    (resolved : value.resolve s = some x) (copied : value.IsLoose loose → loose entity name) :
    ∃ y, value.resolve t = some y ∧ x.Keyed ∧ y.Keyed ∧
      CellAlike loose entity (.text name) x y := by
  rcases value.resolve_cases alike keyedS keyedT with
    ⟨absent, _⟩ | ⟨x', y, inS, inT, keyedX, keyedY, both, same⟩
  · cases resolved.symm.trans absent
  · cases resolved.symm.trans inS
    refine ⟨y, inT, keyedX, keyedY, ?_⟩
    rcases both with rfl | equal
    · exact .inl rfl
    · rcases same with free | rfl
      · exact .inr ⟨⟨name, rfl, copied free⟩, equal⟩
      · exact .inl rfl

/-- Where a write has left a field equal, the write of an alike value does so in an alike
store. -/
theorem Writes.repeats {target entity name : String} {v x y : Value} {issues : List Issue}
    {now : Writer}
    (writes : Writes catalog t now.ruleId action target (t.read target) y issues)
    (split : splitPath? target = some (entity, name)) (found : s.readField entity name = some v)
    (equal : v.strictEq x = true) (keyedX : x.Keyed) (keyedY : y.Keyed)
    (cell : CellAlike loose entity (.text name) x y) (tracker : WriteTracker) :
    ∃ outcome next, Effect catalog true ⟨t, tracker⟩ action now outcome next ∧
      (s.writeField entity name x).AlikeBut loose next.store ∧ outcome.mutated = false ∧
      (y.Unmixed → t.Unmixed → next.store.Unmixed) := by
  obtain ⟨w, inT, keyedV, keyedW, before⟩ := readField_alike alike keyedS keyedT found
  have equalT : w.strictEq y = true := by
    rw [← Value.Alike.strictEq_congr keyedV keyedW keyedX keyedY before.alike cell.alike]
    exact equal
  refine ⟨_, _, .field writes.planned split, alike.writeField cell,
    unchanged_of_strictEq split inT equalT, ?_⟩
  intro value unmixed
  exact unmixed.writeField entity name value

/-- A calm action can be applied on an alike store. It changes nothing there either, and
mixes no object. -/
theorem Calm.repeats {after : Store} (calm : Calm loose catalog s action after)
    (tracker : WriteTracker) (now : Writer) :
    ∃ outcome next, Effect catalog true ⟨t, tracker⟩ action now outcome next ∧
      after.AlikeBut loose next.store ∧ outcome.mutated = false ∧
      (t.Unmixed → next.store.Unmixed) := by
  cases calm with
  | refused refuses =>
      obtain ⟨target, issue, planned⟩ :=
        @Refuses.planned catalog t now.ruleId action (.of_alike alike keyedS keyedT refuses)
      exact ⟨_, _, .refused planned, alike, rfl, id⟩
  | event =>
      exact ⟨_, _, .event rfl, alike, by simp [ActionOutcome.mutated, Action.eventOutcome], id⟩
  | @route queue reason _ found has =>
      obtain ⟨w, inT, keyedV, keyedW, entry⟩ := readRoute_alike alike keyedS keyedT found
      have hasW := has.alike keyedV entry
      -- The slot holds this route on the other state as well.
      have unmoved : t.writeRoute (Plan.routed t.readRoute queue reason) = t := by
        rw [inT, Plan.routed_of_hasRoute hasW, Store.writeRoute_self inT]
      refine ⟨_, _, .route rfl, ?_, ?_, ?_⟩
      · rwa [if_pos rfl, unmoved]
      · rw [Action.writeOutcome_mutated, Bool.true_and, isChange_eq_false_iff, inT,
          Plan.routed_of_hasRoute hasW]
        refine ⟨w, rfl, ?_⟩
        obtain ⟨fields, rfl, _⟩ := hasW
        exact Value.agrees_refl keyedW.wellKeyed
      · rw [if_pos rfl, unmoved]
        exact id
  | @set target value issue entity name v x checked resolved split found equal respelt copied =>
      obtain ⟨y, resolvedT, keyedX, keyedY, cell⟩ :=
        resolve_alike_cell alike keyedS keyedT resolved copied
      have writes := @Writes.set catalog t now.ruleId target value issue y checked resolvedT
      obtain ⟨outcome, next, effect, alikeNext, unchanged, unmixed⟩ :=
        writes.repeats alike keyedS keyedT split found equal keyedX keyedY cell tracker
      exact ⟨outcome, next, effect, alikeNext, unchanged,
        fun unmixedT => unmixed (unmixedT.resolve resolvedT) unmixedT⟩
  | @increment target delta entity name v x checked sum split found equal respelt exactly =>
      obtain ⟨w, inT, keyedV, keyedW, before⟩ := readField_alike alike keyedS keyedT found
      obtain ⟨y, sumT, cell⟩ := before.addTo sum equal exactly
      have reads : t.read target = some w := (Store.read_of_split split).trans inT
      have writes := @Writes.increment catalog t now.ruleId target delta y checked (by rwa [reads])
      have plain : ∀ {u z : Value}, delta.addTo u = .ok z → z.isScalar = true := fun sum =>
        Value.isScalar_of_isNumber (Amount.isNumber_of_addTo sum)
      obtain ⟨outcome, next, effect, alikeNext, unchanged, unmixed⟩ :=
        writes.repeats alike keyedS keyedT split found equal (.scalar (plain sum))
          (.scalar (plain sumT)) cell tracker
      exact ⟨outcome, next, effect, alikeNext, unchanged, unmixed (.scalar (plain sumT))⟩

end Again

end Actions

end Rulebook
