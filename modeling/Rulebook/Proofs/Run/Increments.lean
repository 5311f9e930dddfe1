import Mathlib.Algebra.BigOperators.Group.List.Basic
import Mathlib.Algebra.Ring.Int.Defs
import Rulebook.Proofs.Run.Footprint
import Rulebook.Proofs.Run.Refusal

/-!
Whole increments.

A number field that is incremented by whole amounts adds them up. The first amount takes the
place of what is there if that is no number, and from then on there is an integer to add to
(`raised`); an action with another target leaves the field alone (`Effect.read_of_target_ne`). So
neither what is done in between nor the order of the amounts is seen at the end
(`whole_increments_sum`).
-/

namespace Rulebook

/-! ### Sums -/

def Value.whole : Value → Int
  | .int n => n
  | _ => 0

def Store.wholeAt (store : Store) (path : String) : Int := ((store.read path).getD .null).whole

/-- What a field holds after a whole amount has been added to what it has held. -/
def raised (held : Option Value) (delta : Int) : Option Value :=
  some (.int ((held.getD .null).whole + delta))

/-- A whole delta is added to the whole of what stood there. -/
theorem Amount.addTo_whole {v : Value} (delta : Int) (whole : ∀ x, v ≠ .float x) :
    (Amount.int delta).addTo v = .ok (.int (v.whole + delta)) := by
  cases v with
  | int n => rfl
  | float x => exact absurd rfl (whole x)
  | null | bool _ | text _ | list _ | object _ =>
      have none : (0 : Int) + delta = delta := Int.zero_add delta
      simp only [Value.whole, none]
      rfl

/-- Whole deltas add up. -/
theorem foldl_raised_int (n : Int) (deltas : List Int) :
    deltas.foldl raised (some (.int n)) = some (.int (n + deltas.sum)) := by
  induction deltas generalizing n with
  | nil => rw [List.sum_nil, Int.add_zero, List.foldl_nil]
  | cons delta rest ih =>
      rw [List.foldl_cons, raised, ih, List.sum_cons, ← Int.add_assoc]
      rfl

/-- Only the first of the amounts sees what the field has held before. -/
theorem foldl_raised (held : Option Value) {deltas : List Int} (given : deltas ≠ []) :
    deltas.foldl raised held = some (.int ((held.getD .null).whole + deltas.sum)) := by
  cases deltas with
  | nil => exact absurd rfl given
  | cons delta rest =>
      rw [List.foldl_cons, raised, foldl_raised_int, List.sum_cons, Int.add_assoc]

/-! ### Single actions -/

/-- Other paths than one that is no part of the route are not in its cell. -/
theorem cellOf_ne_of_ne {path other : String} (apart : cellOf path ≠ routeSlot)
    (differs : other ≠ path) : cellOf other ≠ cellOf path := by
  intro same
  have route : cellOf other ≠ routeSlot := fun routed => apart (same.symm.trans routed)
  rw [cellOf_eq_self apart, cellOf_eq_self route] at same
  exact differs same

section Actions

variable {catalog : Catalog} {workspace next : Workspace} {action : Action} {now : Writer}
  {outcome : ActionOutcome} {path : String} {decl : FieldDecl}

/-- An action leaves every field as it was that is not its target and no part of the route. -/
theorem Effect.read_of_target_ne (effect : Effect catalog true workspace action now outcome next)
    (apart : cellOf path ≠ routeSlot) (elsewhere : action.target? ≠ some path) :
    next.store.read path = workspace.store.read path := by
  refine Store.read_congr ?_
  cases effect with
  | refused => rfl
  | event => rfl
  | @field target entity name before after issues planned split =>
      have differs : target ≠ path := by
        rintro rfl
        exact elsewhere (Writes.of_planned planned).target?_eq
      have other := @Store.content_put_of_ne workspace.store _ _ (cellOf_ne_of_ne apart differs)
        after
      rwa [Store.put_of_split _ split] at other
  | @route before after planned =>
      have differs : cellOf routeSlot ≠ cellOf path := by
        rw [cellOf_routeSlot]
        exact apart.symm
      have other := @Store.content_put_of_ne workspace.store _ _ differs after
      rwa [Store.put_routeSlot] at other

/-- So does an action that is interrupted. -/
theorem Action.read_of_target_ne (action : Action) (now : Writer) (workspace : Workspace)
    (apart : cellOf path ≠ routeSlot) (elsewhere : action.target? ≠ some path) :
    ((action.perform catalog true now).on workspace).2.store.read path =
      workspace.store.read path := by
  rw [perform_eq]
  cases applied : action.apply catalog true workspace now with
  | error e => rfl
  | ok done => exact (apply_eq_ok_iff.mp applied).read_of_target_ne apart elsewhere

/-- A live increment of a number field by a whole amount returns, unless a floating point number is
there, and the field holds the sum. -/
theorem Action.increment_raises (resolved : catalog.resolve path = .ok decl)
    (number : decl.type = .number) (whole : ∀ x, workspace.store.read path ≠ some (.float x))
    (now : Writer) (delta : Int) :
    ∃ outcome next, ((Action.increment path (.int delta)).perform catalog true now).on workspace =
        (.ok outcome, next) ∧
      outcome.trace.applied = true ∧
      next.store.read path = raised (workspace.store.read path) delta := by
  have checked : catalog.checkIncrement path = .ok () := by
    simp [Catalog.checkIncrement, resolved, number, bind, Except.bind, pure, Except.pure]
  have sum : (Amount.int delta).addTo ((workspace.store.read path).getD .null) =
      .ok (.int (workspace.store.wholeAt path + delta)) := by
    -- What is absent counts as nothing, which is no float either.
    refine Amount.addTo_whole delta fun x float => ?_
    cases held : workspace.store.read path with
    | none =>
        rw [held] at float
        cases float
    | some v =>
        rw [held] at float
        exact whole x (held.trans (congrArg some float))
  have writes :=
    @Writes.increment catalog workspace.store now.ruleId path (.int delta) _ checked sum
  obtain ⟨entity, name, split⟩ := writes.splits
  have applied := apply_eq_ok_iff.mpr
    (@Effect.field catalog true workspace _ now _ _ _ _ _ _ writes.planned split)
  refine ⟨_, _, by rw [perform_eq, applied], rfl, ?_⟩
  rw [Store.read_of_split split]
  exact Store.readField_writeField entity name _

end Actions

/-! ### Many actions -/

/-- Among these actions the path is the target of increments by these whole amounts, in this order,
and of no others. -/
inductive Interleaved (path : String) : List (Action × Writer) → List Int → Prop where
  | done : Interleaved path [] []
  | adds {now steps delta deltas} : Interleaved path steps deltas →
      Interleaved path ((.increment path (.int delta), now) :: steps) (delta :: deltas)
  | passes {action now steps deltas} : action.target? ≠ some path →
      Interleaved path steps deltas → Interleaved path ((action, now) :: steps) deltas

/-- An action with this target has returned, and was applied. -/
def AppliedTo (path : String) (step : Action × Writer)
    (result : Except Interruption ActionOutcome) : Prop :=
  step.1.target? = some path → ∃ outcome, result = .ok outcome ∧ outcome.trace.applied = true

/-- The amounts are added one after another, starting from what the field holds at first. -/
theorem Interleaved.raises {catalog : Catalog} {path : String} {decl : FieldDecl}
    {steps : List (Action × Writer)} {deltas : List Int} {workspace : Workspace}
    (interleaved : Interleaved path steps deltas) (resolved : catalog.resolve path = .ok decl)
    (number : decl.type = .number) (apart : cellOf path ≠ routeSlot)
    (whole : ∀ x, workspace.store.read path ≠ some (.float x)) :
    (performAll catalog true steps workspace).2.store.read path =
        deltas.foldl raised (workspace.store.read path) ∧
      List.Forall₂ (AppliedTo path) steps (performAll catalog true steps workspace).1 := by
  induction interleaved generalizing workspace with
  | done => exact ⟨rfl, .nil⟩
  | @adds now steps delta deltas _ ih =>
      obtain ⟨outcome, next, performed, applied, held⟩ :=
        Action.increment_raises resolved number whole now delta
      -- from here on the field holds an integer
      have stays : ∀ x, next.store.read path ≠ some (.float x) := by
        intro x float
        cases held.symm.trans float
      obtain ⟨final, later⟩ := ih stays
      rw [performAll, performed]
      refine ⟨?_, .cons (fun _ => ⟨outcome, rfl, applied⟩) later⟩
      rw [final, held, List.foldl_cons]
  | @passes action now steps deltas elsewhere _ ih =>
      have held := @Action.read_of_target_ne catalog path action now workspace apart elsewhere
      have stays : ∀ x, ((action.perform catalog true now).on workspace).2.store.read path ≠
          some (.float x) := by rwa [held]
      obtain ⟨final, later⟩ := ih stays
      rw [performAll]
      refine ⟨?_, .cons (fun target => absurd target elsewhere) later⟩
      rw [final, held]

/-- Whole amounts by which a number field is incremented are added up: a field that holds no
floating point number at first ends up with the sum of them and of the integer that it has held, if
it has held one. Each of the increments is applied. The other actions among them and the order of
the amounts make no difference. -/
theorem whole_increments_sum (catalog : Catalog) (path : String) (decl : FieldDecl)
    (workspace : Workspace) (deltas : List Int) (resolved : catalog.resolve path = .ok decl)
    (number : decl.type = .number) (apart : cellOf path ≠ routeSlot)
    (whole : ∀ x, workspace.store.read path ≠ some (.float x)) (given : deltas ≠ []) :
    ∀ order : List Int, order.Perm deltas → ∀ steps, Interleaved path steps order →
      (performAll catalog true steps workspace).2.store.read path =
          some (.int (workspace.store.wholeAt path + deltas.sum)) ∧
        List.Forall₂ (AppliedTo path) steps (performAll catalog true steps workspace).1 := by
  intro order reordered steps interleaved
  obtain ⟨final, applied⟩ := interleaved.raises resolved number apart whole
  have left : order ≠ [] := by
    rintro rfl
    exact given reordered.nil_eq.symm
  refine ⟨?_, applied⟩
  rw [final, foldl_raised _ left, reordered.sum_eq]
  rfl

def tankCatalog : Catalog :=
  ⟨[⟨"tank", [⟨"level", .number, none, none⟩, ⟨"label", .string, none, none⟩], none⟩]⟩

def tankWorkspace : Workspace := ⟨⟨[("tank", .record [("level", .bool true)])]⟩, .empty⟩

def fillFirst : List (Action × Writer) :=
  [(.increment "tank.level" (.int 5), ⟨"fill", "act-1"⟩),
    (.set "tank.label" (.literal (.text "full") none), ⟨"fill", "act-2"⟩),
    (.increment "tank.level" (.int (-2)), ⟨"drain", "act-3"⟩)]

def drainFirst : List (Action × Writer) :=
  [(.route "valve" none, ⟨"drain", "act-1"⟩),
    (.increment "tank.level" (.int (-2)), ⟨"drain", "act-2"⟩),
    (.increment "tank.level" (.int 5), ⟨"fill", "act-3"⟩)]

/-- What is true does not count as one, whether the tank is filled first or drained first. -/
theorem tank_level_summed :
    Interleaved "tank.level" fillFirst [5, -2] ∧ Interleaved "tank.level" drainFirst [-2, 5] ∧
      (performAll tankCatalog true fillFirst tankWorkspace).2.store.read "tank.level" =
        some (.int 3) ∧
      (performAll tankCatalog true drainFirst tankWorkspace).2.store.read "tank.level" =
        some (.int 3) := by
  have held : tankWorkspace.store.read "tank.level" = some (.bool true) := by decide +kernel
  have filled : Interleaved "tank.level" fillFirst [5, -2] :=
    .adds (.passes (by decide) (.adds .done))
  have drained : Interleaved "tank.level" drainFirst [-2, 5] :=
    .passes (by decide) (.adds (.adds .done))
  have summed := whole_increments_sum tankCatalog "tank.level" ⟨"level", .number, none, none⟩
    tankWorkspace [5, -2] rfl rfl (by decide) (by simp [held]) (by decide)
  have base : tankWorkspace.store.wholeAt "tank.level" + [5, -2].sum = 3 := by
    rw [Store.wholeAt, held]
    rfl
  rw [base] at summed
  exact ⟨filled, drained, (summed _ (.refl _) _ filled).1, (summed _ (.swap ..) _ drained).1⟩

end Rulebook
