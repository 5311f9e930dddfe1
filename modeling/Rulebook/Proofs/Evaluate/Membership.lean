import Rulebook.Proofs.Evaluate.Respelling

/-!
Membership.

A value is looked for among items in three ways: by a comparison with a list on the left or on the
right, and by a test against options. The test is the choice of the equations with its options
(`Condition.oneOf_result_iff`, `Condition.equations_result_iff`), so absent facts are equal to
nothing in both. It has the value on the left of strict equality where the comparisons have the
item there, and all three tell whether some item is strictly equal to the value
(`membership_tests_agree`), whatever the order of the items and however often they are repeated.
-/

namespace Rulebook

namespace Value

variable {items kept : List Value} {x : Value}

/-! ### Repeated items -/

/-- Some item is strictly equal to the value. -/
def Among (x : Value) (items : List Value) : Prop := ∃ item ∈ items, item.strictEq x = true

theorem hasItem_iff : hasItem items x = true ↔ x.Among items := List.any_eq_true

/-- What is kept are items of the list, and every item is kept or repeats one that is. -/
structure Thins (kept items : List Value) : Prop where
  subset : kept ⊆ items
  covers : ∀ item ∈ items, ∃ v ∈ kept, v.Alike item

theorem Thins.of_perm (perm : kept.Perm items) : Thins kept items where
  subset := perm.subset
  covers := by
    intro item member
    exact ⟨item, perm.mem_iff.mpr member, .refl item⟩

/-- The items that repeat no earlier one. -/
def withoutRepeats : List Value → List Value
  | [] => []
  | item :: rest => item :: (withoutRepeats rest).filter fun later => !item.strictEq later

theorem withoutRepeats_sublist (items : List Value) : (withoutRepeats items).Sublist items := by
  induction items with
  | nil => exact .slnil
  | cons item rest ih => exact (List.filter_sublist.trans ih).cons_cons item

/-- No two of the items that are kept are equal. -/
theorem withoutRepeats_apart (items : List Value) :
    (withoutRepeats items).Pairwise fun v w => v.strictEq w = false := by
  induction items with
  | nil => exact .nil
  | cons item rest ih =>
      refine .cons ?_ (ih.sublist List.filter_sublist)
      intro later member
      simpa using (List.mem_filter.mp member).2

/-- Leaving out repeats keeps an equal item for each that was left out. -/
theorem thins_withoutRepeats (wellKeyed : ∀ item ∈ items, item.WellKeyed) :
    Thins (withoutRepeats items) items where
  subset := (withoutRepeats_sublist items).subset
  covers := by
    induction items with
    | nil => exact nofun
    | cons first rest ih =>
        intro item member
        obtain ⟨keyedFirst, keyedRest⟩ := List.forall_mem_cons.mp wellKeyed
        rcases List.mem_cons.mp member with rfl | inside
        · exact ⟨item, List.mem_cons_self, .refl item⟩
        · obtain ⟨v, stays, alike⟩ := ih keyedRest item inside
          by_cases repeats : first.strictEq v = true
          · -- what stands for the item is left out, and so the first item stands for both
            have keyedV := keyedRest v ((withoutRepeats_sublist rest).subset stays)
            refine ⟨first, List.mem_cons_self, .inr ?_⟩
            rcases alike with rfl | equal
            · exact repeats
            · exact keyedFirst.strictEq_trans keyedV (keyedRest item inside) repeats equal
          · have passes : v ∈ (withoutRepeats rest).filter fun later => !first.strictEq later :=
              List.mem_filter.mpr ⟨stays, by simpa using repeats⟩
            exact ⟨v, List.mem_cons_of_mem _ passes, alike⟩

/-- A list and what is kept of it have the same values among their items. -/
theorem Thins.among_iff (thins : Thins kept items) (wellKeyed : ∀ item ∈ items, item.WellKeyed)
    (keyedX : x.WellKeyed) : x.Among kept ↔ x.Among items := by
  constructor
  · rintro ⟨v, stays, equal⟩
    exact ⟨v, thins.subset stays, equal⟩
  · rintro ⟨item, member, equal⟩
    obtain ⟨v, stays, alike⟩ := thins.covers item member
    refine ⟨v, stays, ?_⟩
    rcases alike with rfl | same
    · exact equal
    · have keyedV := wellKeyed v (thins.subset stays)
      exact keyedV.strictEq_trans (wellKeyed item member) keyedX same equal

/-- It does not matter on which side of strict equality the items are. -/
theorem among_iff_strictEq (wellKeyed : ∀ item ∈ items, item.WellKeyed) (keyedX : x.WellKeyed) :
    x.Among items ↔ ∃ item ∈ items, x.strictEq item = true := by
  refine exists_congr fun item => and_congr_right fun member => ?_
  have keyed := wellKeyed item member
  exact ⟨keyed.strictEq_symm keyedX, keyedX.strictEq_symm keyed⟩

end Value

/-! ### Tests and equations -/

namespace Condition

variable {store : Store} {value : Operand} {options : List Operand}

/-- A test holds where the value is there and strictly equal to an option that is. -/
theorem oneOf_result_iff :
    (oneOfTrace store value options).result = true ↔
      ∃ x, value.resolve store = some x ∧
        ∃ item ∈ options.filterMap (·.resolve store), x.strictEq item = true := by
  simp only [oneOfTrace, ConditionTrace.result, List.any_map, Option.any_eq_true,
    List.any_eq_true, Function.comp, List.mem_filterMap]
  refine exists_congr fun x => and_congr_right fun _ => ?_
  constructor
  · rintro ⟨option, member, item, resolved, equal⟩
    exact ⟨item, ⟨option, member, resolved⟩, equal⟩
  · rintro ⟨item, ⟨option, member, resolved⟩, equal⟩
    exact ⟨option, member, item, resolved, equal⟩

/-- An equation holds where both sides resolve to equal values. -/
theorem equation_result_iff {option : Operand} :
    (compareTrace store value .equals option).result = true ↔
      ∃ x item, value.resolve store = some x ∧ option.resolve store = some item ∧
        x.strictEq item = true := by
  cases resolved : value.resolve store with
  | none => simp [compareTrace, ConditionTrace.result, resolved]
  | some x =>
      cases found : option.resolve store <;>
        simp [compareTrace, ConditionTrace.result, resolved, found, Operator.holds]

/-- Each of the equations has a trace. -/
theorem evaluateEach_equations (store : Store) (value : Operand) (options : List Operand) :
    evaluateEach store (options.map fun option => compare value .equals option) =
      .ok (options.map fun option => compareTrace store value .equals option) := by
  induction options with
  | nil => rfl
  | cons option rest ih =>
      exact evaluateEach_cons_eq_ok_iff.mpr ⟨_, _, rfl, ih, rfl⟩

/-- One of the equations holds where the test does. -/
theorem equations_result_iff :
    (options.map fun option => compareTrace store value .equals option).any (·.result) = true ↔
      (oneOfTrace store value options).result = true := by
  rw [oneOf_result_iff, List.any_map, List.any_eq_true]
  simp only [Function.comp, equation_result_iff, List.mem_filterMap]
  constructor
  · rintro ⟨option, member, x, item, resolved, found, equal⟩
    exact ⟨x, resolved, item, ⟨option, member, found⟩, equal⟩
  · rintro ⟨x, resolved, item, ⟨option, member, found⟩, equal⟩
    exact ⟨option, member, x, item, resolved, found, equal⟩

end Condition

/-! ### The three tests -/

/-- Whichever way a value is looked for among items, it is found exactly if the statement holds:
by a comparison with the list on either side, and by a test against options of which those that
are there have the items as their values. -/
structure Value.FoundIff (items : List Value) (x : Value) (statement : Prop) : Prop where
  contains : Operator.contains.holds (.list items) x = true ↔ statement
  memberOf : Operator.memberOf.holds x (.list items) = true ↔ statement
  oneOf : ∀ (store : Store) (value : Operand) (options : List Operand),
    value.resolve store = some x → options.filterMap (·.resolve store) = items →
    ∃ trace, (Condition.oneOf value options).evaluate store = .ok trace ∧
      (trace.result = true ↔ statement)

/-- Searching a list and comparing with one item after another find the same. -/
theorem Value.foundIff_among {items : List Value} {x : Value}
    (wellKeyed : ∀ item ∈ items, item.WellKeyed) (keyedX : x.WellKeyed) :
    FoundIff items x (x.Among items) where
  contains := hasItem_iff
  memberOf := hasItem_iff
  oneOf := by
    intro store value options resolved found
    refine ⟨_, rfl, ?_⟩
    rw [Condition.oneOf_result_iff, found, among_iff_strictEq wellKeyed keyedX]
    constructor
    · rintro ⟨y, resolved', equal⟩
      cases resolved.symm.trans resolved'
      exact equal
    · intro equal
      exact ⟨x, resolved, equal⟩

/-- A test against options has the result of the choice of its equations, also where facts are
absent or null. Among values whose objects are mappings, with or without a `nan`, comparisons and
tests find one exactly if some item is strictly equal to it, and they find the same values when the
items are reordered, or when repeated ones are left out. -/
theorem membership_tests_agree :
    (∀ (store : Store) (value : Operand) (options : List Operand), ∃ tested chosen,
      (Condition.oneOf value options).evaluate store = .ok tested ∧
      (Condition.any (options.map fun option => .compare value .equals option)).evaluate store =
        .ok chosen ∧ tested.result = chosen.result) ∧
    ∀ (items : List Value) (x : Value), (∀ item ∈ items, item.WellKeyed) → x.WellKeyed →
      Value.FoundIff items x (x.Among items) ∧
      (∀ others, others.Perm items → Value.FoundIff others x (x.Among items)) ∧
      (∀ kept, Value.Thins kept items → Value.FoundIff kept x (x.Among items)) ∧
      Value.Thins (Value.withoutRepeats items) items ∧
      (Value.withoutRepeats items).Pairwise fun v w => v.strictEq w = false := by
  constructor
  · intro store value options
    refine ⟨_, _, rfl, Condition.evaluate_any_eq_ok_iff.mpr
      ⟨_, Condition.evaluateEach_equations store value options, rfl⟩, ?_⟩
    exact Bool.eq_iff_iff.mpr Condition.equations_result_iff.symm
  · intro items x wellKeyed keyedX
    have thinned : ∀ kept, Value.Thins kept items → Value.FoundIff kept x (x.Among items) := by
      intro kept thins
      rw [← thins.among_iff wellKeyed keyedX]
      exact Value.foundIff_among (fun v stays => wellKeyed v (thins.subset stays)) keyedX
    refine ⟨Value.foundIff_among wellKeyed keyedX, ?_, thinned,
      Value.thins_withoutRepeats wellKeyed, Value.withoutRepeats_apart items⟩
    intro others perm
    exact thinned others (.of_perm perm)

/-- Sizes, of which the third repeats the first in another type. -/
def sizeItems : List Value := [.int 1, .text "one", .float (.ofInt 1), .null]

/-- The repeated size is left out and still found, in the list of the others and among options
that have the absent size of a box between them. -/
theorem repeated_size_found :
    (∀ item ∈ sizeItems, item.WellKeyed) ∧ (Value.float (.ofInt 1)).WellKeyed ∧
    Value.withoutRepeats sizeItems = [.int 1, .text "one", .null] ∧
    Operator.memberOf.holds (.float (.ofInt 1)) (.list (Value.withoutRepeats sizeItems)) = true ∧
    ∃ trace, (Condition.oneOf (.literal (.float (.ofInt 1)) none)
      [.literal (.int 1) none, .fact ⟨"box.size", none⟩, .literal (.text "one") none,
        .fact ⟨"box.lid", none⟩]).evaluate
          ⟨[("box", .object [(.text "lid", .null)])]⟩ = .ok trace ∧ trace.result = true := by
  have keyed : ∀ item ∈ sizeItems, item.WellKeyed := by
    simp only [sizeItems, List.forall_mem_cons]
    exact ⟨.scalar rfl, .scalar rfl, .scalar rfl, .scalar rfl, nofun⟩
  have keyedSize : (Value.float (.ofInt 1)).WellKeyed := .scalar rfl
  obtain ⟨_, _, thinned, thins, _⟩ := membership_tests_agree.2 sizeItems _ keyed keyedSize
  have found := thinned _ thins
  have among : (Value.float (.ofInt 1)).Among sizeItems := ⟨.int 1, by decide, by decide +kernel⟩
  obtain ⟨trace, evaluated, result⟩ := found.oneOf ⟨[("box", .object [(.text "lid", .null)])]⟩
    (.literal (.float (.ofInt 1)) none)
    [.literal (.int 1) none, .fact ⟨"box.size", none⟩, .literal (.text "one") none,
      .fact ⟨"box.lid", none⟩] rfl (by decide +kernel)
  exact ⟨keyed, keyedSize, by decide +kernel, found.memberOf.mpr among, trace, evaluated,
    result.mpr among⟩

end Rulebook
