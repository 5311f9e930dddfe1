import Rulebook.Proofs.Check.Agreement
import Rulebook.Proofs.Check.Units
import Rulebook.Proofs.Document.Reading
import Rulebook.Proofs.Validate.Verdict

/-!
Operands of accepted conditions.

A condition is checked leaf by leaf, and every leaf checks its operands in a way of its own. What
all of them have in common is said here: each operand of an accepted leaf has passed a check, a
check that succeeds finds nothing hard, and what is accepted of a condition is accepted of each
of its parts (`Passed.within`).
-/

namespace Rulebook

def Action.operand? : Action → Option Operand
  | .set _ value | .append _ value => some value
  | .increment .. | .emit .. | .route .. => none

/-- Of two operands that are to agree, the one that is held against the type of the other. -/
def Operand.follower : Operand → Operand → Operand
  | .literal value units, .fact _ => .literal value units
  | _, b => b

/-- The operands have no type in common, which can be told of where one of them has none at all or
the one that follows can be named. -/
def Operand.Disagree (catalog : Catalog) (a b : Operand) : Prop :=
  ¬ a.Agree catalog b ∧ ((¬ ∃ type, a.Fits catalog type) ∨ (¬ ∃ type, b.Fits catalog type) ∨
    (a.follower b).hasText = true)

/-- The operands that a condition takes values from itself, those of its parts apart. -/
def Condition.operands : Condition → List Operand
  | .compare lhs _ rhs => [lhs, rhs]
  | .oneOf value options => value :: options
  | .matching value _ _ => [value]
  | .present _ | .all _ | .any _ | .not _ => []

/-! ### What checks promise -/

namespace Catalog

variable {catalog : Catalog} {found : Option Issue}

theorem checkFollows_eq_ok_iff {lead other : Operand} :
    catalog.checkFollows lead other = .ok () ↔ ∃ type type',
      catalog.checkOperand lead none = .ok type ∧
        catalog.checkOperand other (some type) = .ok type' := by
  simp [checkFollows, Except.bind_eq_ok_iff, pure, Except.pure]

/-- Operands that agree pass a check each. -/
theorem checkAgreement_types {a b : Operand} (checked : catalog.checkAgreement a b = .ok ()) :
    ∃ expected expected' type type', catalog.checkOperand a expected = .ok type ∧
      catalog.checkOperand b expected' = .ok type' := by
  unfold checkAgreement at checked
  split at checked
  · obtain ⟨type, type', lead, other⟩ := checkFollows_eq_ok_iff.mp checked
    exact ⟨some type, none, type', type, other, lead⟩
  · obtain ⟨type, type', lead, other⟩ := checkFollows_eq_ok_iff.mp checked
    exact ⟨none, some type, type, type', lead, other⟩

/-- In a checked comparison both sides have a type. -/
theorem checkCompare_types {lhs rhs : Operand} {operator : Operator}
    (checked : catalog.checkCompare lhs operator rhs = .ok found) :
    ∃ left right, catalog.checkOperand lhs none = .ok left ∧
      catalog.checkOperand rhs none = .ok right ∧
      (operator.isOrdering = true → left = .number ∧ right = .number) := by
  obtain ⟨left, leftTyped, checked⟩ := Except.bind_eq_ok_iff.mp checked
  obtain ⟨right, rightTyped, checked⟩ := Except.bind_eq_ok_iff.mp checked
  obtain ⟨_, related, _⟩ := Except.bind_eq_ok_iff.mp checked
  refine ⟨left, right, leftTyped, rightTyped, fun ordering => ?_⟩
  have numbers : (if left = .number ∧ right = .number then return ()
      else throw (.reported (.notNumbers operator left right)) : Except CheckFailure Unit) =
      .ok () := by
    cases operator <;> first | exact related | cases ordering
  exact (Except.guard_eq_ok_iff.mp numbers).1

theorem checkOption_types {value option : Operand}
    (checked : catalog.checkOption value option = .ok found) :
    ∃ expected expected' type type', catalog.checkOperand value expected = .ok type ∧
      catalog.checkOperand option expected' = .ok type' := by
  obtain ⟨_, agreed, _⟩ := Except.bind_eq_ok_iff.mp checked
  exact checkAgreement_types agreed

theorem checkDeclared_resolves {path : String} (checked : catalog.checkDeclared path = .ok found) :
    ∃ decl, catalog.resolve path = .ok decl := by
  obtain ⟨decl, declared, _⟩ := CheckFailure.lift_bind_eq_ok_iff.mp checked
  exact ⟨decl, declared⟩

theorem checkText_types {value : Operand} (checked : catalog.checkText value = .ok found) :
    catalog.checkOperand value (some .string) = .ok .string := by
  obtain ⟨type, typed, _⟩ := Except.bind_eq_ok_iff.mp checked
  exact checkOperand_expected typed ▸ typed

/-- What a checked action writes has a type. -/
theorem checkAction_types {action : Action} {value : Operand}
    (checked : catalog.checkAction action = .ok found) (written : action.operand? = some value) :
    ∃ type, catalog.checkOperand value (some type) = .ok type := by
  have either : ∃ verb target, catalog.checkWritten verb target value = .ok found := by
    cases action with
    | set target value => cases written; exact ⟨_, _, checked⟩
    | append target value => cases written; exact ⟨_, _, checked⟩
    | _ => cases written
  obtain ⟨verb, target, checked⟩ := either
  obtain ⟨field, _, checked⟩ := CheckFailure.lift_bind_eq_ok_iff.mp checked
  obtain ⟨type, typed, _⟩ := Except.bind_eq_ok_iff.mp checked
  rw [Except.mapError_eq_ok_iff] at typed
  exact ⟨field.type, checkOperand_expected typed ▸ typed⟩

/-! ### Agreement and units -/

/-- An operand that stands for no type is a fact, and facts can always be named. -/
theorem hasText_of_unfit {operand : Operand} (unfit : ¬ ∃ type, operand.Fits catalog type) :
    operand.hasText = true := by
  cases operand with
  | fact ref => rfl
  | literal value units => exact absurd ⟨_, .literal⟩ unfit

/-- Literals have a type in common where one has the type that the other is written in. -/
theorem literals_agree_iff {value value' : Scalar} {units units' : Option String} :
    (Operand.literal value units).Agree catalog (.literal value' units') ↔
      (Operand.literal value' units').Fits catalog value.type := by
  constructor
  · rintro ⟨type, fits, fits'⟩
    cases fits with
    | literal => exact fits'
    | date dated => exact Scalar.type_of_isDate dated ▸ fits'.string_of_date
  · exact fun fits => ⟨_, .literal, fits⟩

/-- Whichever of the operands sets the type, they pass where they can stand for values of one
type. -/
theorem checkAgreement_eq_ok_iff {a b : Operand} :
    catalog.checkAgreement a b = .ok () ↔ a.Agree catalog b := by
  have follows : ∀ {ref : FactRef} {other : Operand},
      catalog.checkFollows (.fact ref) other = .ok () ↔ (Operand.fact ref).Agree catalog other := by
    intro ref other
    simp [checkFollows_eq_ok_iff, checkOperand_fact_eq_ok_iff, checkOperand_eq_ok_iff,
      Operand.Agree]
  cases a with
  | fact ref => exact follows
  | literal value units =>
      cases b with
      | fact ref => exact follows.trans ⟨Operand.Agree.symm, Operand.Agree.symm⟩
      | literal value' units' =>
          show catalog.checkFollows _ _ = .ok () ↔ _
          rw [checkFollows_eq_ok_iff, literals_agree_iff]
          simp only [checkOperand_eq_ok_iff]
          constructor
          · rintro ⟨type, _, typed, _, fits⟩
            cases typed
            exact fits
          · exact fun fits => ⟨value.type, _, rfl, rfl, fits⟩

/-- The second operand is reported where the first has no type or it cannot take it. -/
theorem checkFollows_reported_iff {lead other : Operand} :
    Reported (catalog.checkFollows lead other) ↔ (¬ ∃ type, lead.Fits catalog type) ∨
      ∃ type, catalog.checkOperand lead none = .ok type ∧ other.hasText = true ∧
        ¬ other.Fits catalog type := by
  simp [checkFollows, reported_bind_iff, checkOperand_none_reported_iff,
    checkOperand_reported_iff, pure, Except.pure]

/-- Where a fact leads, the second operand has to agree with it. -/
theorem checkFollows_fact_reported_iff {ref : FactRef} {other : Operand} :
    Reported (catalog.checkFollows (.fact ref) other) ↔
      ¬ (Operand.fact ref).Agree catalog other ∧
        ((¬ ∃ type, (Operand.fact ref).Fits catalog type) ∨ other.hasText = true) := by
  rw [checkFollows_reported_iff]
  simp only [checkOperand_fact_eq_ok_iff]
  constructor
  · rintro (unfit | ⟨type, fits, text, misfit⟩)
    · exact ⟨fun ⟨type, fits, _⟩ => unfit ⟨type, fits⟩, .inl unfit⟩
    · exact ⟨fun ⟨type', fits', both⟩ => misfit (fits.unique fits' ▸ both), .inr text⟩
  · rintro ⟨apart, unfit | text⟩
    · exact .inl unfit
    · refine or_iff_not_imp_left.mpr fun fit => ?_
      obtain ⟨type, fits⟩ := not_not.mp fit
      exact ⟨type, fits, text, fun both => apart ⟨type, fits, both⟩⟩

/-- A pair is reported where it disagrees in a way that can be told. -/
theorem checkAgreement_reported_iff {a b : Operand} :
    Reported (catalog.checkAgreement a b) ↔ a.Disagree catalog b := by
  unfold Operand.Disagree
  -- A fact leads wherever there is one, so only two literals are compared from both sides.
  cases a with
  | fact ref =>
      refine checkFollows_fact_reported_iff.trans (and_congr_right fun _ => or_congr_right ?_)
      exact (or_iff_right_of_imp hasText_of_unfit).symm
  | literal value units =>
      have fit : ∃ type, (Operand.literal value units).Fits catalog type := ⟨_, .literal⟩
      cases b with
      | fact ref =>
          refine checkFollows_fact_reported_iff.trans (and_congr (not_congr ⟨.symm, .symm⟩) ?_)
          simp only [fit, not_true_eq_false, false_or]
          rfl
      | literal value' units' =>
          have fit' : ∃ type, (Operand.literal value' units').Fits catalog type := ⟨_, .literal⟩
          have typed : catalog.checkOperand (.literal value units) none = .ok value.type := rfl
          show Reported (catalog.checkFollows _ _) ↔ _
          rw [checkFollows_reported_iff, literals_agree_iff, typed]
          simp only [fit, fit', not_true_eq_false, false_or, Except.ok.injEq, exists_eq_left']
          exact and_comm

/-- An operand that offends another one by its unit is reported, if it can be named. -/
theorem checkUnitsAgainst_reported_iff {operand against : Operand} {type : ScalarType}
    (fits : operand.Fits catalog type) (fits' : against.Fits catalog type) :
    Reported (catalog.checkUnitsAgainst operand against) ↔
      operand.hasText = true ∧ operand.Offends catalog against := by
  cases against with
  | literal value units =>
      exact iff_of_false not_reported_ok fun offends => Operand.not_offends_literal offends.2
  | fact ref =>
      cases fits' with
      | @fact _ decl resolved _ =>
          have same : catalog.checkUnitsAgainst operand (.fact ref) =
              catalog.checkUnits operand decl (some ref.path) := by
            simp [checkUnitsAgainst, resolved, bind, Except.bind]
          rw [same, checkUnits_reported_iff fits]
          refine and_congr_right fun _ => exists_congr fun unit => exists_congr fun required => ?_
          refine and_congr_right fun _ => and_congr_left fun _ => ?_
          constructor
          · exact .field resolved
          · rintro ⟨resolved', declared⟩
            cases resolved.symm.trans resolved'
            exact declared

/-! ### Soft issues -/

theorem checkUnitsAgainst_advisory {operand against : Operand} {issue : Issue}
    (checked : catalog.checkUnitsAgainst operand against = .ok (some issue)) : issue.Advisory := by
  cases against with
  | literal value units => cases checked
  | fact ref =>
      obtain ⟨field, _, checked⟩ := CheckFailure.lift_bind_eq_ok_iff.mp checked
      exact issue.advisory_of_unitMissing (checkUnits_found checked)

theorem checkCompare_advisory {lhs rhs : Operand} {operator : Operator} {issue : Issue}
    (checked : catalog.checkCompare lhs operator rhs = .ok (some issue)) : issue.Advisory := by
  obtain ⟨_, _, checked⟩ := Except.bind_eq_ok_iff.mp checked
  obtain ⟨_, _, checked⟩ := Except.bind_eq_ok_iff.mp checked
  obtain ⟨_, _, checked⟩ := Except.bind_eq_ok_iff.mp checked
  cases lhs with
  | fact ref => exact checkUnitsAgainst_advisory checked
  | literal value units => exact checkUnitsAgainst_advisory checked

theorem checkOption_advisory {value option : Operand} {issue : Issue}
    (checked : catalog.checkOption value option = .ok (some issue)) : issue.Advisory := by
  obtain ⟨_, _, checked⟩ := Except.bind_eq_ok_iff.mp checked
  exact checkUnitsAgainst_advisory checked

end Catalog

/-! ### Parts of conditions -/

/-- The condition stands in another one, at any depth. -/
inductive Condition.Within (part : Condition) : Condition → Prop where
  | here : Within part part
  | all {conditions : List Condition} {condition : Condition} :
      condition ∈ conditions → Within part condition → Within part (.all conditions)
  | any {conditions : List Condition} {condition : Condition} :
      condition ∈ conditions → Within part condition → Within part (.any conditions)
  | not {condition : Condition} : Within part condition → Within part (.not condition)

section Parts

variable {catalog : Catalog} {ruleIds : List String} {part condition : Condition}

theorem Condition.issuesOfEach_eq (conditions : List Condition) :
    issuesOfEach catalog ruleIds conditions = conditions.map (issues catalog ruleIds) := by
  induction conditions with
  | nil => rfl
  | cons condition rest ih => rw [issuesOfEach, ih, List.map_cons]

/-- Nothing is objected to in the parts of an accepted condition. -/
theorem Passed.within (sound : Passed (condition.issues catalog ruleIds))
    (within : part.Within condition) : Passed (part.issues catalog ruleIds) := by
  induction within with
  | here => exact sound
  | all member _ ih | any member _ ih =>
      rw [Condition.issues, Condition.issuesOfEach_eq, passed_gather_iff] at sound
      exact ih (sound _ (List.mem_map_of_mem member))
  | not _ ih => exact ih sound

/-- A part of a filled condition is filled. -/
theorem Condition.not_vacant_within (filled : ¬ condition.Vacant) (within : part.Within condition) :
    ¬ part.Vacant := by
  induction within with
  | here => exact filled
  | all member _ ih => exact ih (not_vacant_of_all filled _ member)
  | any member _ ih => exact ih (not_vacant_of_any filled _ member)
  | not _ ih => exact ih (not_vacant_of_not filled)

/-- Every operand of an accepted condition has passed a check. -/
theorem Condition.checkOperand_of_passed {operand : Operand} (filled : ¬ condition.Vacant)
    (sound : Passed (condition.issues catalog ruleIds)) (member : operand ∈ condition.operands) :
    ∃ expected type, catalog.checkOperand operand expected = .ok type := by
  cases condition with
  | compare lhs operator rhs =>
      obtain ⟨found, checked⟩ := ok_of_passed sound
      obtain ⟨left, right, leftTyped, rightTyped, _⟩ := Catalog.checkCompare_types checked
      simp only [operands, List.mem_cons, List.not_mem_nil, or_false] at member
      rcases member with rfl | rfl
      · exact ⟨none, left, leftTyped⟩
      · exact ⟨none, right, rightTyped⟩
  | oneOf value options =>
      have checked : ∀ option ∈ options, ∃ found, catalog.checkOption value option = .ok found :=
        fun option among =>
          ok_of_passed (passed_gather_iff.mp sound _ (List.mem_map_of_mem among))
      rcases List.mem_cons.mp member with rfl | among
      · -- the tested operand is checked along with each option, so one option is needed
        obtain ⟨option, among⟩ := List.exists_mem_of_ne_nil options fun empty =>
          filled (empty ▸ .oneOf)
        obtain ⟨found, passed⟩ := checked option among
        obtain ⟨expected, _, type, _, typed, _⟩ := Catalog.checkOption_types passed
        exact ⟨expected, type, typed⟩
      · obtain ⟨found, passed⟩ := checked operand among
        obtain ⟨_, expected, _, type, _, typed⟩ := Catalog.checkOption_types passed
        exact ⟨expected, type, typed⟩
  | matching value pattern ignoreCase =>
      obtain ⟨found, checked⟩ := ok_of_passed sound
      rw [List.mem_singleton.mp member]
      exact ⟨some .string, .string, Catalog.checkText_types checked⟩
  | _ => cases member

end Parts

/-- Each condition of a program without objections is accepted on behalf of some rules. -/
theorem passed_of_mem_conditions {program : Program}
    (sound : Passed (declarationIssues program)) {condition : Condition}
    (member : condition ∈ program.conditions) :
    ∃ ruleIds, Passed (condition.issues (.ofProgram program) ruleIds) := by
  rcases List.mem_append.mp member with among | among
  · obtain ⟨rule, inside, rfl⟩ := List.mem_map.mp among
    exact ⟨_, passed_condition sound inside⟩
  · obtain ⟨constraint, inside, rfl⟩ := List.mem_map.mp among
    exact ⟨_, passed_constraint sound inside⟩

end Rulebook
