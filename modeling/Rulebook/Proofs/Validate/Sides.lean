import Rulebook.Proofs.Validate.Operands

/-!
The sides of a comparison.

An equation and a membership test with one option relate the same two operands, in either order.
Whether they have a type in common is checked alike for all of them, though of two literals it is
the second one that is named where they have not. Units are held against the field of one operand
only, the left one where that is a fact, so it matters which one it is where the other field
requires nothing. There, and for two literals of which only one can be named, the three verdicts
differ (`verdicts_same_iff`).
-/

namespace Rulebook

/-- The check of the condition reports a hard issue. -/
def Condition.Objected (catalog : Catalog) (ruleIds : List String) (condition : Condition) : Prop :=
  ∃ issues, condition.issues catalog ruleIds = .ok issues ∧ ∃ issue ∈ issues, issue.isHard = true

instance {catalog : Catalog} {ruleIds : List String} {condition : Condition} :
    Decidable (condition.Objected catalog ruleIds) :=
  match found : condition.issues catalog ruleIds with
  | .ok issues =>
      decidable_of_iff (∃ issue ∈ issues, issue.isHard = true) (by simp [Condition.Objected, found])
  | .error _ => isFalse (by simp [Condition.Objected, found])

/-- The first operand offends the second one, and can be named. -/
def Operand.Affronts (catalog : Catalog) (a b : Operand) : Prop :=
  a.hasText = true ∧ a.Offends catalog b

/-- The first operand affronts the second one and requires no unit itself. -/
def Operand.Lopsided (catalog : Catalog) (a b : Operand) : Prop :=
  a.Affronts catalog b ∧ ∀ unit, ¬ a.Requires catalog unit

section Sides

variable {catalog : Catalog} {ruleIds : List String} {a b : Operand}

/-! ### Units -/

/-- Operands that agree and both require a unit offend each other or neither does. -/
theorem Operand.offends_iff_of_both {unit unit' : String} (agree : a.Agree catalog b)
    (requiresA : a.Requires catalog unit) (requiresB : b.Requires catalog unit') :
    a.Offends catalog b ↔ b.Offends catalog a := by
  rw [offends_iff_of_requires agree requiresA requiresB,
    offends_iff_of_requires agree.symm requiresB requiresA, ne_comm]

/-- What requires a unit is a fact, and a fact can be named. -/
theorem Operand.Requires.hasText {unit : String} (requires : a.Requires catalog unit) :
    a.hasText = true := by
  cases requires
  rfl

theorem Operand.not_affronts_literal {value : Scalar} {units : Option String} :
    ¬ a.Affronts catalog (.literal value units) :=
  fun affronts => not_offends_literal affronts.2

/-- Lopsided pairs are those in which one side affronts the other and not conversely. -/
theorem Operand.lopsided_iff (agree : a.Agree catalog b) :
    a.Lopsided catalog b ↔ a.Affronts catalog b ∧ ¬ b.Affronts catalog a := by
  constructor
  · rintro ⟨affronts, free⟩
    refine ⟨affronts, ?_⟩
    rintro ⟨_, _, required, _, requires, _⟩
    exact free required requires
  · rintro ⟨affronts, inoffensive⟩
    refine ⟨affronts, fun unit requires => inoffensive ?_⟩
    obtain ⟨_, _, _, requires', _⟩ := affronts.2
    exact ⟨requires'.hasText, (offends_iff_of_both agree requires requires').mp affronts.2⟩

/-- Without that it takes an operand that requires no unit to tell the two apart. -/
theorem Operand.affronts_iff_affronts (agree : a.Agree catalog b) :
    (a.Affronts catalog b ↔ b.Affronts catalog a) ↔
      ¬ (a.Lopsided catalog b ∨ b.Lopsided catalog a) := by
  rw [lopsided_iff agree, lopsided_iff agree.symm]
  tauto

/-! ### Types -/

/-- Of two literals that are apart in type it is the second one that is to be named. -/
theorem Operand.disagree_comm_iff (apart : ¬ a.Agree catalog b) :
    (a.Disagree catalog b ↔ b.Disagree catalog a) ↔
      ¬ (a.path? = none ∧ b.path? = none ∧ a.hasText ≠ b.hasText) := by
  have apart' : ¬ b.Agree catalog a := fun agree => apart agree.symm
  simp only [Disagree, apart, apart', not_false_eq_true, true_and]
  cases a with
  | fact ref => cases b <;> simp [follower, path?, hasText, or_left_comm]
  | literal value units =>
      cases b with
      | fact ref => simp [follower, path?, or_left_comm]
      | literal value' units' =>
          have fit : ∃ type, (literal value units).Fits catalog type := ⟨_, .literal⟩
          have fit' : ∃ type, (literal value' units').Fits catalog type := ⟨_, .literal⟩
          simp only [fit, fit', follower, path?, not_true_eq_false, false_or, true_and, not_not]
          exact Iff.comm.trans Bool.eq_iff_iff.symm

/-! ### Verdicts -/

/-- Checks that find nothing hard by themselves are objected to where they are reported. -/
theorem objected_issuesOf_iff {check : Except CheckFailure (Option Issue)}
    (advisory : ∀ issue, check = .ok (some issue) → issue.Advisory) :
    (∃ issues, issuesOf ruleIds check = .ok issues ∧ ∃ issue ∈ issues, issue.isHard = true) ↔
      Reported check := by
  rcases made : check with (e | _) | found
  · simp [issuesOf]
  · simp [issuesOf]
  · have passed : Passed (issuesOf ruleIds check) :=
      (passed_issuesOf_iff advisory).mpr ⟨found, made⟩
    obtain ⟨issues, same, sound⟩ := passed
    rw [made] at same
    refine iff_of_false ?_ not_reported_ok
    rintro ⟨issues', same', issue, member, hard⟩
    cases same.symm.trans same'
    exact absurd ((sound issue member).symm.trans hard) Bool.false_ne_true

/-- An equation is objected to where its check is reported. -/
theorem Condition.objected_equals_iff :
    (compare a .equals b).Objected catalog ruleIds ↔
      Reported (catalog.checkCompare a .equals b) :=
  objected_issuesOf_iff fun _ => Catalog.checkCompare_advisory

/-- So is a membership test with one option. -/
theorem Condition.objected_oneOf_iff :
    (oneOf a [b]).Objected catalog ruleIds ↔ Reported (catalog.checkOption a b) := by
  have alone : (oneOf a [b]).issues catalog ruleIds =
      issuesOf ruleIds (catalog.checkOption a b) := by
    simp only [issues, List.map_cons, List.map_nil, gather, bind, Except.bind, pure, Except.pure]
    cases issuesOf ruleIds (catalog.checkOption a b) <;> simp
  rw [Objected, alone]
  exact objected_issuesOf_iff fun _ => Catalog.checkOption_advisory

namespace Catalog

/-- An equation of operands that agree is checked for units alone. -/
theorem checkCompare_equals_of_agree : a.Agree catalog b →
    catalog.checkCompare a .equals b =
      match a with
      | .fact _ => catalog.checkUnitsAgainst b a
      | .literal .. => catalog.checkUnitsAgainst a b := by
  intro agree
  obtain ⟨type, fitsA, fitsB⟩ := id agree
  obtain ⟨left, leftTyped⟩ := checkOperand_returns_iff.mpr ⟨type, fitsA⟩
  obtain ⟨right, rightTyped⟩ := checkOperand_returns_iff.mpr ⟨type, fitsB⟩
  cases a <;>
    simp only [checkCompare, leftTyped, rightTyped, checkOperator,
      checkAgreement_eq_ok_iff.mpr agree, bind, Except.bind]

/-- One of operands that do not agree is reported where that can be told. -/
theorem checkCompare_equals_reported_iff (apart : ¬ a.Agree catalog b) :
    Reported (catalog.checkCompare a .equals b) ↔ a.Disagree catalog b := by
  have disagrees : catalog.checkAgreement a b ≠ .ok () :=
    fun agreed => apart (checkAgreement_eq_ok_iff.mp agreed)
  simp only [checkCompare, checkOperator, reported_bind_iff, checkOperand_none_reported_iff,
    checkAgreement_reported_iff, disagrees, false_and, exists_const, or_false]
  constructor
  · rintro (unfit | ⟨_, _, unfit | ⟨_, _, disagree⟩⟩)
    · exact ⟨apart, .inl unfit⟩
    · exact ⟨apart, .inr (.inl unfit)⟩
    · exact disagree
  · intro disagree
    refine or_iff_not_imp_left.mpr fun fit => ?_
    obtain ⟨left, typed⟩ := checkOperand_returns_iff.mpr (not_not.mp fit)
    refine ⟨left, typed, or_iff_not_imp_left.mpr fun fit' => ?_⟩
    obtain ⟨right, typed'⟩ := checkOperand_returns_iff.mpr (not_not.mp fit')
    exact ⟨right, typed', disagree⟩

/-- An option is measured against the value, not the value against it. -/
theorem checkOption_reported_iff :
    Reported (catalog.checkOption a b) ↔
      a.Disagree catalog b ∨ a.Agree catalog b ∧ b.Affronts catalog a := by
  simp only [checkOption, reported_bind_iff, checkAgreement_reported_iff]
  refine or_congr_right ?_
  constructor
  · rintro ⟨_, agreed, reported⟩
    have agree := checkAgreement_eq_ok_iff.mp agreed
    obtain ⟨type, fitsA, fitsB⟩ := id agree
    exact ⟨agree, (checkUnitsAgainst_reported_iff fitsB fitsA).mp reported⟩
  · rintro ⟨agree, affronts⟩
    obtain ⟨type, fitsA, fitsB⟩ := id agree
    exact ⟨(), checkAgreement_eq_ok_iff.mpr agree,
      (checkUnitsAgainst_reported_iff fitsB fitsA).mpr affronts⟩

end Catalog

/-- An equation of operands that agree is objected to where the operand that is held against the
other affronts it: the right one, if there is a fact on the left. -/
theorem Condition.objected_equals_fact_iff {ref : FactRef}
    (agree : (Operand.fact ref).Agree catalog b) :
    (compare (.fact ref) .equals b).Objected catalog ruleIds ↔ b.Affronts catalog (.fact ref) := by
  obtain ⟨type, fitsA, fitsB⟩ := id agree
  rw [objected_equals_iff, Catalog.checkCompare_equals_of_agree agree]
  exact Catalog.checkUnitsAgainst_reported_iff fitsB fitsA

theorem Condition.objected_equals_literal_iff {value : Scalar} {units : Option String}
    (agree : (Operand.literal value units).Agree catalog b) :
    (compare (.literal value units) .equals b).Objected catalog ruleIds ↔
      (Operand.literal value units).Affronts catalog b := by
  obtain ⟨type, fitsA, fitsB⟩ := id agree
  rw [objected_equals_iff, Catalog.checkCompare_equals_of_agree agree]
  exact Catalog.checkUnitsAgainst_reported_iff fitsA fitsB

end Sides

/-- The equation of two operands, the equation with the sides swapped and the membership test
of the one among the other alone are objected to alike, with two exceptions. The second operand is a
fact of a type in common with the first, and one of the two, on whose field there is no unit, can be
named and comes with another unit than the one that the other's field has; or they are two literals
of different types, of which one can be named. -/
theorem verdicts_same_iff (catalog : Catalog) (ruleIds : List String) (a b : Operand) :
    (((Condition.compare a .equals b).Objected catalog ruleIds ↔
        (Condition.compare b .equals a).Objected catalog ruleIds) ∧
      ((Condition.compare a .equals b).Objected catalog ruleIds ↔
        (Condition.oneOf a [b]).Objected catalog ruleIds)) ↔
      ¬ ((∃ ref, b = .fact ref) ∧ a.Agree catalog b ∧
          (a.Lopsided catalog b ∨ b.Lopsided catalog a)) ∧
        ¬ (¬ a.Agree catalog b ∧ a.path? = none ∧ b.path? = none ∧ a.hasText ≠ b.hasText) := by
  rw [Condition.objected_oneOf_iff, Catalog.checkOption_reported_iff]
  by_cases agree : a.Agree catalog b
  case neg =>
    have agree' : ¬ b.Agree catalog a := fun agree' => agree agree'.symm
    rw [Condition.objected_equals_iff, Condition.objected_equals_iff,
      Catalog.checkCompare_equals_reported_iff agree,
      Catalog.checkCompare_equals_reported_iff agree']
    simp only [agree, false_and, and_false, not_false_eq_true, true_and, or_false, and_true]
    exact Operand.disagree_comm_iff agree
  have disagree : ¬ a.Disagree catalog b := fun disagree => disagree.1 agree
  simp only [agree, disagree, not_true_eq_false, false_and, not_false_eq_true, and_true, true_and,
    false_or]
  cases b with
  | literal value units =>
      -- the unit that counts is that of the literal, wherever it stands
      have apart : ¬ ∃ ref, Operand.literal value units = .fact ref := nofun
      rw [Condition.objected_equals_literal_iff agree.symm, iff_true_right fun all => apart all.1]
      cases a with
      | fact ref =>
          rw [Condition.objected_equals_fact_iff agree]
          exact ⟨Iff.rfl, Iff.rfl⟩
      | literal value' units' =>
          rw [Condition.objected_equals_literal_iff agree]
          have same : (Operand.literal value' units').Affronts catalog (.literal value units) ↔
              (Operand.literal value units).Affronts catalog (.literal value' units') :=
            iff_of_false Operand.not_affronts_literal Operand.not_affronts_literal
          exact ⟨same, same⟩
  | fact ref =>
      have named : ∃ ref', Operand.fact ref = .fact ref' := ⟨ref, rfl⟩
      rw [Condition.objected_equals_fact_iff agree.symm, and_iff_right named,
        ← Operand.affronts_iff_affronts agree]
      cases a with
      | fact ref' =>
          rw [Condition.objected_equals_fact_iff agree, and_iff_left Iff.rfl]
          exact Iff.comm
      | literal value units =>
          rw [Condition.objected_equals_literal_iff agree, and_iff_right Iff.rfl]

/-- A weight in `kg` and a limit that is declared without a unit. -/
def scaleCatalog : Catalog :=
  ⟨[⟨"parcel", [⟨"weight", .number, some "kg", none⟩, ⟨"limit", .number, none, none⟩], none⟩]⟩

/-- A limit in `lb` is objected to on the right of the weight and not on its left, and five `lb`
to the left of the weight, but not as what is looked for among it. -/
theorem verdicts_differ_by_side :
    let weight := Operand.fact ⟨"parcel.weight", none⟩
    let limit := Operand.fact ⟨"parcel.limit", some "lb"⟩
    let five := Operand.literal (.int 5) (some "lb")
    (Condition.compare weight .equals limit).Objected scaleCatalog ["weigh"] ∧
      ¬ (Condition.compare limit .equals weight).Objected scaleCatalog ["weigh"] ∧
      (Condition.compare five .equals weight).Objected scaleCatalog ["weigh"] ∧
      ¬ (Condition.oneOf five [weight]).Objected scaleCatalog ["weigh"] := by
  decide

end Rulebook
