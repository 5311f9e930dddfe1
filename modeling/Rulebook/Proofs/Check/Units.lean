import Rulebook.Proofs.Check.Typing

/-!
What an operand stands for.

The checks of operands compute a type, a unit or an error. Here the same is said by relations:
`Operand.Fits` has the types that an operand can stand for, `Operand.Brings` the unit that it
comes with, and `Operand.Requires` the unit that it asks of what it is compared with. The checks
succeed exactly where the relations say so (`checkOperand_eq_ok_iff`). Where they do not, a check
reports an error, as long as the operand has a text to be named by (`checkOperand_reported_iff`,
`checkUnits_reported_iff`).
-/

namespace Rulebook

/-- A guarded computation succeeds where its guard holds. -/
theorem Except.guard_eq_ok_iff {ε α : Type} {p : Prop} [Decidable p] {a b : α} {e : ε} :
    (if p then return a else throw e : Except ε α) = .ok b ↔ p ∧ a = b := by
  by_cases holds : p <;> simp [holds, pure, Except.pure, throw, throwThe, MonadExceptOf.throw]

theorem Except.guard_eq_error_iff {ε α : Type} {p : Prop} [Decidable p] {a : α} {e f : ε} :
    (if p then return a else throw e : Except ε α) = .error f ↔ ¬ p ∧ e = f := by
  by_cases holds : p <;> simp [holds, pure, Except.pure, throw, throwThe, MonadExceptOf.throw]

/-! ### Reports -/

/-- The check fails with an error that becomes an issue. -/
def Reported {α : Type} (check : Except CheckFailure α) : Prop :=
  ∃ e, check = .error (.reported e)

section Reports

variable {α β : Type} {e : CheckError}

@[simp] theorem not_reported_ok {a : α} : ¬ Reported (.ok a) := by
  simp [Reported]

@[simp] theorem not_reported_tooManyDigits : ¬ Reported (.error .tooManyDigits : Except _ α) := by
  simp [Reported]

@[simp] theorem reported_error : Reported (.error (.reported e) : Except _ α) := ⟨e, rfl⟩

@[simp] theorem reported_raised_iff :
    Reported (.error (.raised e) : Except _ α) ↔ e.hasText = true := by
  simp [Reported, CheckFailure.raised_eq_reported_iff]

/-- A chain is reported at the first link that is. -/
theorem reported_bind_iff {check : Except CheckFailure α} {next : α → Except CheckFailure β} :
    Reported (check >>= next) ↔ Reported check ∨ ∃ a, check = .ok a ∧ Reported (next a) := by
  cases check <;> simp [Reported, bind, Except.bind]

theorem reported_guard_iff {p : Prop} [Decidable p] {a : α} {failure : CheckFailure} :
    Reported (if p then return a else throw failure) ↔
      ¬ p ∧ Reported (.error failure : Except _ α) := by
  by_cases holds : p <;> simp [holds, Reported, pure, Except.pure, throw, throwThe,
    MonadExceptOf.throw]

/-- A check that neither passes nor is reported has a message that cannot be written. -/
theorem tooManyDigits_iff {check : Except CheckFailure α} :
    check = .error .tooManyDigits ↔ ¬ Reported check ∧ ¬ ∃ a, check = .ok a := by
  rcases check with (error | _) | a <;> simp [Reported]

end Reports

/-! ### Types -/

/-- The unit that a fact is used with is the unit of its field, where both have one. -/
def FactRef.Honest (catalog : Catalog) (ref : FactRef) : Prop :=
  ∀ decl own declared, catalog.resolve ref.path = .ok decl →
    nonEmpty? ref.units = some own → nonEmpty? decl.units = some declared → own = declared

namespace Operand

/-- The operand can stand for a value of this type. A literal has the type that it is written
in, and a text can be a date besides. -/
inductive Fits (catalog : Catalog) : Operand → ScalarType → Prop where
  | fact {ref : FactRef} {decl : FieldDecl} :
      catalog.resolve ref.path = .ok decl → ref.Honest catalog → Fits catalog (.fact ref) decl.type
  | literal {value : Scalar} {units : Option String} :
      Fits catalog (.literal value units) value.type
  | date {value : Scalar} {units : Option String} :
      value.toValue.isDate = true → Fits catalog (.literal value units) .date

/-- The operands can stand for values of one type. -/
def Agree (catalog : Catalog) (a b : Operand) : Prop :=
  ∃ type, a.Fits catalog type ∧ b.Fits catalog type

theorem Agree.symm {catalog : Catalog} {a b : Operand} (agree : a.Agree catalog b) :
    b.Agree catalog a := by
  obtain ⟨type, fitsA, fitsB⟩ := agree
  exact ⟨type, fitsB, fitsA⟩

end Operand

/-- No literal is written as a date. -/
theorem Scalar.type_ne_date (value : Scalar) : value.type ≠ .date := by
  cases value <;> exact nofun

theorem Scalar.type_of_isDate {value : Scalar} (dated : value.toValue.isDate = true) :
    value.type = .string := by
  cases value <;> first | rfl | cases dated

/-- A literal that can be a date is a text. -/
theorem Operand.Fits.string_of_date {catalog : Catalog} {value : Scalar} {units : Option String}
    (fits : (Operand.literal value units).Fits catalog .date) :
    (Operand.literal value units).Fits catalog .string := by
  have dated : value.toValue.isDate = true := by
    generalize wanted : ScalarType.date = type at fits
    cases fits with
    | literal => exact absurd wanted.symm value.type_ne_date
    | date dated => exact dated
  exact Scalar.type_of_isDate dated ▸ .literal

/-- A fact stands for the type of its field alone. -/
theorem Operand.Fits.unique {catalog : Catalog} {ref : FactRef} {type other : ScalarType}
    (fits : (Operand.fact ref).Fits catalog type) (fits' : (Operand.fact ref).Fits catalog other) :
    type = other := by
  cases fits with
  | fact resolved _ =>
      cases fits' with
      | fact resolved' _ => cases resolved.symm.trans resolved'; rfl

/-- A literal has its own type, and a text that reads as a date is a date too. -/
theorem Operand.literal_fits_iff {catalog : Catalog} {value : Scalar} {units : Option String}
    {type : ScalarType} : (Operand.literal value units).Fits catalog type ↔
      type = value.type ∨ type = .date ∧ value.toValue.isDate = true := by
  constructor
  · intro fits
    cases fits with
    | literal => exact .inl rfl
    | date dated => exact .inr ⟨rfl, dated⟩
  · rintro (rfl | ⟨rfl, dated⟩)
    · exact .literal
    · exact .date dated

namespace Catalog

variable {catalog : Catalog}

/-- A fact has a type where it is declared and honest. -/
theorem operandType_fact_eq_ok_iff {ref : FactRef} {expected : Option ScalarType}
    {type : ScalarType} :
    catalog.operandType (.fact ref) expected = .ok type ↔ (Operand.fact ref).Fits catalog type := by
  constructor
  · intro typed
    obtain ⟨decl, resolved, units⟩ := CheckFailure.lift_bind_eq_ok_iff.mp typed
    have both : ref.Honest catalog ∧ decl.type = type := by
      split at units
      · rename_i own declared isOwn isDeclared
        obtain ⟨equal, type⟩ := Except.guard_eq_ok_iff.mp units
        refine ⟨?_, type⟩
        intro decl' own' declared' resolved' isOwn' isDeclared'
        cases resolved.symm.trans resolved'
        cases isOwn.symm.trans isOwn'
        cases isDeclared.symm.trans isDeclared'
        exact equal
      · rename_i apart
        refine ⟨?_, Except.ok.inj units⟩
        intro decl' own' declared' resolved' isOwn isDeclared
        cases resolved.symm.trans resolved'
        exact absurd isDeclared (apart own' declared' isOwn)
    obtain ⟨honest, rfl⟩ := both
    exact .fact resolved honest
  · intro fits
    cases fits with
    | @fact _ decl resolved honest =>
        refine CheckFailure.lift_bind_eq_ok_iff.mpr ⟨decl, resolved, ?_⟩
        split
        · rename_i own declared isOwn isDeclared
          exact Except.guard_eq_ok_iff.mpr
            ⟨honest decl own declared resolved isOwn isDeclared, rfl⟩
        · rfl

/-- An operand passes the check against a type exactly when it fits. -/
theorem checkOperand_eq_ok_iff {operand : Operand} {wanted type : ScalarType} :
    catalog.checkOperand operand (some wanted) = .ok type ↔
      type = wanted ∧ operand.Fits catalog wanted := by
  rw [checkOperand, Except.bind_eq_ok_iff]
  simp only [Except.guard_eq_ok_iff]
  cases operand with
  | fact ref =>
      simp only [operandType_fact_eq_ok_iff]
      constructor
      · rintro ⟨actual, fits, rfl, rfl⟩
        exact ⟨rfl, fits⟩
      · rintro ⟨rfl, fits⟩
        exact ⟨_, fits, rfl, rfl⟩
  | literal value units =>
      constructor
      · rintro ⟨actual, typed, rfl, rfl⟩
        refine ⟨rfl, ?_⟩
        simp only [operandType] at typed
        split at typed
        · rename_i dated
          cases dated
          exact .date (Except.guard_eq_ok_iff.mp typed).1
        · cases typed
          exact .literal
      · rintro ⟨rfl, fits⟩
        refine ⟨_, ?_, rfl, rfl⟩
        cases fits with
        | literal => simp [operandType, value.type_ne_date, pure, Except.pure]
        | date dated => simp [operandType, dated, pure, Except.pure]

/-- A fact has the type its field is declared with. -/
theorem checkOperand_fact_eq_ok_iff {ref : FactRef} {type : ScalarType} :
    catalog.checkOperand (.fact ref) none = .ok type ↔ (Operand.fact ref).Fits catalog type := by
  rw [← @operandType_fact_eq_ok_iff catalog ref none type]
  simp [checkOperand, Except.bind_eq_ok_iff, pure, Except.pure]

/-- Without an expectation an operand passes when it fits some type. -/
theorem checkOperand_returns_iff {operand : Operand} :
    (∃ type, catalog.checkOperand operand none = .ok type) ↔
      ∃ type, operand.Fits catalog type := by
  cases operand with
  | fact ref => simp only [checkOperand_fact_eq_ok_iff]
  | literal value units => exact ⟨fun _ => ⟨_, .literal⟩, fun _ => ⟨value.type, rfl⟩⟩

/-- A fact that stands for no type is reported. -/
theorem operandType_fact_reported_iff {ref : FactRef} {expected : Option ScalarType} :
    Reported (catalog.operandType (.fact ref) expected) ↔
      ¬ ∃ type, (Operand.fact ref).Fits catalog type := by
  simp only [← @operandType_fact_eq_ok_iff catalog ref expected]
  cases resolved : catalog.resolve ref.path with
  | error e => simp [operandType, resolved, bind, Except.bind]
  | ok decl =>
      simp only [operandType, resolved, CheckFailure.liftM_ok, bind, Except.bind]
      split
      · simp [reported_guard_iff, Except.guard_eq_ok_iff]
      · simp [pure, Except.pure]

/-- Without a type in view, an operand is reported where it has none. -/
theorem checkOperand_none_reported_iff {operand : Operand} :
    Reported (catalog.checkOperand operand none) ↔ ¬ ∃ type, operand.Fits catalog type := by
  cases operand with
  | fact ref =>
      simp only [checkOperand, reported_bind_iff, operandType_fact_reported_iff]
      simp [pure, Except.pure]
  | literal value units =>
      have fits : ∃ type, (Operand.literal value units).Fits catalog type := ⟨_, .literal⟩
      simp [fits, checkOperand, operandType, bind, Except.bind, pure, Except.pure]

/-- An operand that does not fit the expected type is reported, if it can be named. -/
theorem checkOperand_reported_iff {operand : Operand} {wanted : ScalarType} :
    Reported (catalog.checkOperand operand (some wanted)) ↔
      operand.hasText = true ∧ ¬ operand.Fits catalog wanted := by
  cases operand with
  | fact ref =>
      simp only [checkOperand, reported_bind_iff, operandType_fact_reported_iff,
        operandType_fact_eq_ok_iff, reported_guard_iff, reported_raised_iff]
      constructor
      · rintro (unfit | ⟨type, fits, other, _⟩)
        · exact ⟨rfl, fun fits => unfit ⟨_, fits⟩⟩
        · exact ⟨rfl, fun fits' => other (fits.unique fits')⟩
      · rintro ⟨_, misfit⟩
        by_cases fits : ∃ type, (Operand.fact ref).Fits catalog type
        · obtain ⟨type, fits⟩ := fits
          exact .inr ⟨type, fits, fun same => misfit (same ▸ fits), rfl⟩
        · exact .inl fits
  | literal value units =>
      rw [Operand.literal_fits_iff, checkOperand, reported_bind_iff]
      -- A literal is a date only where one is asked for.
      by_cases dated : wanted = .date
      · subst dated
        have typed : catalog.operandType (.literal value units) (some .date) =
            if value.toValue.isDate then return .date else throw (.raised (.notDate value)) := rfl
        simp only [typed, reported_guard_iff, reported_raised_iff, Except.guard_eq_ok_iff,
          CheckError.hasText, Operand.hasText, value.type_ne_date.symm, true_and, false_or]
        grind
      · have typed : catalog.operandType (.literal value units) (some wanted) =
            .ok value.type := by
          simp [operandType, dated, pure, Except.pure]
        simp only [typed, reported_guard_iff, reported_raised_iff, CheckError.hasText, dated,
          Except.ok.injEq, exists_eq_left', not_reported_ok, false_or, false_and, or_false]
        rw [and_comm, @eq_comm _ wanted]

/-- A literal that cannot be named and does not fit ends the check. -/
theorem checkOperand_tooManyDigits_iff {operand : Operand} {wanted : ScalarType} :
    catalog.checkOperand operand (some wanted) = .error .tooManyDigits ↔
      operand.hasText = false ∧ ¬ operand.Fits catalog wanted := by
  rw [tooManyDigits_iff, checkOperand_reported_iff]
  simp only [checkOperand_eq_ok_iff, exists_eq_left]
  cases operand.hasText <;> simp

/-- A fact that passes a check is honest. -/
theorem honest_of_checkOperand {ref : FactRef} {expected : Option ScalarType} {type : ScalarType}
    (checked : catalog.checkOperand (.fact ref) expected = .ok type) : ref.Honest catalog := by
  obtain ⟨actual, typed, _⟩ := Except.bind_eq_ok_iff.mp checked
  cases operandType_fact_eq_ok_iff.mp typed with
  | fact _ honest => exact honest

end Catalog

/-! ### Units -/

namespace Operand

/-- The operand comes with this unit: its own, or else the one that a fact's field declares,
which counts here also where it is empty. -/
inductive Brings (catalog : Catalog) : Operand → String → Prop where
  | own {operand : Operand} {unit : String} :
      nonEmpty? operand.units = some unit → Brings catalog operand unit
  | declared {ref : FactRef} {decl : FieldDecl} {unit : String} :
      nonEmpty? ref.units = none → catalog.resolve ref.path = .ok decl →
      decl.units = some unit → Brings catalog (.fact ref) unit

/-- What is used with the operand has to have this unit, which the field of the operand
declares. -/
inductive Requires (catalog : Catalog) : Operand → String → Prop where
  | field {ref : FactRef} {decl : FieldDecl} {unit : String} :
      catalog.resolve ref.path = .ok decl → nonEmpty? decl.units = some unit →
      Requires catalog (.fact ref) unit

/-- The operand comes with another unit than the one that is required by what it is used
with. -/
def Offends (catalog : Catalog) (operand against : Operand) : Prop :=
  ∃ unit required, operand.Brings catalog unit ∧ against.Requires catalog required ∧
    unit ≠ required

/-- The operand is not one that the field takes: it has another type, or the field has a unit
that the operand does not come with. -/
def Misfit (catalog : Catalog) (operand : Operand) (field : FieldDecl) : Prop :=
  ¬ operand.Fits catalog field.type ∨
    ∃ required, nonEmpty? field.units = some required ∧ ¬ operand.Brings catalog required

/-- A literal cannot offend against a literal: neither has a field to be measured by. -/
theorem not_offends_literal {catalog : Catalog} {operand : Operand} {value : Scalar}
    {units : Option String} : ¬ operand.Offends catalog (.literal value units) := by
  rintro ⟨_, _, _, ⟨⟩, _⟩

end Operand

namespace Catalog

variable {catalog : Catalog}

/-- The unit an operand is found to bring is the one it brings. -/
theorem operandUnit_eq_ok_some_iff {operand : Operand} {unit : String} :
    catalog.operandUnit operand = .ok (some unit) ↔ operand.Brings catalog unit := by
  unfold operandUnit
  constructor
  · intro found
    split at found
    · rename_i own
      cases found
      exact .own own
    · rename_i ref bare
      obtain ⟨decl, resolved, declared⟩ := Except.bind_eq_ok_iff.mp found
      exact .declared bare resolved (Except.ok.inj declared)
    · cases found
  · intro brings
    cases brings with
    | own own => simp [own, pure, Except.pure]
    | @declared ref decl _ bare resolved declared =>
        have bare' : nonEmpty? (Operand.fact ref).units = none := bare
        simp [bare', resolved, declared, bind, Except.bind, pure, Except.pure]

/-- The unit of an operand that fits a type can be told. -/
theorem operandUnit_of_fits {operand : Operand} {type : ScalarType}
    (fits : operand.Fits catalog type) : ∃ unit, catalog.operandUnit operand = .ok unit := by
  unfold operandUnit
  split
  · exact ⟨_, rfl⟩
  · cases fits with
    | fact resolved _ => exact ⟨_, by rw [resolved]; rfl⟩
  · exact ⟨_, rfl⟩

/-- The check of units reports an operand that brings another unit than the field requires,
if it can be named. -/
theorem checkUnits_reported_iff {operand : Operand} {field : FieldDecl} {path : Option String}
    {type : ScalarType} (fits : operand.Fits catalog type) :
    Reported (catalog.checkUnits operand field path) ↔
      operand.hasText = true ∧ ∃ unit required, operand.Brings catalog unit ∧
        nonEmpty? field.units = some required ∧ unit ≠ required := by
  unfold checkUnits
  simp only [← operandUnit_eq_ok_some_iff]
  obtain ⟨unit, told⟩ := operandUnit_of_fits fits
  cases nonEmpty? field.units with
  | none => simp [pure, Except.pure]
  | some declared =>
      simp only [told, CheckFailure.liftM_ok, bind, Except.bind]
      cases unit with
      | none => simp [reported_guard_iff]
      | some unit => simp [reported_guard_iff, CheckError.hasText, and_comm]

/-- The unit check fails unread where it has to name a literal that cannot be written. -/
theorem checkUnits_tooManyDigits_iff {operand : Operand} {field : FieldDecl}
    {path : Option String} {type : ScalarType} (fits : operand.Fits catalog type) :
    catalog.checkUnits operand field path = .error .tooManyDigits ↔
      operand.hasText = false ∧ ∃ required, nonEmpty? field.units = some required ∧
        ¬ operand.Brings catalog required := by
  unfold checkUnits
  simp only [← operandUnit_eq_ok_some_iff]
  obtain ⟨unit, told⟩ := operandUnit_of_fits fits
  cases nonEmpty? field.units with
  | none => simp [pure, Except.pure]
  | some declared =>
      simp only [told, CheckFailure.liftM_ok, bind, Except.bind]
      cases unit with
      | none => simp [Except.guard_eq_error_iff]
      | some unit =>
          simp [Except.guard_eq_error_iff, CheckFailure.raised_eq_tooManyDigits_iff,
            CheckError.hasText, and_comm]

end Catalog

/-! ### Facts whose fields have units -/

namespace Operand

variable {catalog : Catalog} {a b : Operand} {unit required : String}

theorem eq_some_of_nonEmpty? {units : Option String} (filled : nonEmpty? units = some unit) :
    units = some unit := by
  unfold nonEmpty? at filled
  split at filled
  · cases filled
  · exact filled

/-- An honest fact on a field with a unit brings that unit. -/
theorem brings_iff_of_requires {type : ScalarType} (fits : a.Fits catalog type)
    (requires : a.Requires catalog required) : a.Brings catalog unit ↔ unit = required := by
  obtain ⟨resolved, declared⟩ := requires
  cases fits with
  | fact _ honest =>
      constructor
      · intro brings
        cases brings with
        | own own => exact honest _ _ _ resolved own declared
        | declared _ resolved' declared' =>
            cases resolved.symm.trans resolved'
            rw [eq_some_of_nonEmpty? declared] at declared'
            exact (Option.some.inj declared').symm
      · rintro rfl
        cases own : nonEmpty? (FactRef.units _) with
        | none => exact .declared own resolved (eq_some_of_nonEmpty? declared)
        | some other => exact honest _ _ _ resolved own declared ▸ .own own

/-- Two such facts offend each other exactly when their units differ. -/
theorem offends_iff_of_requires {unit' : String} (agree : a.Agree catalog b)
    (requiresA : a.Requires catalog unit) (requiresB : b.Requires catalog unit') :
    a.Offends catalog b ↔ unit ≠ unit' := by
  obtain ⟨type, fitsA, fitsB⟩ := agree
  have only : ∀ {required}, b.Requires catalog required → required = unit' := fun other =>
    (brings_iff_of_requires fitsB requiresB).mp ((brings_iff_of_requires fitsB other).mpr rfl)
  constructor
  · rintro ⟨brought, required, brings, requires, differ⟩
    rwa [(brings_iff_of_requires fitsA requiresA).mp brings, only requires] at differ
  · intro differ
    exact ⟨unit, unit', (brings_iff_of_requires fitsA requiresA).mpr rfl, requiresB, differ⟩

end Operand

end Rulebook
