import Rulebook.Proofs.Check.Units

/-!
What comparing the unit of an operand with that of a field answers.

The unit that counts is the operand's own, or else the one that a fact's field declares, and an
empty text is none in either place (`Operand.effectiveUnit?`). Against the unit of a field it is
another one, or missing, or there is nothing to say, and `Catalog.JudgesUnits` says that the check
answers so. It does but for two kinds of operands (`units_judged_iff`). A fact that has no unit of
its own can be declared with the empty text: the check takes that for a unit, which differs from
every other. And a literal can be too long to be named: there is no answer then that names it.
-/

namespace Rulebook

/-! ### The unit that counts -/

namespace Operand

def Resolves (catalog : Catalog) (operand : Operand) : Prop :=
  ∀ path, operand.path? = some path → ∃ decl, catalog.resolve path = .ok decl

def declaredUnits? (catalog : Catalog) : Operand → Option String
  | .fact ref => (catalog.resolve ref.path).toOption.bind FieldDecl.units
  | .literal .. => none

/-- The unit of an operand: its own, or else the one that its field declares. An empty text is
no unit. -/
def effectiveUnit? (catalog : Catalog) (operand : Operand) : Option String :=
  (nonEmpty? operand.units).or (nonEmpty? (operand.declaredUnits? catalog))

/-- Without a unit of its own, the operand is a fact whose field declares the empty text. -/
def DeclaredBlank (catalog : Catalog) (operand : Operand) : Prop :=
  nonEmpty? operand.units = none ∧ operand.declaredUnits? catalog = some ""

variable {catalog : Catalog} {operand : Operand}

/-- The unit that is compared is looked for in the same two places, but a declared one may be
empty. -/
theorem operandUnit_eq (resolves : operand.Resolves catalog) :
    catalog.operandUnit operand =
      .ok ((nonEmpty? operand.units).or (operand.declaredUnits? catalog)) := by
  cases own : nonEmpty? operand.units with
  | some unit => simp [Catalog.operandUnit, own, pure, Except.pure]
  | none =>
      cases operand with
      | literal value units =>
          simp [Catalog.operandUnit, own, declaredUnits?, pure, Except.pure]
      | fact ref =>
          obtain ⟨decl, resolved⟩ := resolves ref.path rfl
          simp [Catalog.operandUnit, own, declaredUnits?, resolved, Except.toOption, bind,
            Except.bind, pure, Except.pure]

theorem nonEmpty?_eq_self_iff {units : Option String} :
    nonEmpty? units = units ↔ units ≠ some "" := by
  unfold nonEmpty?
  split <;> simp_all

/-- What is compared is the unit that counts, except where that is a declared blank. -/
theorem operandUnit_eq_effectiveUnit?_iff (resolves : operand.Resolves catalog) :
    catalog.operandUnit operand = .ok (operand.effectiveUnit? catalog) ↔
      ¬ operand.DeclaredBlank catalog := by
  rw [operandUnit_eq resolves, effectiveUnit?, DeclaredBlank]
  cases nonEmpty? operand.units with
  | some unit => simp
  | none =>
      rw [Option.none_or, Option.none_or, Except.ok.injEq, eq_comm, nonEmpty?_eq_self_iff]
      simp

end Operand

/-! ### The check -/

/-- The check of units answers by the unit of the operand and that of the field: an error where
both are there and differ, a soft issue where only the field has one, and nothing otherwise. -/
structure Catalog.JudgesUnits (catalog : Catalog) (operand : Operand) (field : FieldDecl)
    (path : Option String) : Prop where
  mismatch :
    (∃ e, catalog.checkUnits operand field path = .error (.reported e) ∧
        e.kind = .unitMismatch) ↔
      ∃ declared unit, nonEmpty? field.units = some declared ∧
        operand.effectiveUnit? catalog = some unit ∧ unit ≠ declared
  missing :
    (∃ issue, catalog.checkUnits operand field path = .ok (some issue) ∧
        issue.kind = .unitMissing ∧ issue.severity = .soft) ↔
      ∃ declared, nonEmpty? field.units = some declared ∧ operand.effectiveUnit? catalog = none
  silent :
    catalog.checkUnits operand field path = .ok none ↔
      nonEmpty? field.units = none ∨ operand.effectiveUnit? catalog = nonEmpty? field.units

namespace Catalog

variable {catalog : Catalog} {operand : Operand} {field : FieldDecl} {path : Option String}

/-- An operand without a unit gives the soft issue where the field has one. -/
theorem checkUnits_of_missing {declared : String} (path : Option String)
    (declares : nonEmpty? field.units = some declared)
    (untold : catalog.operandUnit operand = .ok none) :
    catalog.checkUnits operand field path =
      if operand.hasText then
        .ok (some (unitMissing ((nonEmpty? path).getD field.name) path declared operand))
      else .error .tooManyDigits := by
  simp only [checkUnits, declares, untold, CheckFailure.liftM_ok, bind, Except.bind]
  rfl

/-- A unit that the operand is told to have is held against the one of the field. -/
theorem checkUnits_of_told {declared unit : String} (path : Option String)
    (declares : nonEmpty? field.units = some declared)
    (told : catalog.operandUnit operand = .ok (some unit)) :
    catalog.checkUnits operand field path =
      if unit = declared then .ok none
      else
        .error (.raised
          (.otherUnits ((nonEmpty? path).getD field.name) path declared operand unit)) := by
  simp only [checkUnits, declares, told, CheckFailure.liftM_ok, bind, Except.bind]
  rfl

/-- What would name an operand that is too long fails, unless its unit is the one of the field. -/
theorem checkUnits_of_too_long {declared : String} (path : Option String)
    (declares : nonEmpty? field.units = some declared) (long : operand.hasText = false)
    (apart : operand.effectiveUnit? catalog ≠ some declared) :
    catalog.checkUnits operand field path = .error .tooManyDigits := by
  cases operand with
  | fact ref => cases long
  | literal value units =>
      have told : catalog.operandUnit (.literal value units) = .ok (nonEmpty? units) := by
        cases own : nonEmpty? units <;>
          simp [operandUnit, Operand.units, own, pure, Except.pure]
      have differs : nonEmpty? units ≠ some declared := by
        simpa [Operand.effectiveUnit?, Operand.units, Operand.declaredUnits?, nonEmpty?] using apart
      cases own : nonEmpty? units with
      | none =>
          rw [checkUnits_of_missing path declares (own ▸ told), long, if_neg Bool.false_ne_true]
      | some unit =>
          have other : unit ≠ declared := fun same => differs (own.trans (congrArg some same))
          rw [checkUnits_of_told path declares (own ▸ told), if_neg other]
          exact congrArg Except.error (CheckFailure.raised_eq_tooManyDigits_iff.mpr long)

/-- Nothing is said of any operand where the field has no unit. -/
theorem judgesUnits_of_no_unit (bare : nonEmpty? field.units = none) :
    catalog.JudgesUnits operand field path := by
  have silent : catalog.checkUnits operand field path = .ok none := by
    simp [checkUnits, bare, pure, Except.pure]
  constructor <;> simp [silent, bare]

/-- Told the unit that counts, the check judges by it. -/
theorem judgesUnits_of_told {declared : String} (declares : nonEmpty? field.units = some declared)
    (tells : catalog.operandUnit operand = .ok (operand.effectiveUnit? catalog))
    (named : operand.hasText = true ∨ operand.effectiveUnit? catalog = some declared) :
    catalog.JudgesUnits operand field path := by
  cases counts : operand.effectiveUnit? catalog with
  | none =>
      have text : operand.hasText = true := named.resolve_right (by simp [counts])
      have answer := checkUnits_of_missing path declares (counts ▸ tells)
      constructor <;> simp [answer, text, declares, counts, unitMissing]
  | some unit =>
      have answer := checkUnits_of_told path declares (counts ▸ tells)
      by_cases same : unit = declared
      · constructor <;> simp [answer, declares, counts, same]
      · have text : operand.hasText = true := named.resolve_right (by simp [counts, same])
        constructor <;> simp [answer, declares, counts, same, text, CheckFailure.raised,
          CheckError.hasText, CheckError.kind]

/-- A declared blank is taken for a unit, and for another one than the field has. -/
theorem checkUnits_of_declaredBlank {declared : String} (path : Option String)
    (resolves : operand.Resolves catalog) (blank : operand.DeclaredBlank catalog)
    (declares : nonEmpty? field.units = some declared) :
    catalog.checkUnits operand field path =
      .error (.raised
        (.otherUnits ((nonEmpty? path).getD field.name) path declared operand "")) := by
  have told : catalog.operandUnit operand = .ok (some "") := by
    rw [Operand.operandUnit_eq resolves, blank.1, blank.2, Option.none_or]
  have apart : "" ≠ declared := by
    rintro rfl
    rw [Operand.eq_some_of_nonEmpty? declares] at declares
    cases declares
  rw [checkUnits_of_told path declares told, if_neg apart]

end Catalog

/-- A declared blank belongs to a fact, which can be named. -/
theorem Operand.DeclaredBlank.hasText {catalog : Catalog} {operand : Operand}
    (blank : operand.DeclaredBlank catalog) : operand.hasText = true := by
  cases operand with
  | fact ref => rfl
  | literal value units => cases blank.2

namespace Catalog

variable {catalog : Catalog} {operand : Operand} {field : FieldDecl} {path : Option String}
  {declared : String}

/-- The error about a declared blank is none about a unit that counts. -/
theorem not_judgesUnits_of_declaredBlank (resolves : operand.Resolves catalog)
    (blank : operand.DeclaredBlank catalog) (declares : nonEmpty? field.units = some declared) :
    ¬ catalog.JudgesUnits operand field path := by
  intro judges
  have fails := checkUnits_of_declaredBlank path resolves blank declares
  have reported : CheckFailure.raised
        (.otherUnits ((nonEmpty? path).getD field.name) path declared operand "") =
      .reported _ :=
    CheckFailure.raised_eq_reported_iff.mpr ⟨blank.hasText, rfl⟩
  rw [reported] at fails
  obtain ⟨_, unit, _, counts, _⟩ := judges.mismatch.mp ⟨_, fails, rfl⟩
  rw [Operand.effectiveUnit?, blank.1, blank.2] at counts
  cases counts

/-- A failure without an error answers for neither verdict, and one of them is due. -/
theorem not_judgesUnits_of_too_long (declares : nonEmpty? field.units = some declared)
    (long : operand.hasText = false) (apart : operand.effectiveUnit? catalog ≠ some declared) :
    ¬ catalog.JudgesUnits operand field path := by
  intro judges
  have fails := checkUnits_of_too_long path declares long apart
  cases counts : operand.effectiveUnit? catalog with
  | none =>
      obtain ⟨_, answer, _⟩ := judges.missing.mpr ⟨declared, declares, counts⟩
      cases fails.symm.trans answer
  | some unit =>
      have other : unit ≠ declared := fun same => apart (counts.trans (congrArg some same))
      obtain ⟨_, answer, _⟩ := judges.mismatch.mpr ⟨declared, unit, declares, counts, other⟩
      cases fails.symm.trans answer

end Catalog

/-- For an operand that is declared, the check of units answers by the units that count exactly
unless the field has a unit and the operand either is declared with a blank one, or has another or
none and is too long to be named. In the one case it fails although the unit is only missing, and
in the other one it fails without an error that could be reported. -/
theorem units_judged_iff (catalog : Catalog) (operand : Operand) (field : FieldDecl)
    (path : Option String) (resolves : operand.Resolves catalog) :
    catalog.JudgesUnits operand field path ↔
      ¬ ∃ declared, nonEmpty? field.units = some declared ∧
        (operand.DeclaredBlank catalog ∨
          operand.hasText = false ∧ operand.effectiveUnit? catalog ≠ some declared) := by
  constructor
  · rintro judges ⟨declared, declares, blank | ⟨long, apart⟩⟩
    · exact Catalog.not_judgesUnits_of_declaredBlank resolves blank declares judges
    · exact Catalog.not_judgesUnits_of_too_long declares long apart judges
  · intro barring
    cases declares : nonEmpty? field.units with
    | none => exact Catalog.judgesUnits_of_no_unit declares
    | some declared =>
        refine Catalog.judgesUnits_of_told declares ?_ ?_
        · rw [Operand.operandUnit_eq_effectiveUnit?_iff resolves]
          exact fun blank => barring ⟨declared, declares, .inl blank⟩
        · cases long : operand.hasText with
          | true => exact .inl rfl
          | false =>
              refine .inr (Decidable.not_not.mp fun apart => ?_)
              exact barring ⟨declared, declares, .inr ⟨long, apart⟩⟩

def crateCatalog : Catalog where
  entities :=
    [{ name := "crate"
       description := none
       fields :=
        [⟨"weight", .number, some "kg", none⟩, ⟨"tare", .number, some "g", none⟩,
         ⟨"limit", .number, some "", none⟩] }]

def crateWeight : FieldDecl := ⟨"weight", .number, some "kg", none⟩

/-- The tare is no weight in kilograms, and the check says so. -/
theorem crate_tare_judged :
    (Operand.fact ⟨"crate.tare", none⟩).Resolves crateCatalog ∧
      crateCatalog.JudgesUnits (.fact ⟨"crate.tare", none⟩) crateWeight (some "crate.weight") ∧
      ∃ e, crateCatalog.checkUnits (.fact ⟨"crate.tare", none⟩) crateWeight
        (some "crate.weight") = .error (.reported e) ∧ e.kind = .unitMismatch := by
  have resolves : (Operand.fact ⟨"crate.tare", none⟩).Resolves crateCatalog := by
    rintro _ ⟨⟩
    exact ⟨_, rfl⟩
  refine ⟨resolves, ?_, _, rfl, rfl⟩
  refine (units_judged_iff crateCatalog _ crateWeight (some "crate.weight") resolves).mpr ?_
  rintro ⟨_, _, ⟨_, blank⟩ | ⟨long, _⟩⟩
  · exact absurd blank (by decide +kernel)
  · cases long

/-- The limit has no unit, but its blank one is taken for another unit than kilograms. -/
theorem crate_limit_mismatched :
    (Operand.fact ⟨"crate.limit", none⟩).Resolves crateCatalog ∧
      (Operand.fact ⟨"crate.limit", none⟩).effectiveUnit? crateCatalog = none ∧
      (∃ e, crateCatalog.checkUnits (.fact ⟨"crate.limit", none⟩) crateWeight
        (some "crate.weight") = .error (.reported e) ∧ e.kind = .unitMismatch) ∧
      ¬ crateCatalog.JudgesUnits (.fact ⟨"crate.limit", none⟩) crateWeight
        (some "crate.weight") := by
  have resolves : (Operand.fact ⟨"crate.limit", none⟩).Resolves crateCatalog := by
    rintro _ ⟨⟩
    exact ⟨_, rfl⟩
  have untold : (Operand.fact ⟨"crate.limit", none⟩).effectiveUnit? crateCatalog = none := by
    decide +kernel
  refine ⟨resolves, untold, ⟨_, rfl, rfl⟩, fun judges => ?_⟩
  obtain ⟨_, unit, _, counts, _⟩ := judges.mismatch.mp ⟨_, rfl, rfl⟩
  cases untold.symm.trans counts

end Rulebook
