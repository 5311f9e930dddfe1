import Rulebook.Check.Operand

/-!
What a check of types promises.

A check compares declared types and never looks at a fact. What its success says about
values is that a literal is a value of the checked type (`admits_of_checkOperand_literal`)
and that a fact is declared with it (`resolve_of_checkOperand`); which values a declared
field can then hold is said of stores.
-/

namespace Rulebook

/-! ### Values of a type -/

/-- The value is a scalar of this type. -/
def ScalarType.admits : ScalarType → Value → Bool
  | .string, .text _ => true
  | .number, v => v.isNumber
  | .boolean, .bool _ => true
  | .date, v => v.isDate
  | _, _ => false

theorem ScalarType.admits_string_iff {v : Value} :
    ScalarType.string.admits v = true ↔ ∃ s, v = .text s := by
  cases v <;> simp [admits]

/-- Null is a value of no type. -/
theorem ScalarType.not_admits_null (type : ScalarType) : type.admits .null = false := by
  cases type <;> rfl

theorem Scalar.admits_type (scalar : Scalar) : scalar.type.admits scalar.toValue = true := by
  cases scalar <;> rfl

theorem Except.bind_eq_ok_iff {ε α β : Type} {x : Except ε α} {f : α → Except ε β} {b : β} :
    (x >>= f) = .ok b ↔ ∃ a, x = .ok a ∧ f a = .ok b := by
  cases x <;> simp [bind, Except.bind]

/-- What follows a check of declarations is done with what that check returns. -/
theorem CheckFailure.lift_bind_eq_ok_iff {α β : Type} {check : Except CheckError α}
    {f : α → Except CheckFailure β} {b : β} :
    (liftM check >>= f) = .ok b ↔ ∃ a, check = .ok a ∧ f a = .ok b := by
  simp only [Except.bind_eq_ok_iff, liftM_eq_ok_iff]

namespace Catalog

variable {catalog : Catalog}

/-! ### Paths -/

/-- A path resolves to the first field of its name among those of the entity. -/
theorem resolve_eq_ok_iff {path : String} {decl : FieldDecl} :
    catalog.resolve path = .ok decl ↔ ∃ entity field, splitPath? path = some (entity, field) ∧
      (catalog.fieldsOf entity).find? (fun decl => decl.name == field) = some decl := by
  unfold resolve
  cases split : splitPath? path with
  | none => simp
  | some parts =>
      obtain ⟨entity, field⟩ := parts
      cases found : (catalog.fieldsOf entity).find? fun decl => decl.name == field with
      | none =>
          simp only [and_assoc, Option.some.injEq, Prod.mk.injEq, exists_and_left, exists_eq_left',
            found, reduceCtorEq, iff_false]
          split <;> exact nofun
      | some first =>
          have declared : catalog.hasEntity entity = true := by
            have member := List.mem_of_find?_eq_some found
            simp only [fieldsOf, List.mem_flatMap, List.mem_filter] at member
            obtain ⟨source, ⟨among, named⟩, _⟩ := member
            exact List.any_eq_true.mpr ⟨source, among, named⟩
          simp [found, declared, and_assoc]

/-- What a path resolves to depends on its two parts only. -/
theorem resolve_congr {path other : String} {decl : FieldDecl}
    (same : splitPath? other = splitPath? path) (resolved : catalog.resolve path = .ok decl) :
    catalog.resolve other = .ok decl := by
  rw [resolve_eq_ok_iff] at resolved ⊢
  rwa [same]

/-- An entity with a field that resolves is declared. -/
theorem mem_of_resolve {path entity field : String} {decl : FieldDecl}
    (resolved : catalog.resolve path = .ok decl) (split : splitPath? path = some (entity, field)) :
    ∃ declared ∈ catalog.entities, declared.name = entity := by
  obtain ⟨entity', field', split', found⟩ := resolve_eq_ok_iff.mp resolved
  cases split.symm.trans split'
  have member := List.mem_of_find?_eq_some found
  simp only [fieldsOf, List.mem_flatMap, List.mem_filter, beq_iff_eq] at member
  obtain ⟨declared, ⟨among, named⟩, _⟩ := member
  exact ⟨declared, among, named⟩

/-! ### Operands -/

/-- A fact that passes its check is declared, with the type that the check gives. -/
theorem resolve_of_checkOperand {ref : FactRef} {expected : Option ScalarType} {type : ScalarType}
    (checked : catalog.checkOperand (.fact ref) expected = .ok type) :
    ∃ decl, catalog.resolve ref.path = .ok decl ∧ decl.type = type := by
  obtain ⟨actual, typed, agreed⟩ := Except.bind_eq_ok_iff.mp checked
  obtain ⟨decl, resolved, units⟩ := CheckFailure.lift_bind_eq_ok_iff.mp typed
  have declared : decl.type = actual := by
    split at units
    · split at units
      · exact Except.ok.inj units
      · cases units
    · exact Except.ok.inj units
  cases expected with
  | none =>
      cases agreed
      exact ⟨decl, resolved, declared⟩
  | some wanted =>
      simp only at agreed
      split at agreed
      · cases agreed
        exact ⟨decl, resolved, declared⟩
      · cases agreed

/-- A literal that passes its check is a value of the type that the check gives. -/
theorem admits_of_checkOperand_literal {value : Scalar} {units : Option String}
    {expected : Option ScalarType} {type : ScalarType}
    (checked : catalog.checkOperand (.literal value units) expected = .ok type) :
    type.admits value.toValue = true := by
  obtain ⟨actual, typed, agreed⟩ := Except.bind_eq_ok_iff.mp checked
  -- Only a date that is asked for is a type that the literal does not have by itself.
  have admitted : actual.admits value.toValue = true := by
    simp only [operandType] at typed
    split at typed
    · split at typed
      · cases typed
        assumption
      · cases typed
    · cases typed
      exact value.admits_type
  cases expected with
  | none =>
      cases agreed
      exact admitted
  | some wanted =>
      simp only at agreed
      split at agreed
      · cases agreed
        exact admitted
      · cases agreed

/-- The type that a check gives is the expected one. -/
theorem checkOperand_expected {operand : Operand} {wanted type : ScalarType}
    (checked : catalog.checkOperand operand (some wanted) = .ok type) : type = wanted := by
  obtain ⟨actual, _, agreed⟩ := Except.bind_eq_ok_iff.mp checked
  simp only at agreed
  split at agreed
  · rename_i same
    cases agreed
    exact same
  · cases agreed

end Catalog

end Rulebook
