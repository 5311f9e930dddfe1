import Rulebook.Evaluate.Condition
import Rulebook.Proofs.Check.Typing
import Rulebook.Proofs.State.Cells

/-!
Stores whose declared fields have their declared types.

A field of some type may hold a value of the type or, because values can be appended to it,
a list of such values, at any depth. `Store.Typed` allows fields to be absent, and is kept
by every write of a value of the field's type; `Store.Complete` has a single value of its
type in every declared field.
-/

namespace Rulebook

/-- A value of the type, or a list of such values, nested to any depth. -/
inductive Value.Typed (type : ScalarType) : Value → Prop where
  | scalar {v} : type.admits v = true → Typed type v
  | list {items} : (∀ item ∈ items, Typed type item) → Typed type (.list items)

theorem Value.Typed.items {type : ScalarType} {items : List Value}
    (typed : Typed type (.list items)) : ∀ item ∈ items, Typed type item := by
  cases typed with
  | scalar admitted => cases type <;> cases admitted
  | list each => exact each

namespace Store

/-- Each declared field that is there holds a value of its type or a list of such values. -/
def Typed (catalog : Catalog) (store : Store) : Prop :=
  ∀ path decl v, catalog.resolve path = .ok decl → store.read path = some v → v.Typed decl.type

/-- Each declared field is there and holds a single value of its type. -/
def Complete (catalog : Catalog) (store : Store) : Prop :=
  ∀ path decl, catalog.resolve path = .ok decl →
    ∃ v, store.read path = some v ∧ decl.type.admits v = true

variable {catalog : Catalog} {store : Store}

/-- An operand that passes its check has a value of the checked type, if it has one. -/
theorem Typed.resolve (typed : store.Typed catalog) {operand : Operand}
    {expected : Option ScalarType} {type : ScalarType} {v : Value}
    (checked : catalog.checkOperand operand expected = .ok type)
    (resolved : operand.resolve store = some v) : v.Typed type := by
  cases operand with
  | fact ref =>
      obtain ⟨decl, declared, rfl⟩ := Catalog.resolve_of_checkOperand checked
      exact typed _ decl v declared resolved
  | literal value units =>
      cases resolved
      exact .scalar (Catalog.admits_of_checkOperand_literal checked)

/-- In a complete store an operand that passes its check has a value of the checked type. -/
theorem Complete.resolve (complete : store.Complete catalog) {operand : Operand}
    {expected : Option ScalarType} {type : ScalarType}
    (checked : catalog.checkOperand operand expected = .ok type) :
    ∃ v, operand.resolve store = some v ∧ type.admits v = true := by
  cases operand with
  | fact ref =>
      obtain ⟨decl, declared, rfl⟩ := Catalog.resolve_of_checkOperand checked
      exact complete _ decl declared
  | literal value units => exact ⟨_, rfl, Catalog.admits_of_checkOperand_literal checked⟩

/-- Writing a value of its type to a declared field. -/
theorem Typed.writeField (typed : store.Typed catalog) {target entity field : String}
    {decl : FieldDecl} {v : Value} (declared : catalog.resolve target = .ok decl)
    (split : splitPath? target = some (entity, field)) (value : v.Typed decl.type) :
    (store.writeField entity field v).Typed catalog := by
  intro path other w resolved found
  obtain ⟨entity', field', split', _⟩ := Catalog.resolve_eq_ok_iff.mp resolved
  rw [read_of_split split'] at found
  by_cases same : (entity', field') = (entity, field)
  · cases same
    rw [readField_writeField] at found
    cases found
    have alike := Catalog.resolve_congr (split'.trans split.symm) declared
    cases resolved.symm.trans alike
    exact value
  · rw [readField_writeField_of_ne v same, ← read_of_split split'] at found
    exact typed path other w resolved found

/-- The route is no declared field, unless an entity has its name. -/
theorem Typed.writeRoute (typed : store.Typed catalog)
    (routeless : ∀ entity ∈ catalog.entities, entity.name ≠ routeSlot) (route : Value) :
    (store.writeRoute route).Typed catalog := by
  intro path decl v resolved found
  obtain ⟨entity, field, split, _⟩ := Catalog.resolve_eq_ok_iff.mp resolved
  obtain ⟨declared, member, rfl⟩ := Catalog.mem_of_resolve resolved split
  have same : (store.writeRoute route).read path = store.read path := by
    rw [read_of_split split, read_of_split split, readField, readField,
      fieldsOf_writeRoute route (routeless declared member)]
  exact typed path decl v resolved (same ▸ found)

end Store

end Rulebook
