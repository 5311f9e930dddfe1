import Rulebook.State.Store

/-!
Reading after writing.

A write to a field changes that field alone: other fields of the entity stay, also where the
entity was no object before and had none, and so do other entities. The route is not a field
and shares its entry with the entity of its name only.
-/

namespace Rulebook

/-- The slot of the route is no path, so no field has its name. -/
theorem splitPath?_ne_routeSlot {path entity field : String}
    (split : splitPath? path = some (entity, field)) : path ≠ routeSlot := by
  rintro rfl
  rw [splitPath?_routeSlot] at split
  cases split

namespace Store

variable {store : Store}

theorem read_of_split {path entity field : String}
    (split : splitPath? path = some (entity, field)) :
    store.read path = store.readField entity field := by
  rw [read, split]

theorem fieldsOf_writeField (entity field : String) (v : Value) :
    (store.writeField entity field v).fieldsOf entity =
      Fields.set (.text field) v (store.fieldsOf entity) := by
  rw [fieldsOf, writeField, Fields.get?_set_self]

theorem fieldsOf_writeField_of_ne {entity other : String} (field : String) (v : Value)
    (differs : other ≠ entity) :
    (store.writeField entity field v).fieldsOf other = store.fieldsOf other := by
  rw [fieldsOf, writeField, Fields.get?_set_of_ne differs, fieldsOf]

@[simp] theorem readField_writeField (entity field : String) (v : Value) :
    (store.writeField entity field v).readField entity field = some v := by
  rw [readField, fieldsOf_writeField, Fields.get?_set_self]

/-- A write leaves every other cell alone. -/
theorem readField_writeField_of_ne {entity field entity' field' : String} (v : Value)
    (differs : (entity', field') ≠ (entity, field)) :
    (store.writeField entity field v).readField entity' field' =
      store.readField entity' field' := by
  by_cases same : entity' = entity
  · subst same
    have other : Key.text field' ≠ Key.text field := by
      intro texts
      exact differs (congrArg _ (Key.text.inj texts))
    rw [readField, fieldsOf_writeField, Fields.get?_set_of_ne other, readField]
  · rw [readField, fieldsOf_writeField_of_ne field v same, readField]

theorem fieldsOf_writeRoute {entity : String} (route : Value) (differs : entity ≠ routeSlot) :
    (store.writeRoute route).fieldsOf entity = store.fieldsOf entity := by
  rw [fieldsOf, writeRoute, Fields.get?_set_of_ne differs, fieldsOf]

end Store

end Rulebook
