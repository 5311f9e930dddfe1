import Rulebook.Execute.Action
import Rulebook.Proofs.State.Footprint
import Rulebook.Proofs.Value.Parts

/-!
What the paths of a store read.

`Store.reading` reads the path of a field, or the route at its slot. A write to a field is read
at its own path alone (`reading_writeField`, `reading_writeField_of_ne`), unless it is a field of
the route, which the slot reads too. A route action writes two fields of the route
(`writeRoute_routed`).

`Store.Changes` says of a path that it reads something else than before.
-/

namespace Rulebook

/-- A field that is set twice holds the second value. -/
theorem Fields.set_set {κ α : Type} [DecidableEq κ] (key : κ) (v w : α) (fields : List (κ × α)) :
    set key w (set key v fields) = set key w fields := by
  induction fields with
  | nil => simp [set]
  | cons entry rest ih =>
      obtain ⟨k, x⟩ := entry
      by_cases same : k = key
      · simp [set, same]
      · simp [set, same, ih]

namespace Store

variable {s t store : Store} {path other entity name : String} {v after : Value}

def reading (store : Store) (path : String) : Option Value :=
  if path = routeSlot then store.readRoute else store.read path

@[simp] theorem reading_routeSlot : store.reading routeSlot = store.readRoute := if_pos rfl

theorem reading_of_split (split : splitPath? path = some (entity, name)) :
    store.reading path = store.readField entity name := by
  rw [reading, if_neg (splitPath?_ne_routeSlot split), read_of_split split]

/-- A text that is neither a path nor the slot reads nothing. -/
theorem reading_of_malformed (apart : path ≠ routeSlot) (malformed : splitPath? path = none) :
    store.reading path = none := by
  rw [reading, if_neg apart, read, malformed]

/-! ### Writes -/

/-- What is written to a field is read there. -/
theorem reading_writeField (split : splitPath? path = some (entity, name)) (v : Value) :
    (store.writeField entity name v).reading path = some v := by
  rw [reading_of_split split, readField_writeField]

/-- Another path does not read what is written to a field; the slot of the route does, if the
field is one of its own. -/
theorem reading_writeField_of_ne (split : splitPath? path = some (entity, name))
    (differs : other ≠ path) (elsewhere : entity = routeSlot → other ≠ routeSlot) (v : Value) :
    (store.writeField entity name v).reading other = store.reading other := by
  by_cases slot : other = routeSlot
  · have apart : routeSlot ≠ entity := fun same => elsewhere same.symm slot
    rw [slot, reading_routeSlot, reading_routeSlot]
    exact Fields.get?_set_of_ne apart _ _
  · cases splitOther : splitPath? other with
    | none => rw [reading_of_malformed slot splitOther, reading_of_malformed slot splitOther]
    | some parts =>
        rw [reading_of_split splitOther, reading_of_split splitOther]
        refine readField_writeField_of_ne v fun same => ?_
        exact differs (eq_of_splitPath? (splitOther.trans (congrArg some same)) split)

/-- A route action leaves the route as two writes to fields of it would. -/
theorem writeRoute_routed (store : Store) (queue : String) (reason : Option String) :
    store.writeRoute (Plan.routed store.readRoute queue reason) =
      (store.writeField routeSlot "queue" (.text queue)).writeField routeSlot "reason"
        (.ofText? reason) := by
  have fields : Plan.routed store.readRoute queue reason =
      .object (Fields.set (.text "reason") (.ofText? reason)
        (Fields.set (.text "queue") (.text queue) (store.fieldsOf routeSlot))) := rfl
  rw [fields, writeRoute, writeField, fieldsOf_writeField, writeField, Fields.set_set]

/-! ### Changes -/

/-- A path reads something else than before: a value where there was none, or one that is not
strictly equal to the earlier one. -/
inductive Changes (s t : Store) (path : String) : Prop where
  | appears {v : Value} : s.reading path = none → t.reading path = some v → Changes s t path
  | differs {v w : Value} : s.reading path = some v → t.reading path = some w →
      v.strictEq w = false → Changes s t path

/-- Where a value is read afterwards, a change is what the comparison of values says it is. -/
theorem changes_iff (written : t.reading path = some after) :
    s.Changes t path ↔ isChange (s.reading path) after = true := by
  constructor
  · rintro (⟨before, _⟩ | ⟨before, now, differs⟩)
    · rw [before]
      rfl
    · cases now.symm.trans written
      rw [before]
      simpa [isChange] using differs
  · intro change
    cases before : s.reading path with
    | none => exact .appears before written
    | some v =>
        rw [before] at change
        exact .differs before written (by simpa [isChange] using change)

/-- What is read at a path is part of an entry. -/
theorem reading_property {holds : Value → Prop}
    (parts : ∀ {v w : Value}, holds w → v.Part w → holds v)
    (each : ∀ entry ∈ store.entries, holds entry.2) (found : store.reading path = some v) :
    holds v := by
  unfold reading at found
  split at found
  · exact each _ (Fields.get?_mem found)
  · unfold read readField fieldsOf at found
    split at found
    · split at found
      · rename_i inside
        exact parts (each _ (Fields.get?_mem inside)) (.of_get? found)
      · cases found
    · cases found

/-- A path that reads the same is not changed, if the store holds no `nan`. -/
theorem not_changes_of_reading (wellKeyed : ∀ entry ∈ s.entries, entry.2.WellKeyed)
    (numeric : ∀ entry ∈ s.entries, entry.2.Numeric) (same : t.reading path = s.reading path) :
    ¬ s.Changes t path := by
  rintro (⟨before, now⟩ | ⟨before, now, differs⟩)
  · cases before.symm.trans (same.symm.trans now)
  · cases before.symm.trans (same.symm.trans now)
    have self := Value.strictEq_refl (reading_property Value.WellKeyed.part wellKeyed before)
      (reading_property Value.Throughout.part numeric before)
    cases differs.symm.trans self

end Store

end Rulebook
