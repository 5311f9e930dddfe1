import Rulebook.Proofs.Value.Reordered

/-!
Stores with another order of keys.

Taking a payload, reading and writing keep to the keys, so stores that are the same but for the
order of keys stay so, and what is read from them is the same but for that order too.
-/

namespace Rulebook

namespace Store

/-- The same facts, but for the order of entities, of fields, and of keys inside facts. -/
structure Reordered (s t : Store) : Prop where
  left : s.Keyed
  right : t.Keyed
  entries : Fields.Permuted Value.Reordered s.entries t.entries

namespace Reordered

variable {s t : Store}

theorem entry (reordered : s.Reordered t) (name : String) :
    Option.Rel Value.Reordered (Fields.get? name s.entries) (Fields.get? name t.entries) :=
  reordered.entries.get? reordered.left.distinct name

theorem set (reordered : s.Reordered t) (name : String) {v w : Value} (related : v.Reordered w)
    (keyed : v.Keyed) :
    Reordered ⟨Fields.set name v s.entries⟩ ⟨Fields.set name w t.entries⟩ where
  left := reordered.left.set name keyed
  right := reordered.right.set name (related.keyed keyed)
  entries := reordered.entries.set reordered.left.distinct name related

/-- The fields of an entity are permuted. -/
theorem fieldsOf (reordered : s.Reordered t) (entity : String) :
    Fields.Permuted Value.Reordered (s.fieldsOf entity) (t.fieldsOf entity) := by
  have pair := reordered.entry entity
  unfold Store.fieldsOf
  generalize Fields.get? entity s.entries = x at pair ⊢
  generalize Fields.get? entity t.entries = y at pair ⊢
  cases pair with
  | none => exact ⟨.refl _, by simp⟩
  | @some v w related =>
      cases related with
      | scalar plain => cases v <;> cases plain <;> exact ⟨.refl _, by simp⟩
      | list => exact ⟨.refl _, by simp⟩
      | object keys each => exact ⟨keys, each⟩

theorem readField (reordered : s.Reordered t) (entity field : String) :
    Option.Rel Value.Reordered (s.readField entity field) (t.readField entity field) :=
  (reordered.fieldsOf entity).get? (reordered.left.fieldsOf entity).distinct (.text field)

/-- What is read at a path is reordered. -/
theorem read (reordered : s.Reordered t) (path : String) :
    Option.Rel Value.Reordered (s.read path) (t.read path) := by
  unfold Store.read
  split
  · exact reordered.readField ..
  · exact .none

theorem readRoute (reordered : s.Reordered t) :
    Option.Rel Value.Reordered s.readRoute t.readRoute :=
  reordered.entry routeSlot

theorem writeField (reordered : s.Reordered t) (entity field : String) {v w : Value}
    (related : v.Reordered w) (keyed : v.Keyed) :
    (s.writeField entity field v).Reordered (t.writeField entity field w) := by
  have object := reordered.left.fieldsOf entity
  refine reordered.set entity (Value.reordered_object_iff.mpr ?_) (object.set keyed)
  exact (reordered.fieldsOf entity).set object.distinct (.text field) related

theorem writeRoute (reordered : s.Reordered t) {v w : Value} (related : v.Reordered w)
    (keyed : v.Keyed) : (s.writeRoute v).Reordered (t.writeRoute w) :=
  reordered.set routeSlot related keyed

/-- The snapshots are written in one canonical form. -/
theorem snapshot (reordered : s.Reordered t) :
    (Value.writtenRecord s.snapshot).canonical = (Value.writtenRecord t.snapshot).canonical := by
  refine Value.Reordered.canonical_written ?_
    (Value.keyed_record reordered.left.distinct reordered.left.values)
  exact Value.reordered_object_iff.mpr (reordered.entries.rename (f := Key.text)
    fun _ _ _ _ => Key.text.inj)

end Reordered

/-! ### Payloads -/

/-- The store of a keyed payload has its entries as they are. -/
theorem ofFields_entries {fields : List (Key × Value)} (keyed : Value.Keyed (.object fields)) :
    (ofFields fields).entries = fields.map fun entry => (entry.1.name, entry.2) := by
  have entries : (fields.map fun entry => (entry.1.name, entity entry.2)) =
      fields.map fun entry => (entry.1.name, entry.2) :=
    List.map_congr_left fun entry member =>
      congrArg (entry.1.name, ·) (entity_of_textKeyed (keyed.values entry member).textKeyed)
  have distinct : ((fields.map fun entry => (entry.1.name, entry.2)).map Prod.fst).Nodup := by
    have names : (fields.map fun entry => (entry.1.name, entry.2)).map Prod.fst =
        (fields.map Prod.fst).map Key.name := by
      rw [List.map_map, List.map_map]
      rfl
    rw [names]
    exact keyed.distinct.map_on keyed.name_inj
  show Fields.ofList (fields.map fun entry => (entry.1.name, entity entry.2)) = _
  rw [entries, Fields.ofList_of_nodup distinct]

/-- Stores made of reordered payloads are reordered. -/
theorem ofFields_reordered {fs gs : List (Key × Value)} (left : Value.Keyed (.object fs))
    (reordered : Value.Reordered (.object fs) (.object gs)) :
    (ofFields fs).Reordered (ofFields gs) where
  left := keyed_of_ofPayload left (ofPayload_of_keyed left)
  right := keyed_of_ofPayload (reordered.keyed left) (ofPayload_of_keyed (reordered.keyed left))
  entries := by
    rw [ofFields_entries left, ofFields_entries (reordered.keyed left)]
    exact (Value.reordered_object_iff.mp reordered).rename left.name_inj

/-- Payloads that are the same but for the order of keys make for such stores. -/
theorem ofPayload_reordered {payload payload' : Value} (keyed : payload.Keyed)
    (reordered : payload.Reordered payload') :
    (∃ s t, ofPayload payload = .ok s ∧ ofPayload payload' = .ok t ∧ s.Reordered t) ∨
      ofPayload payload = .error (.payloadNotMapping payload) ∧
        ofPayload payload' = .error (.payloadNotMapping payload') := by
  have empty : Reordered ⟨[]⟩ ⟨[]⟩ :=
    { left := ⟨List.nodup_nil, by simp⟩, right := ⟨List.nodup_nil, by simp⟩,
      entries := ⟨.refl _, by simp⟩ }
  -- Only an object holds entities; anything else is empty or is refused.
  have other : ∀ v : Value, (∀ fields, v ≠ .object fields) →
      ofPayload v = if isVoid v then .ok ⟨[]⟩ else .error (.payloadNotMapping v) := by
    intro v unmapped
    cases v with
    | object fields => exact absurd rfl (unmapped fields)
    | _ => rfl
  cases reordered with
  | object keys each =>
      have same := ofFields_reordered keyed (.object keys each)
      have keyed' := Value.Reordered.keyed (.object keys each) keyed
      exact .inl ⟨_, _, ofPayload_of_keyed keyed, ofPayload_of_keyed keyed', same⟩
  | scalar plain =>
      have unmapped : ∀ fields, payload ≠ .object fields := by
        rintro fields rfl
        cases plain
      rw [other payload unmapped]
      cases isVoid payload with
      | true => exact .inl ⟨_, _, rfl, rfl, empty⟩
      | false => exact .inr ⟨rfl, rfl⟩
  | list items =>
      cases items with
      | nil => exact .inl ⟨_, _, rfl, rfl, empty⟩
      | cons => exact .inr ⟨rfl, rfl⟩

end Store

end Rulebook
