import Rulebook.Evaluate.Condition
import Rulebook.Proofs.Value.Equality

/-!
Stores whose objects have text keys.

The entities of every store are known by distinct names, and so are their fields
(`Store.Named`): payloads are taken that way, and writes keep it. Such a store is its own
payload: taking the facts from its snapshot gives it back (`Named.ofPayload_snapshot`).
`Store.Keyed` says the same of the objects inside of facts too. It holds of the store of a
payload with text keys, and writes keep it.
-/

namespace Rulebook

/-! ### Entries after a change -/

namespace Fields

variable {κ α : Type} [DecidableEq κ] {key : κ} {value : α} {fields : List (κ × α)}

theorem set_of_not_mem (absent : key ∉ fields.map Prod.fst) :
    set key value fields = fields ++ [(key, value)] := by
  induction fields with
  | nil => rfl
  | cons entry rest ih =>
      obtain ⟨k, v⟩ := entry
      rw [List.map_cons, List.mem_cons, not_or] at absent
      rw [set, if_neg (Ne.symm absent.1), ih absent.2]
      rfl

/-- A replaced value keeps its place among the keys. -/
theorem map_fst_set_of_mem (present : key ∈ fields.map Prod.fst) :
    (set key value fields).map Prod.fst = fields.map Prod.fst := by
  induction fields with
  | nil => cases present
  | cons entry rest ih =>
      obtain ⟨k, v⟩ := entry
      by_cases same : k = key
      · simp [set, same]
      · have later : key ∈ rest.map Prod.fst :=
          (List.mem_cons.mp present).resolve_left (Ne.symm same)
        simp [set, same, ih later]

theorem length_le_set : fields.length ≤ (set key value fields).length := by
  induction fields with
  | nil => exact Nat.zero_le _
  | cons entry rest ih =>
      obtain ⟨k, v⟩ := entry
      by_cases same : k = key
      · simp [set, same]
      · simpa [set, same] using ih

/-- Where there are no more entries than before, the key was there. -/
theorem mem_of_length_set (lengths : (set key value fields).length = fields.length) :
    key ∈ fields.map Prod.fst := by
  by_contra absent
  simp [set_of_not_mem absent] at lengths

theorem nodup_set (distinct : (fields.map Prod.fst).Nodup) :
    ((set key value fields).map Prod.fst).Nodup := by
  by_cases present : key ∈ fields.map Prod.fst
  · rw [map_fst_set_of_mem present]
    exact distinct
  · rw [set_of_not_mem present, List.map_append]
    exact distinct.append (List.nodup_singleton _) (by simpa using present)

/-- An entry of the new fields is the one that was set, or an old one. -/
theorem mem_set {entry : κ × α} (member : entry ∈ set key value fields) :
    entry = (key, value) ∨ entry ∈ fields := by
  induction fields with
  | nil => exact .inl (List.mem_singleton.mp member)
  | cons first rest ih =>
      obtain ⟨k, v⟩ := first
      by_cases same : k = key
      · rw [set, if_pos same, same] at member
        rcases List.mem_cons.mp member with head | later
        · exact .inl head
        · exact .inr (List.mem_cons_of_mem _ later)
      · rw [set, if_neg same] at member
        rcases List.mem_cons.mp member with head | later
        · exact .inr (head ▸ List.mem_cons_self)
        · exact (ih later).imp id (List.mem_cons_of_mem _)

/-- Writing the value that is there changes nothing. -/
theorem set_get?_self (found : get? key fields = some value) : set key value fields = fields := by
  induction fields with
  | nil => cases found
  | cons entry rest ih =>
      obtain ⟨k, v⟩ := entry
      by_cases same : k = key
      · simp only [get?, same, if_pos, Option.some.injEq] at found
        simp [set, same, found]
      · rw [get?, if_neg same] at found
        rw [set, if_neg same, ih found]

/-- Distinct entries are set one behind another. -/
theorem foldl_set_of_nodup {before : List (κ × α)}
    (distinct : ((before ++ fields).map Prod.fst).Nodup) :
    fields.foldl (fun made (k, v) => set k v made) before = before ++ fields := by
  induction fields generalizing before with
  | nil => exact (List.append_nil before).symm
  | cons entry rest ih =>
      obtain ⟨k, v⟩ := entry
      have absent : k ∉ before.map Prod.fst := by
        rw [List.map_append, List.nodup_append] at distinct
        intro present
        exact distinct.2.2 k present k List.mem_cons_self rfl
      have moved : before ++ (k, v) :: rest = set k v before ++ rest := by
        rw [set_of_not_mem absent, List.append_assoc]
        rfl
      rw [moved] at distinct ⊢
      exact ih distinct

theorem ofList_of_nodup (distinct : (fields.map Prod.fst).Nodup) : ofList fields = fields :=
  foldl_set_of_nodup distinct

/-- Entries that are put together have distinct keys, and are among the given ones. -/
theorem ofList_spec (entries : List (κ × α)) :
    ((ofList entries).map Prod.fst).Nodup ∧ ∀ entry ∈ ofList entries, entry ∈ entries := by
  have step : ∀ (rest : List (κ × α)) (made : List (κ × α)), (made.map Prod.fst).Nodup →
      ((rest.foldl (fun made (k, v) => set k v made) made).map Prod.fst).Nodup ∧
        ∀ entry ∈ rest.foldl (fun made (k, v) => set k v made) made,
          entry ∈ made ∨ entry ∈ rest := by
    intro rest
    induction rest with
    | nil => exact fun made distinct => ⟨distinct, fun entry member => .inl member⟩
    | cons first rest ih =>
        intro made distinct
        obtain ⟨nodup, origin⟩ := ih (set first.1 first.2 made) (nodup_set distinct)
        refine ⟨nodup, fun entry member => ?_⟩
        rcases origin entry member with earlier | later
        · rcases mem_set earlier with rfl | old
          · exact .inr List.mem_cons_self
          · exact .inl old
        · exact .inr (List.mem_cons_of_mem _ later)
  obtain ⟨nodup, origin⟩ := step entries [] List.nodup_nil
  exact ⟨nodup, fun entry member => (origin entry member).resolve_left List.not_mem_nil⟩

/-- Text keys are as distinct as the texts. -/
theorem nodup_texts {fields : List (String × Value)} (distinct : (fields.map Prod.fst).Nodup) :
    ((fields.map fun (name, v) => (Key.text name, v)).map Prod.fst).Nodup := by
  rw [map_fst_texts]
  exact distinct.map fun _ _ same => Key.text.inj same

end Fields

/-! ### Keyed values -/

namespace Value

/-- The value is no object, or one whose own keys are distinct texts. -/
def TextKeyed (v : Value) : Prop :=
  ∀ fields, v = .object fields →
    (fields.map Prod.fst).Nodup ∧ ∀ entry ∈ fields, ∃ name, entry.1 = .text name

theorem TextKeyed.set {fields : List (Key × Value)} (keyed : TextKeyed (.object fields))
    (name : String) (v : Value) : TextKeyed (.object (Fields.set (.text name) v fields)) := by
  rintro _ ⟨⟩
  obtain ⟨distinct, texts⟩ := keyed fields rfl
  refine ⟨Fields.nodup_set distinct, fun entry member => ?_⟩
  rcases Fields.mem_set member with rfl | old
  · exact ⟨name, rfl⟩
  · exact texts entry old

theorem textKeyed_empty : TextKeyed (.object []) := by
  rintro _ ⟨⟩
  exact ⟨List.nodup_nil, by simp⟩

theorem Keyed.textKeyed {v : Value} (keyed : v.Keyed) : v.TextKeyed := by
  rintro fields rfl
  exact ⟨keyed.distinct, keyed.texts⟩

/-- Setting a field to a keyed value keeps a keyed document. -/
theorem Keyed.set {fields : List (Key × Value)} {name : String} {v : Value}
    (object : Keyed (.object fields)) (keyed : Keyed v) :
    Keyed (.object (Fields.set (.text name) v fields)) := by
  refine .object (Fields.nodup_set object.distinct) (fun entry member => ?_)
    fun entry member => ?_
  · rcases Fields.mem_set member with rfl | old
    · exact ⟨name, rfl⟩
    · exact object.texts entry old
  · rcases Fields.mem_set member with rfl | old
    · exact keyed
    · exact object.values entry old

/-- A record with distinct names and keyed values is keyed. -/
theorem keyed_record {fields : List (String × Value)} (distinct : (fields.map Prod.fst).Nodup)
    (each : ∀ entry ∈ fields, entry.2.Keyed) : (record fields).Keyed := by
  refine .object ?_ (fun entry member => ?_) fun entry member => ?_
  · exact Fields.nodup_texts distinct
  · obtain ⟨source, _, rfl⟩ := List.mem_map.mp member
    exact ⟨_, rfl⟩
  · obtain ⟨source, inside, rfl⟩ := List.mem_map.mp member
    exact each source inside

theorem Keyed.empty : Keyed (.object []) := .object List.nodup_nil (by simp) (by simp)

end Value

namespace Store

/-- The entries have distinct names, and so have the fields of entities. -/
structure Named (store : Store) : Prop where
  distinct : (store.entries.map Prod.fst).Nodup
  entities : ∀ entry ∈ store.entries, entry.2.TextKeyed

/-- The entries have distinct names, and their values are keyed. -/
structure Keyed (store : Store) : Prop where
  distinct : (store.entries.map Prod.fst).Nodup
  values : ∀ entry ∈ store.entries, entry.2.Keyed

variable {store : Store}

namespace Named

theorem fieldsOf (named : store.Named) (entity : String) :
    (Value.object (store.fieldsOf entity)).TextKeyed := by
  unfold Store.fieldsOf
  split
  · rename_i fields found
    exact named.entities _ (Fields.get?_mem found)
  · exact Value.textKeyed_empty

theorem set (named : store.Named) (name : String) {v : Value} (value : v.TextKeyed) :
    (⟨Fields.set name v store.entries⟩ : Store).Named where
  distinct := Fields.nodup_set named.distinct
  entities entry member := by
    rcases Fields.mem_set member with rfl | old
    · exact value
    · exact named.entities entry old

theorem writeField (named : store.Named) (entity field : String) (v : Value) :
    (store.writeField entity field v).Named :=
  named.set entity ((named.fieldsOf entity).set field v)

theorem writeRoute (named : store.Named) {route : Value} (value : route.TextKeyed) :
    (store.writeRoute route).Named :=
  named.set routeSlot value

end Named

theorem Keyed.named (keyed : store.Keyed) : store.Named where
  distinct := keyed.distinct
  entities entry member := (keyed.values entry member).textKeyed

namespace Keyed

theorem fieldsOf (keyed : store.Keyed) (entity : String) :
    (Value.object (store.fieldsOf entity)).Keyed := by
  unfold Store.fieldsOf
  split
  · rename_i fields found
    exact keyed.values _ (Fields.get?_mem found)
  · exact .empty

theorem readField (keyed : store.Keyed) {entity field : String} {v : Value}
    (found : store.readField entity field = some v) : v.Keyed :=
  (keyed.fieldsOf entity).values _ (Fields.get?_mem found)

theorem read (keyed : store.Keyed) {path : String} {v : Value} (found : store.read path = some v) :
    v.Keyed := by
  unfold Store.read at found
  split at found
  · exact keyed.readField found
  · cases found

theorem set (keyed : store.Keyed) (name : String) {v : Value} (value : v.Keyed) :
    (⟨Fields.set name v store.entries⟩ : Store).Keyed where
  distinct := Fields.nodup_set keyed.distinct
  values entry member := by
    rcases Fields.mem_set member with rfl | old
    · exact value
    · exact keyed.values entry old

theorem writeField (keyed : store.Keyed) (entity field : String) {v : Value} (value : v.Keyed) :
    (store.writeField entity field v).Keyed :=
  keyed.set entity ((keyed.fieldsOf entity).set value)

theorem writeRoute (keyed : store.Keyed) {route : Value} (value : route.Keyed) :
    (store.writeRoute route).Keyed :=
  keyed.set routeSlot value

end Keyed

/-! ### Payloads -/

theorem textKeyed_entity (v : Value) : (entity v).TextKeyed := by
  cases v with
  | object fields =>
      rintro _ ⟨⟩
      refine ⟨(Fields.ofList_spec _).1, fun entry member => ?_⟩
      obtain ⟨source, _, rfl⟩ := List.mem_map.mp ((Fields.ofList_spec _).2 entry member)
      exact ⟨_, rfl⟩
  | _ => rintro _ ⟨⟩

theorem keyed_entity {v : Value} (keyed : v.Keyed) : (entity v).Keyed := by
  cases v with
  | object fields =>
      obtain ⟨distinct, texts⟩ := textKeyed_entity (.object fields) _ rfl
      refine .object distinct texts fun entry member => ?_
      obtain ⟨source, inside, rfl⟩ := List.mem_map.mp ((Fields.ofList_spec _).2 entry member)
      exact keyed.values source inside
  | _ => exact keyed

/-- The store of a payload is that of its entries, unless there are none. -/
theorem ofFields_of_ofPayload {payload : Value} (taken : ofPayload payload = .ok store) :
    (∃ fields, payload = .object fields ∧ ofFields fields = store) ∨ ⟨[]⟩ = store := by
  unfold ofPayload at taken
  split at taken
  · rename_i fields
    split at taken
    · exact .inl ⟨fields, rfl, Except.ok.inj taken⟩
    · cases taken
  · split at taken
    · exact .inr (Except.ok.inj taken)
    · cases taken

/-- Whatever the payload is, its entities and their fields have distinct names. -/
theorem named_of_ofPayload {payload : Value} (taken : ofPayload payload = .ok store) :
    store.Named := by
  rcases ofFields_of_ofPayload taken with ⟨fields, -, rfl⟩ | rfl
  · refine ⟨(Fields.ofList_spec _).1, fun entry member => ?_⟩
    obtain ⟨source, inside, rfl⟩ := List.mem_map.mp ((Fields.ofList_spec _).2 entry member)
    exact textKeyed_entity _
  · exact ⟨List.nodup_nil, List.forall_mem_nil _⟩

/-- A keyed payload makes a keyed store. -/
theorem keyed_of_ofPayload {payload : Value} (keyed : payload.Keyed)
    (taken : ofPayload payload = .ok store) : store.Keyed := by
  rcases ofFields_of_ofPayload taken with ⟨fields, rfl, rfl⟩ | rfl
  · refine ⟨(Fields.ofList_spec _).1, fun entry member => ?_⟩
    obtain ⟨source, inside, rfl⟩ := List.mem_map.mp ((Fields.ofList_spec _).2 entry member)
    exact keyed_entity (keyed.values source inside)
  · exact ⟨List.nodup_nil, List.forall_mem_nil _⟩

/-- Text keys can always be written. -/
theorem namesHaveText_of_textKeyed {fields : List (Key × Value)}
    (named : ∀ entry ∈ fields, ∃ name, entry.1 = .text name)
    (entities : ∀ entry ∈ fields, entry.2.TextKeyed) : namesHaveText fields = true := by
  refine List.all_eq_true.mpr fun ⟨k, v⟩ member => ?_
  obtain ⟨name, rfl⟩ : ∃ name, k = .text name := named _ member
  cases v with
  | object inner =>
      refine List.all_eq_true.mpr fun ⟨l, w⟩ inside => ?_
      obtain ⟨field, rfl⟩ : ∃ field, l = .text field :=
        (entities _ member inner rfl).2 _ inside
      rfl
  | _ => rfl

/-- A keyed payload can always be taken. -/
theorem ofPayload_of_keyed {fields : List (Key × Value)} (keyed : Value.Keyed (.object fields)) :
    ofPayload (.object fields) = .ok (ofFields fields) :=
  if_pos (namesHaveText_of_textKeyed keyed.texts fun entry member =>
    (keyed.values entry member).textKeyed)

theorem entity_of_textKeyed {v : Value} (keyed : v.TextKeyed) : entity v = v := by
  cases v with
  | object fields =>
      obtain ⟨distinct, texts⟩ := keyed fields rfl
      refine congrArg Value.object
        ((congrArg Fields.ofList ?_).trans (Fields.ofList_of_nodup distinct))
      refine (List.map_congr_left fun entry member => ?_).trans (List.map_id fields)
      obtain ⟨k, v⟩ := entry
      obtain ⟨name, rfl⟩ : ∃ name, k = .text name := texts _ member
      rfl
  | _ => rfl

/-- A store is the store of its own snapshot. -/
theorem Named.ofPayload_snapshot (named : store.Named) :
    ofPayload (.record store.snapshot) = .ok store := by
  have same : Fields.ofList store.entries = store.entries := Fields.ofList_of_nodup named.distinct
  have written : namesHaveText (store.entries.map fun (name, v) => (.text name, v)) = true :=
    namesHaveText_of_textKeyed (List.forall_mem_map.mpr fun entry _ => ⟨entry.1, rfl⟩)
      (List.forall_mem_map.mpr named.entities)
  refine (if_pos written).trans ?_
  refine congrArg Except.ok (congrArg Store.mk ((congrArg Fields.ofList ?_).trans same))
  refine (List.map_map ..).trans ?_
  refine (List.map_congr_left fun entry member => ?_).trans (List.map_id store.entries)
  exact Prod.ext rfl (entity_of_textKeyed (named.entities entry member))

theorem Keyed.ofPayload_snapshot (keyed : store.Keyed) :
    ofPayload (.record store.snapshot) = .ok store :=
  keyed.named.ofPayload_snapshot

end Store

/-! ### Operands -/

theorem Scalar.keyed_toValue (scalar : Scalar) : scalar.toValue.Keyed := by
  cases scalar <;> exact .scalar rfl

/-- Operands resolve to keyed values. -/
theorem Operand.keyed_resolve {operand : Operand} {store : Store} {v : Value} (keyed : store.Keyed)
    (resolved : operand.resolve store = some v) : v.Keyed := by
  cases operand with
  | fact ref => exact keyed.read resolved
  | literal value units =>
      cases resolved
      exact value.keyed_toValue

end Rulebook
