import Rulebook.Proofs.State.Keyed
import Rulebook.Proofs.State.Path
import Rulebook.Proofs.State.Reading

/-!
A store as a map of cells.

Edits are carried out in place, one after another. A write makes room for the fields of its entity
before it sets one of them, and a text that is no path is found out before anything has changed
(`Edit.perform_write`). What a path reads after an edit is what the edit has written there, or else
what it has read before (`Store.read_perform`), and so after any number of edits it is the value of
the last write to this path, or else what the payload has there. Likewise for the route
(`store_is_map_of_cells`).
-/

namespace Rulebook

inductive Edit where
  | write (path : String) (value : Value)
  | writeRoute (route : Value)

/-! ### Edits in place -/

/-- Makes room for the fields of an entity: an entry that is no object gives way to one that has
no fields yet. -/
def Store.withEntity (store : Store) (entity : String) : Store :=
  match Fields.get? entity store.entries with
  | some (.object _) => store
  | _ => ⟨Fields.set entity (.object []) store.entries⟩

namespace Edit

/-- Carries out an edit. A write also tells what was there before, or why it is refused. -/
def perform : Edit → StateM Store (Except StoreError (Option Value))
  | .write path value =>
      match twoParts? path with
      | none => return .error (.malformedPath path)
      | some (entity, field) => do
          modify (·.withEntity entity)
          let fields := (← get).fieldsOf entity
          modify fun store =>
            ⟨Fields.set entity (.object (Fields.set (.text field) value fields)) store.entries⟩
          return .ok (Fields.get? (Key.text field) fields)
  | .writeRoute route => do
      modify (·.writeRoute route)
      return .ok none

/-- The value that the edit writes to this path. -/
def writtenTo? (path : String) : Edit → Option Value
  | .write target value => if target = path then some value else none
  | .writeRoute _ => none

def route? : Edit → Option Value
  | .write _ _ => none
  | .writeRoute route => some route

/-- The edit writes a field of the route. -/
def OnRouteField (edit : Edit) : Prop :=
  ∃ field value, IsName field ∧ edit = .write (dotted routeSlot field) value

end Edit

def lastWrite (path : String) (edits : List Edit) : Option Value :=
  (edits.filterMap (Edit.writtenTo? path)).getLast?

def lastRoute (edits : List Edit) : Option Value := (edits.filterMap Edit.route?).getLast?

/-- The value that a payload has for a field: that of the entity's entry, if it is an object. -/
def Record.field? (payload : Record) (entity field : String) : Option Value :=
  (Fields.get? entity payload).bind (Value.field? field)

namespace Store

def after (store : Store) : List Edit → Store
  | [] => store
  | edit :: later => (edit.perform.run store).2.after later

variable {store : Store} {path entity field : String} {value : Value}

/-! ### One edit -/

theorem fieldsOf_withEntity :
    (store.withEntity entity).fieldsOf entity = store.fieldsOf entity := by
  unfold withEntity
  split
  · rfl
  · rename_i other
    have none : store.fieldsOf entity = [] := by
      unfold fieldsOf
      split
      · rename_i fields found
        exact absurd found (other fields)
      · rfl
    rw [none, fieldsOf, Fields.get?_set_self]

/-- Whatever room was made, the entry is replaced. -/
theorem set_withEntity (v : Value) :
    Fields.set entity v (store.withEntity entity).entries = Fields.set entity v store.entries := by
  unfold withEntity
  split
  · rfl
  · exact Fields.set_set ..

end Store

/-- In place, a write does what it does to the store, and a text that is no path changes nothing. -/
theorem Edit.perform_write (store : Store) (path : String) (value : Value) :
    (Edit.write path value).perform.run store =
      match store.write path value with
      | .ok (before, next) => (.ok before, next)
      | .error e => (.error e, store) := by
  rw [perform, Store.write, twoParts?_eq]
  cases splitPath? path with
  | none => rfl
  | some names =>
      obtain ⟨entity, field⟩ := names
      show (Except.ok (Fields.get? (Key.text field) ((store.withEntity entity).fieldsOf entity)),
        (⟨Fields.set entity (.object (Fields.set (.text field) value
          ((store.withEntity entity).fieldsOf entity)))
            (store.withEntity entity).entries⟩ : Store)) =
            (.ok (store.readField entity field), store.writeField entity field value)
      rw [Store.fieldsOf_withEntity, Store.set_withEntity]
      rfl

theorem Edit.perform_writeRoute (store : Store) (route : Value) :
    (Edit.writeRoute route).perform.run store = (.ok none, store.writeRoute route) := rfl

namespace Store

variable {store : Store} {path entity field : String} {value : Value}

/-- A write to a pair of names returns what it wrote over, -/
theorem write_dotted (first : IsName entity) (second : IsName field) :
    store.write (dotted entity field) value =
      .ok (store.readField entity field, store.writeField entity field value) := by
  rw [write, splitPath?_dotted first second]

/-- and a write to anything else is an error. -/
theorem write_malformed (malformed : Malformed path) :
    store.write path value = .error (.malformedPath path) := by
  rw [write, splitPath?_eq_none_iff.mpr malformed]

/-- A path of another entity than the route reads what an edit has written there, or else what it
has read before. -/
theorem read_perform (edit : Edit) (first : IsName entity) (second : IsName field)
    (apart : entity ≠ routeSlot) :
    (edit.perform.run store).2.read (dotted entity field) =
      (edit.writtenTo? (dotted entity field)).or (store.read (dotted entity field)) := by
  have split := splitPath?_dotted first second
  cases edit with
  | writeRoute route =>
      rw [Edit.perform_writeRoute, read_of_split split, readField, fieldsOf_writeRoute route apart,
        ← readField, ← read_of_split split]
      rfl
  | write target value =>
      rw [Edit.perform_write, Edit.writtenTo?]
      by_cases same : target = dotted entity field
      · rw [same, write_dotted first second, if_pos rfl, Option.some_or]
        exact (read_of_split split).trans (readField_writeField ..)
      · rw [if_neg same, Option.none_or]
        -- Another path names another cell, or none.
        cases goal : splitPath? target with
        | none => rw [write_malformed (splitPath?_eq_none_iff.mp goal)]
        | some names =>
            obtain ⟨entity', field'⟩ := names
            obtain ⟨rfl, first', second'⟩ := splitPath?_eq_some_iff.mp goal
            rw [write_dotted first' second', read_of_split split, read_of_split split]
            refine readField_writeField_of_ne value fun names => same ?_
            rw [(Prod.mk.inj names).1, (Prod.mk.inj names).2]

/-- The slot reads the route that an edit has written, or else what it has read before, unless a
field of the route is written. -/
theorem readRoute_perform {edit : Edit} (apart : ¬ edit.OnRouteField) :
    (edit.perform.run store).2.readRoute = edit.route?.or store.readRoute := by
  cases edit with
  | writeRoute route => exact Fields.get?_set_self ..
  | write target value =>
      rw [Edit.perform_write, Edit.route?, Option.none_or]
      cases goal : splitPath? target with
      | none => rw [write_malformed (splitPath?_eq_none_iff.mp goal)]
      | some names =>
          obtain ⟨entity, field⟩ := names
          obtain ⟨rfl, first, second⟩ := splitPath?_eq_some_iff.mp goal
          rw [write_dotted first second]
          have other : routeSlot ≠ entity := fun same => apart ⟨field, value, second, same ▸ rfl⟩
          exact Fields.get?_set_of_ne other ..

end Store

/-! ### Many edits -/

/-- The last value that is found is that of the later items, or else that of the first one. -/
theorem getLast?_filterMap_cons {α β : Type} (f : α → Option β) (first : α) (later : List α) :
    ((first :: later).filterMap f).getLast? = ((later.filterMap f).getLast?).or (f first) := by
  rw [List.filterMap_cons]
  cases f first with
  | none => exact (Option.or_none).symm
  | some found =>
      rw [List.getLast?_cons]
      cases (later.filterMap f).getLast? <;> rfl

namespace Store

variable {store : Store} {entity field : String}

/-- After any edits a path reads the last value written to it, or else what it has read before. -/
theorem read_after (first : IsName entity) (second : IsName field) (apart : entity ≠ routeSlot)
    (edits : List Edit) :
    (store.after edits).read (dotted entity field) =
      (lastWrite (dotted entity field) edits).or (store.read (dotted entity field)) := by
  induction edits generalizing store with
  | nil => rfl
  | cons edit later ih =>
      rw [after, ih, read_perform edit first second apart, lastWrite, lastWrite,
        getLast?_filterMap_cons, Option.or_assoc]

/-- The slot holds the last route that was written to it. -/
theorem readRoute_after {edits : List Edit} (apart : ∀ edit ∈ edits, ¬ edit.OnRouteField) :
    (store.after edits).readRoute = (lastRoute edits).or store.readRoute := by
  induction edits generalizing store with
  | nil => rfl
  | cons edit later ih =>
      obtain ⟨here, there⟩ := List.forall_mem_cons.mp apart
      rw [after, ih there, readRoute_perform here, lastRoute, lastRoute, getLast?_filterMap_cons,
        Option.or_assoc]

end Store

/-- The store of a payload with text keys is a map of cells. After any edits, the path of a field
reads the value of the last write to this path, or else what the payload has there; if no field of
the route was written, the slot reads the route that was written last, or else the payload's. At
any time a write tells what its path reads, and a write to a text that is no path is refused and
leaves the store as it was. -/
theorem store_is_map_of_cells (payload : Record) (distinct : (payload.map Prod.fst).Nodup)
    (entities : ∀ entry ∈ payload, entry.2.TextKeyed) (edits : List Edit) :
    ∃ start, Store.ofPayload (.record payload) = .ok start ∧
      (∀ entity field, IsName entity → IsName field → entity ≠ routeSlot →
        (start.after edits).read (dotted entity field) =
          (lastWrite (dotted entity field) edits).or (payload.field? entity field)) ∧
      ((∀ edit ∈ edits, ¬ edit.OnRouteField) →
        (start.after edits).readRoute = (lastRoute edits).or (Fields.get? routeSlot payload)) ∧
      (∀ entity field value, IsName entity → IsName field → ∃ next,
        (start.after edits).write (dotted entity field) value =
            .ok ((start.after edits).read (dotted entity field), next) ∧
          (Edit.write (dotted entity field) value).perform.run (start.after edits) =
            (.ok ((start.after edits).read (dotted entity field)), next)) ∧
      ∀ path value, Malformed path →
        (start.after edits).write path value = .error (.malformedPath path) ∧
          (Edit.write path value).perform.run (start.after edits) =
            (.error (.malformedPath path), start.after edits) := by
  have named : (⟨payload⟩ : Store).Named := ⟨distinct, entities⟩
  refine ⟨⟨payload⟩, named.ofPayload_snapshot, ?_, Store.readRoute_after, ?_, ?_⟩
  · intro entity field first second apart
    have start : (⟨payload⟩ : Store).read (dotted entity field) = payload.field? entity field := by
      rw [Store.read_of_split (splitPath?_dotted first second), Store.readField, Store.fieldsOf,
        Record.field?]
      cases Fields.get? entity payload with
      | none => rfl
      | some v => cases v <;> rfl
    rw [Store.read_after first second apart, start]
  · intro entity field value first second
    refine ⟨(Store.after ⟨payload⟩ edits).writeField entity field value, ?_, ?_⟩
    · rw [Store.write_dotted first second, Store.read_of_split (splitPath?_dotted first second)]
    · rw [Edit.perform_write, Store.write_dotted first second,
        Store.read_of_split (splitPath?_dotted first second)]
  · intro path value malformed
    refine ⟨Store.write_malformed malformed, ?_⟩
    rw [Edit.perform_write, Store.write_malformed malformed]

/-- A depot has a crate with a label that is null, and a note that is no object. -/
def depotPayload : Record :=
  [("crate", .record [("weight", .int 0), ("label", .null)]), ("note", .text "spare"),
    ("route", .record [("queue", .text "desk")])]

/-- The note gets a text twice, the crate an empty weight, and one edit has no path. -/
def depotEdits : List Edit :=
  [.write (dotted "note" "text") (.bool false), .write "crate" (.int 9),
    .writeRoute (.text "door"), .write (dotted "crate" "weight") (.text ""),
    .write (dotted "note" "text") .null]

theorem depotEdits_apart : ∀ edit ∈ depotEdits, ¬ edit.OnRouteField := by
  have apart : ∀ target value, (splitPath? target).map Prod.fst ≠ some routeSlot →
      ¬ (Edit.write target value).OnRouteField := by
    rintro target value other ⟨field, _, name, same⟩
    have slot : IsName routeSlot := by decide
    cases same
    exact other (congrArg (Option.map Prod.fst) (splitPath?_dotted slot name))
  simp only [depotEdits, List.forall_mem_cons]
  refine ⟨apart _ _ (by decide), apart _ _ (by decide), ?_, apart _ _ (by decide),
    apart _ _ (by decide), List.forall_mem_nil _⟩
  rintro ⟨_, _, _, same⟩
  cases same

/-- What was null stays apart from what is absent, and the last write to each path counts. -/
theorem depot_reads :
    (depotPayload.map Prod.fst).Nodup ∧ (∀ entry ∈ depotPayload, entry.2.TextKeyed) ∧
    ∃ start, Store.ofPayload (.record depotPayload) = .ok start ∧
      (start.after depotEdits).read (dotted "crate" "label") = some .null ∧
      (start.after depotEdits).read (dotted "crate" "weight") = some (.text "") ∧
      (start.after depotEdits).read (dotted "note" "text") = some .null ∧
      (start.after depotEdits).read (dotted "note" "size") = none ∧
      (start.after depotEdits).readRoute = some (.text "door") := by
  have distinct : (depotPayload.map Prod.fst).Nodup := by decide
  have texts : ∀ fields : Record, (fields.map Prod.fst).Nodup →
      (Value.record fields).TextKeyed := by
    rintro fields apart _ ⟨⟩
    refine ⟨Fields.nodup_texts apart, fun entry member => ?_⟩
    obtain ⟨source, _, rfl⟩ := List.mem_map.mp member
    exact ⟨_, rfl⟩
  have entities : ∀ entry ∈ depotPayload, entry.2.TextKeyed := by
    simp only [depotPayload, List.forall_mem_cons]
    exact ⟨texts _ (by decide), nofun, texts _ (by decide), List.forall_mem_nil _⟩
  obtain ⟨start, taken, reads, route, _⟩ :=
    store_is_map_of_cells depotPayload distinct entities depotEdits
  refine ⟨distinct, entities, start, taken, ?_, ?_, ?_, ?_, ?_⟩
  · rw [reads "crate" "label" (by decide) (by decide) (by decide)]
    rfl
  · rw [reads "crate" "weight" (by decide) (by decide) (by decide)]
    rfl
  · rw [reads "note" "text" (by decide) (by decide) (by decide)]
    rfl
  · rw [reads "note" "size" (by decide) (by decide) (by decide)]
    rfl
  · rw [route depotEdits_apart]
    rfl

end Rulebook
