import Rulebook.Proofs.State.Cells

/-!
The cells of a store.

A path belongs to a cell. A field of an entity is a cell of its own, but the fields of the
route are one cell together with the route itself, which replaces them. What a cell holds is
seen through its paths alone: a write leaves every other cell as it was
(`Store.content_put_of_ne`), stores that agree on some cells still do after the same write
(`Store.SameOn.put`), and writes to different cells commute up to the order of keys
(`Store.put_comm`, `Store.putAll_comm`).
-/

namespace Rulebook

/-! ### Paths and cells -/

/-- A path is made of its two parts. -/
theorem toList_of_splitPath? {path entity field : String}
    (split : splitPath? path = some (entity, field)) :
    path.toList = entity.toList ++ '.' :: field.toList := by
  unfold splitPath? at split
  dsimp only at split
  split at split
  · cases split
  · rename_i dot tail rest
    have isDot : dot = '.' := by
      have head := List.head_dropWhile_not (p := (· ≠ '.')) (w := rest ▸ List.cons_ne_nil dot tail)
      simpa only [rest, List.head_cons, ne_eq, decide_eq_false_iff_not,
        Decidable.not_not] using head
    subst isDot
    split at split
    · cases split
    · cases split
      rw [String.toList_ofList, String.toList_ofList, ← rest]
      exact List.takeWhile_append_dropWhile.symm

/-- No two paths have the same parts. -/
theorem eq_of_splitPath? {path other : String} {parts : String × String}
    (split : splitPath? path = some parts) (split' : splitPath? other = some parts) :
    path = other := by
  obtain ⟨entity, field⟩ := parts
  exact String.toList_injective
    ((toList_of_splitPath? split).trans (toList_of_splitPath? split').symm)

/-- The cell of a path: the fields of the route are parts of one cell. -/
def cellOf (path : String) : String :=
  match splitPath? path with
  | some (entity, _) => if entity = routeSlot then routeSlot else path
  | none => path

@[simp] theorem cellOf_routeSlot : cellOf routeSlot = routeSlot := by
  rw [cellOf, splitPath?_routeSlot]

/-- A field of the slot is kept in the slot's own cell. -/
theorem cellOf_eq_routeSlot {path field : String}
    (split : splitPath? path = some (routeSlot, field)) :
    cellOf path = routeSlot := by
  rw [cellOf, split]
  exact if_pos rfl

/-- Any other path is its own cell. -/
theorem cellOf_eq_self {path : String} (other : cellOf path ≠ routeSlot) : cellOf path = path := by
  cases split : splitPath? path with
  | none => rw [cellOf, split]
  | some parts =>
      obtain ⟨entity, field⟩ := parts
      have apart : entity ≠ routeSlot := by
        rintro rfl
        exact other (cellOf_eq_routeSlot split)
      rw [cellOf, split]
      exact if_neg apart

/-- Only a field of the route is in the cell of the route. -/
theorem eq_routeSlot_of_cellOf {path entity field : String}
    (split : splitPath? path = some (entity, field)) (route : cellOf path = routeSlot) :
    entity = routeSlot := by
  by_cases same : entity = routeSlot
  · exact same
  · rw [cellOf, split] at route
    exact absurd ((if_neg same).symm.trans route) (splitPath?_ne_routeSlot split)

/-! ### Contents -/

namespace Store

variable {s t : Store} {path other : String}

/-- What the cell of a path holds. -/
def content (store : Store) (path : String) : Option Value :=
  if cellOf path = routeSlot then store.readRoute else store.read path

/-- Paths of one cell have one content. -/
theorem content_congr (store : Store) (same : cellOf path = cellOf other) :
    store.content path = store.content other := by
  unfold content
  rw [same]
  by_cases route : cellOf other = routeSlot
  · rw [if_pos route, if_pos route]
  · rw [if_neg route, if_neg route, ← cellOf_eq_self route, ← same, cellOf_eq_self (same ▸ route)]

theorem fieldsOf_congr {name : String}
    (same : Fields.get? name s.entries = Fields.get? name t.entries) :
    s.fieldsOf name = t.fieldsOf name := by
  rw [fieldsOf, fieldsOf, same]

/-- Reading a path looks at no more than its cell. -/
theorem read_congr (same : s.content path = t.content path) : s.read path = t.read path := by
  unfold content at same
  by_cases route : cellOf path = routeSlot
  · rw [if_pos route, if_pos route] at same
    cases split : splitPath? path with
    | none => rw [read, read, split]
    | some parts =>
        obtain ⟨entity, field⟩ := parts
        have slot := eq_routeSlot_of_cellOf split route
        subst slot
        rw [read_of_split split, read_of_split split, readField, readField, fieldsOf_congr same]
  · rwa [if_neg route, if_neg route] at same

/-- The route is the content of its slot. -/
theorem content_routeSlot (store : Store) : store.content routeSlot = store.readRoute :=
  if_pos cellOf_routeSlot

/-! ### Writes -/

def put (store : Store) (path : String) (value : Value) : Store :=
  if path = routeSlot then store.writeRoute value
  else
    match splitPath? path with
    | some (entity, field) => store.writeField entity field value
    | none => store

theorem put_routeSlot (store : Store) (value : Value) :
    store.put routeSlot value = store.writeRoute value :=
  if_pos rfl

theorem put_of_split {entity field : String} (store : Store)
    (split : splitPath? path = some (entity, field)) (value : Value) :
    store.put path value = store.writeField entity field value := by
  rw [put, if_neg (splitPath?_ne_routeSlot split), split]

theorem put_of_malformed (store : Store) (apart : path ≠ routeSlot)
    (malformed : splitPath? path = none) (value : Value) : store.put path value = store := by
  rw [put, if_neg apart, malformed]

/-- A write is seen in its cell alone. -/
theorem content_put_of_ne (differs : cellOf path ≠ cellOf other) (value : Value) :
    (s.put path value).content other = s.content other := by
  by_cases slot : path = routeSlot
  · subst slot
    rw [cellOf_routeSlot] at differs
    rw [put_routeSlot, content, content, if_neg differs.symm, if_neg differs.symm]
    cases split : splitPath? other with
    | none => rw [read, read, split]
    | some parts =>
        obtain ⟨entity, field⟩ := parts
        have apart : entity ≠ routeSlot := by
          rintro rfl
          exact differs (cellOf_eq_routeSlot split).symm
        rw [read_of_split split, read_of_split split, readField, readField,
          fieldsOf_writeRoute value apart]
  · cases split : splitPath? path with
    | none => rw [put_of_malformed s slot split]
    | some parts =>
        obtain ⟨entity, field⟩ := parts
        rw [put_of_split s split]
        -- The slot and its fields share a cell, so the slot is looked at on its own.
        by_cases route : cellOf other = routeSlot
        · have apart : routeSlot ≠ entity := by
            rintro rfl
            exact differs ((cellOf_eq_routeSlot split).trans route.symm)
          rw [content, content, if_pos route, if_pos route]
          exact Fields.get?_set_of_ne apart _ _
        · rw [content, content, if_neg route, if_neg route]
          cases splitOther : splitPath? other with
          | none => rw [read, read, splitOther]
          | some parts' =>
              obtain ⟨entity', field'⟩ := parts'
              rw [read_of_split splitOther, read_of_split splitOther]
              refine readField_writeField_of_ne value ?_
              intro same
              rw [same] at splitOther
              exact differs (congrArg cellOf (eq_of_splitPath? split splitOther))

/-- What a cell holds after a write to it depends on what it has held before and no more. -/
theorem content_put_congr (same : s.content path = t.content path) (value : Value) :
    (s.put path value).content path = (t.put path value).content path := by
  by_cases slot : path = routeSlot
  · subst slot
    rw [put_routeSlot, put_routeSlot, content_routeSlot, content_routeSlot, readRoute, readRoute,
      writeRoute, writeRoute, Fields.get?_set_self, Fields.get?_set_self]
  · cases split : splitPath? path with
    | none => rwa [put_of_malformed s slot split, put_of_malformed t slot split]
    | some parts =>
        obtain ⟨entity, field⟩ := parts
        rw [put_of_split s split, put_of_split t split]
        unfold content at same ⊢
        by_cases route : cellOf path = routeSlot
        · obtain rfl := eq_routeSlot_of_cellOf split route
          rw [if_pos route, if_pos route] at same ⊢
          rw [readRoute, readRoute, writeField, writeField, Fields.get?_set_self,
            Fields.get?_set_self, fieldsOf_congr same]
        · rw [if_neg route, if_neg route, read_of_split split, read_of_split split,
            readField_writeField, readField_writeField]

/-! ### Stores that agree on some cells -/

/-- The cells of these paths hold the same in both stores. -/
def SameOn (paths : List String) (s t : Store) : Prop :=
  ∀ path ∈ paths, s.content path = t.content path

variable {paths : List String}

theorem SameOn.symm (same : SameOn paths s t) : SameOn paths t s :=
  fun path member => (same path member).symm

theorem SameOn.mono {fewer : List String} (same : SameOn paths s t) (among : fewer ⊆ paths) :
    SameOn fewer s t :=
  fun path member => same path (among member)

/-- Stores that agree on some cells still do after the same write, to whatever cell. -/
theorem SameOn.put (same : SameOn paths s t) (path : String) (value : Value) :
    SameOn paths (s.put path value) (t.put path value) := by
  intro other member
  by_cases cell : cellOf path = cellOf other
  · rw [content_congr _ cell.symm, content_congr _ cell.symm]
    refine content_put_congr ?_ value
    rw [content_congr s cell, content_congr t cell]
    exact same other member
  · rw [content_put_of_ne cell, content_put_of_ne cell]
    exact same other member

def putAll (store : Store) (writes : List (String × Value)) : Store :=
  writes.foldl (fun store write => store.put write.1 write.2) store

theorem putAll_append (store : Store) (first second : List (String × Value)) :
    store.putAll (first ++ second) = (store.putAll first).putAll second :=
  List.foldl_append

theorem SameOn.putAll (same : SameOn paths s t) (writes : List (String × Value)) :
    SameOn paths (s.putAll writes) (t.putAll writes) := by
  induction writes generalizing s t with
  | nil => exact same
  | cons write rest ih => exact ih (same.put write.1 write.2)

/-- Writes to other cells leave these as they were. -/
theorem sameOn_putAll (store : Store) {writes : List (String × Value)}
    (apart : ∀ write ∈ writes, ∀ path ∈ paths, cellOf write.1 ≠ cellOf path) :
    SameOn paths (store.putAll writes) store := by
  induction writes generalizing store with
  | nil => exact fun _ _ => rfl
  | cons write rest ih =>
      obtain ⟨here, there⟩ := List.forall_mem_cons.mp apart
      intro path member
      rw [putAll, List.foldl_cons]
      exact (ih _ there path member).trans (content_put_of_ne (here path member) write.2)

end Store

/-! ### Stores with the same facts -/

/-- Both entries are the same, or both are objects with the same entries up to their order. -/
def SameEntry (a b : Option Value) : Prop :=
  a = b ∨ ∃ fs gs, a = some (.object fs) ∧ b = some (.object gs) ∧
    ∀ key, Fields.get? key fs = Fields.get? key gs

theorem SameEntry.trans {a b c : Option Value} (first : SameEntry a b) (second : SameEntry b c) :
    SameEntry a c := by
  rcases first with rfl | ⟨fs, gs, rfl, rfl, one⟩
  · exact second
  · rcases second with rfl | ⟨gs', hs, same, rfl, two⟩
    · exact .inr ⟨fs, gs, rfl, rfl, one⟩
    · cases same
      exact .inr ⟨fs, hs, rfl, rfl, fun key => (one key).trans (two key)⟩

theorem Fields.get?_set_congr {κ α : Type} [DecidableEq κ] {fs gs : List (κ × α)}
    (same : ∀ key, get? key fs = get? key gs) (k : κ) (v : α) (key : κ) :
    get? key (set k v fs) = get? key (set k v gs) := by
  by_cases here : key = k
  · rw [here, get?_set_self, get?_set_self]
  · rw [get?_set_of_ne here, get?_set_of_ne here, same]

/-- Two different keys are set in either order. -/
theorem Fields.get?_set_comm {κ α : Type} [DecidableEq κ] {k l : κ} (differs : k ≠ l) (v w : α)
    (fs : List (κ × α)) (key : κ) :
    get? key (set l w (set k v fs)) = get? key (set k v (set l w fs)) := by
  by_cases first : key = k
  · subst first
    rw [get?_set_of_ne differs, get?_set_self, get?_set_self]
  · rw [get?_set_of_ne first]
    by_cases second : key = l
    · rw [second, get?_set_self, get?_set_self]
    · rw [get?_set_of_ne second, get?_set_of_ne second, get?_set_of_ne first]

namespace Store

/-- The same entities with the same fields, and the same route, up to the order of keys. -/
def SameFacts (s t : Store) : Prop :=
  ∀ name, SameEntry (Fields.get? name s.entries) (Fields.get? name t.entries)

namespace SameFacts

variable {s t u : Store} {path other : String}

theorem refl (s : Store) : SameFacts s s := fun _ => .inl rfl

theorem trans (first : SameFacts s t) (second : SameFacts t u) : SameFacts s u :=
  fun name => (first name).trans (second name)

/-- The fields of an entity are the same in both. -/
theorem get?_fieldsOf (same : SameFacts s t) (entity : String) (key : Key) :
    Fields.get? key (s.fieldsOf entity) = Fields.get? key (t.fieldsOf entity) := by
  rcases same entity with equal | ⟨fs, gs, first, second, fields⟩
  · rw [fieldsOf_congr equal]
  · rw [fieldsOf, fieldsOf, first, second]
    exact fields key

/-- A write keeps two stores of the same facts so: it goes to one cell on both. -/
theorem put (same : SameFacts s t) (path : String) (value : Value) :
    SameFacts (s.put path value) (t.put path value) := by
  intro name
  by_cases slot : path = routeSlot
  · subst slot
    rw [put_routeSlot, put_routeSlot, writeRoute, writeRoute]
    by_cases here : name = routeSlot
    · rw [here, Fields.get?_set_self, Fields.get?_set_self]
      exact .inl rfl
    · rw [Fields.get?_set_of_ne here, Fields.get?_set_of_ne here]
      exact same name
  · cases split : splitPath? path with
    | none =>
        rw [put_of_malformed s slot split, put_of_malformed t slot split]
        exact same name
    | some parts =>
        obtain ⟨entity, field⟩ := parts
        rw [put_of_split s split, put_of_split t split, writeField, writeField]
        by_cases here : name = entity
        · rw [here, Fields.get?_set_self, Fields.get?_set_self]
          exact .inr ⟨_, _, rfl, rfl, Fields.get?_set_congr (same.get?_fieldsOf entity) _ _⟩
        · rw [Fields.get?_set_of_ne here, Fields.get?_set_of_ne here]
          exact same name

theorem putAll (same : SameFacts s t) (writes : List (String × Value)) :
    SameFacts (s.putAll writes) (t.putAll writes) := by
  induction writes generalizing s t with
  | nil => exact same
  | cons write rest ih => exact ih (same.put write.1 write.2)

end SameFacts

/-! ### Writes to different cells -/

section Commute

variable {path other entity entity' : String}

/-- Writes to different cells commute. -/
theorem writeField_comm (store : Store) {field field' : String}
    (differs : (entity, field) ≠ (entity', field')) (v w : Value) :
    SameFacts ((store.writeField entity field v).writeField entity' field' w)
      ((store.writeField entity' field' w).writeField entity field v) := by
  intro name
  by_cases same : entity = entity'
  · subst same
    have fields : Key.text field ≠ Key.text field' := by
      intro texts
      exact differs (congrArg _ (Key.text.inj texts))
    by_cases here : name = entity
    · subst here
      rw [writeField, fieldsOf_writeField, Fields.get?_set_self, writeField, fieldsOf_writeField,
        Fields.get?_set_self]
      exact .inr ⟨_, _, rfl, rfl, Fields.get?_set_comm fields v w _⟩
    · simp only [writeField, Fields.get?_set_of_ne here]
      exact .inl rfl
  · rw [writeField, fieldsOf_writeField_of_ne field v (Ne.symm same), writeField,
      writeField, fieldsOf_writeField_of_ne field' w same, writeField]
    exact .inl (Fields.get?_set_comm same _ _ _ _)

/-- A write to another cell commutes with a new route. -/
theorem put_route_comm (store : Store) (apart : cellOf other ≠ routeSlot) (v w : Value)
    (name : String) :
    Fields.get? name ((store.put routeSlot v).put other w).entries =
      Fields.get? name ((store.put other w).put routeSlot v).entries := by
  have slot : other ≠ routeSlot := by
    rintro rfl
    exact apart cellOf_routeSlot
  cases split : splitPath? other with
  | none => rw [put_of_malformed _ slot split, put_of_malformed _ slot split]
  | some parts =>
      obtain ⟨entity, field⟩ := parts
      have elsewhere : entity ≠ routeSlot := by
        rintro rfl
        exact apart (cellOf_eq_routeSlot split)
      rw [put_routeSlot, put_routeSlot, put_of_split _ split, put_of_split _ split, writeField,
        fieldsOf_writeRoute v elsewhere, writeRoute, writeRoute, writeField]
      exact Fields.get?_set_comm elsewhere.symm _ _ _ _

/-- Writes to different cells commute up to the order of keys. -/
theorem put_comm (store : Store) (differs : cellOf path ≠ cellOf other) (v w : Value) :
    SameFacts ((store.put path v).put other w) ((store.put other w).put path v) := by
  by_cases slot : path = routeSlot
  · subst slot
    rw [cellOf_routeSlot] at differs
    exact fun name => .inl (put_route_comm store differs.symm v w name)
  · by_cases otherSlot : other = routeSlot
    · subst otherSlot
      rw [cellOf_routeSlot] at differs
      exact fun name => .inl (put_route_comm store differs w v name).symm
    · cases split : splitPath? path with
      | none =>
          rw [put_of_malformed _ slot split, put_of_malformed _ slot split]
          exact .refl _
      | some parts =>
          cases splitOther : splitPath? other with
          | none =>
              rw [put_of_malformed _ otherSlot splitOther, put_of_malformed _ otherSlot splitOther]
              exact .refl _
          | some parts' =>
              have apart : parts ≠ parts' := by
                rintro rfl
                exact differs (congrArg cellOf (eq_of_splitPath? split splitOther))
              rw [put_of_split _ split, put_of_split _ split, put_of_split _ splitOther,
                put_of_split _ splitOther]
              exact writeField_comm store apart v w

/-- A write commutes with writes to other cells. -/
theorem putAll_put_comm (store : Store) (path : String) (v : Value)
    {writes : List (String × Value)}
    (apart : ∀ write ∈ writes, cellOf path ≠ cellOf write.1) :
    SameFacts ((store.put path v).putAll writes) ((store.putAll writes).put path v) := by
  induction writes generalizing store with
  | nil => exact .refl _
  | cons write rest ih =>
      obtain ⟨here, there⟩ := List.forall_mem_cons.mp apart
      have swapped := (put_comm store here v write.2).putAll rest
      exact swapped.trans (ih (store.put write.1 write.2) there)

/-- Two lists of writes to different cells commute. -/
theorem putAll_comm (store : Store) {first second : List (String × Value)}
    (apart : ∀ one ∈ first, ∀ two ∈ second, cellOf one.1 ≠ cellOf two.1) :
    SameFacts ((store.putAll first).putAll second) ((store.putAll second).putAll first) := by
  induction first generalizing store with
  | nil => exact .refl _
  | cons write rest ih =>
      obtain ⟨here, there⟩ := List.forall_mem_cons.mp apart
      have moved := (putAll_put_comm store write.1 write.2 here).putAll rest
      exact (ih (store.put write.1 write.2) there).trans moved

end Commute

end Store

end Rulebook
