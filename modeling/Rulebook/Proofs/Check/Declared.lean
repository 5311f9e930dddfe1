import Rulebook.Proofs.Check.Resolution
import Rulebook.Proofs.State.Path

/-!
The declaration that a path resolves to.

Entities may share a name, and fields too. A path `entity.field` then means the first field of that
name among the fields of all entities of that name, in the order in which they are declared
(`Catalog.Declares`), and a path that means none is refused with the part of it that is to blame
(`Catalog.Lacks`). Every path is of one of these kinds and is resolved accordingly
(`Catalog.resolvesFirst`). The same comes of a table that is filled entity by entity, and field by
field, and keeps what it has under a name (`Catalog.resolve_eq_lookup`).
-/

namespace Rulebook

def allFields (declared : List Entity) : List (String × FieldDecl) :=
  declared.flatMap fun entity => entity.fields.map fun decl => (entity.name, decl)

namespace Catalog

variable {catalog : Catalog} {entity field path segment : String} {decl : FieldDecl}

/-- The declarations that `entity.field` could mean, in order. -/
def candidates (catalog : Catalog) (entity field : String) : List FieldDecl :=
  (allFields catalog.entities).filterMap fun (owner, decl) =>
    if owner = entity ∧ decl.name = field then some decl else none

/-- The path means this declaration: it is the first of those it could mean. -/
def Declares (catalog : Catalog) (path : String) (decl : FieldDecl) : Prop :=
  ∃ entity field, IsName entity ∧ IsName field ∧ path = dotted entity field ∧
    (catalog.candidates entity field).head? = some decl

/-- The path means no declaration, and this part of it is to blame. -/
inductive Lacks (catalog : Catalog) : String → String → Prop
  | path {path : String} : Malformed path → Lacks catalog path path
  | entity {entity field : String} : IsName entity → IsName field →
      (∀ other ∈ catalog.entities, other.name ≠ entity) →
      Lacks catalog (dotted entity field) entity
  | field {entity field : String} : IsName entity → IsName field →
      (∃ other ∈ catalog.entities, other.name = entity) →
      catalog.candidates entity field = [] → Lacks catalog (dotted entity field) field

/-- A refusal of a path that names this part of it. -/
structure Blames (error : CheckError) (segment : String) : Prop where
  kind : error.kind = .pathReference
  named : Fields.get? "segment" error.details = some (.text segment)

/-- A path resolves to the declaration that it means, and is refused for the part that is to blame
if it means none; and there are no other paths. -/
structure ResolvesFirst (catalog : Catalog) (path : String) : Prop where
  found : ∀ decl, catalog.resolve path = .ok decl ↔ catalog.Declares path decl
  refused : ∀ segment, (∃ error, catalog.resolve path = .error error ∧ Blames error segment) ↔
    catalog.Lacks path segment
  either : (∃ decl, catalog.Declares path decl) ∨ ∃ segment, catalog.Lacks path segment

/-! ### The first candidate -/

theorem hasEntity_iff :
    catalog.hasEntity entity = true ↔ ∃ other ∈ catalog.entities, other.name = entity := by
  simp [hasEntity]

/-- Scanning the declarations of every entity of that name finds the fields of that name in order.
-/
theorem candidates_eq_filter (catalog : Catalog) (entity field : String) :
    catalog.candidates entity field =
      (catalog.fieldsOf entity).filter fun decl => decl.name == field := by
  obtain ⟨declared⟩ := catalog
  show (allFields declared).filterMap _ = List.filter _ (List.flatMap _ (declared.filter _))
  induction declared with
  | nil => rfl
  | cons first rest ih =>
      rw [allFields, List.flatMap_cons, List.filterMap_append, ← allFields, ih, List.filterMap_map,
        List.filter_cons]
      by_cases named : first.name = entity
      · rw [if_pos (beq_iff_eq.mpr named), List.flatMap_cons, List.filter_append]
        refine congrArg (· ++ _) ?_
        rw [← List.filterMap_eq_filter]
        refine List.filterMap_congr fun decl _ => ?_
        simp [named, Option.guard]
      · rw [if_neg (mt beq_iff_eq.mp named)]
        simp [named]

theorem head?_candidates (catalog : Catalog) (entity field : String) :
    (catalog.candidates entity field).head? =
      (catalog.fieldsOf entity).find? fun decl => decl.name == field := by
  rw [candidates_eq_filter, List.head?_filter]

/-- Only an entity that is declared has fields to mean. -/
theorem hasEntity_of_head?_candidates
    (first : (catalog.candidates entity field).head? = some decl) :
    catalog.hasEntity entity = true := by
  rw [head?_candidates] at first
  have member := List.mem_of_find?_eq_some first
  simp only [fieldsOf, List.mem_flatMap, List.mem_filter, beq_iff_eq] at member
  obtain ⟨other, ⟨declared, named⟩, _⟩ := member
  exact hasEntity_iff.mpr ⟨other, declared, named⟩

/-! ### Resolving -/

theorem resolve_malformed (malformed : Malformed path) :
    catalog.resolve path = .error (.malformedPath path) := by
  rw [resolve, splitPath?_eq_none_iff.mpr malformed]

/-- What the catalog declares is found. -/
theorem resolve_of_declares (declares : catalog.Declares path decl) :
    catalog.resolve path = .ok decl := by
  obtain ⟨entity, field, first, second, rfl, head⟩ := declares
  have declared := hasEntity_of_head?_candidates head
  rw [head?_candidates] at head
  simp only [resolve, splitPath?_dotted first second, declared, head, if_true]

/-- What it lacks is refused, with the segment that is not known. -/
theorem resolve_of_lacks (lacks : catalog.Lacks path segment) :
    ∃ error, catalog.resolve path = .error error ∧ Blames error segment := by
  cases lacks with
  | path malformed => exact ⟨_, resolve_malformed malformed, rfl, rfl⟩
  | @entity _ field first second undeclared =>
      have absent : ¬ catalog.hasEntity segment = true := by
        rw [hasEntity_iff]
        rintro ⟨other, member, named⟩
        exact undeclared other member named
      refine ⟨.unknownEntity (dotted segment field) segment, ?_, rfl, rfl⟩
      simp only [resolve, splitPath?_dotted first second, if_neg absent]
  | @field entity _ first second declared none =>
      have unfound := head?_candidates catalog entity segment
      rw [none, List.head?_nil] at unfound
      refine ⟨.unknownField (dotted entity segment) entity segment, ?_, rfl, rfl⟩
      simp only [resolve, splitPath?_dotted first second, if_pos (hasEntity_iff.mpr declared),
        ← unfound]

/-- Every path is declared or lacks a segment. -/
theorem declares_or_lacks (catalog : Catalog) (path : String) :
    (∃ decl, catalog.Declares path decl) ∨ ∃ segment, catalog.Lacks path segment := by
  cases split : splitPath? path with
  | none => exact .inr ⟨path, .path (splitPath?_eq_none_iff.mp split)⟩
  | some names =>
      obtain ⟨entity, field⟩ := names
      obtain ⟨rfl, first, second⟩ := splitPath?_eq_some_iff.mp split
      cases head : (catalog.candidates entity field).head? with
      | some decl => exact .inl ⟨decl, entity, field, first, second, rfl, head⟩
      | none =>
          have none := List.head?_eq_none_iff.mp head
          by_cases declared : ∃ other ∈ catalog.entities, other.name = entity
          · exact .inr ⟨field, .field first second declared none⟩
          · refine .inr ⟨entity, .entity first second fun other member named => ?_⟩
            exact declared ⟨other, member, named⟩

theorem Blames.unique {error : CheckError} {other : String} (one : Blames error segment)
    (two : Blames error other) : segment = other :=
  Value.text.inj (Option.some.inj (one.named.symm.trans two.named))

/-- A path is resolved by the first declaration that it could mean. -/
theorem resolvesFirst (catalog : Catalog) (path : String) : catalog.ResolvesFirst path where
  found decl := by
    refine ⟨fun resolved => ?_, resolve_of_declares⟩
    obtain ⟨other, declares⟩ | ⟨segment, lacks⟩ := catalog.declares_or_lacks path
    · cases resolved.symm.trans (resolve_of_declares declares)
      exact declares
    · obtain ⟨error, refused, _⟩ := resolve_of_lacks lacks
      cases resolved.symm.trans refused
  refused segment := by
    refine ⟨?_, resolve_of_lacks⟩
    rintro ⟨error, refused, blames⟩
    obtain ⟨decl, declares⟩ | ⟨other, lacks⟩ := catalog.declares_or_lacks path
    · cases refused.symm.trans (resolve_of_declares declares)
    · obtain ⟨error', refused', blames'⟩ := resolve_of_lacks lacks
      cases refused.symm.trans refused'
      rwa [blames.unique blames']
  either := catalog.declares_or_lacks path

end Catalog

/-! ### A table of fields -/

/-- Adds an entry, unless there is one under the key. -/
def Fields.setDefault {κ α : Type} [DecidableEq κ] (key : κ) (value : α)
    (fields : List (κ × α)) : List (κ × α) :=
  if Fields.has key fields then fields else Fields.set key value fields

/-- A default is seen only where nothing stood before. -/
theorem Fields.get?_setDefault {κ α : Type} [DecidableEq κ] (key other : κ) (value : α)
    (fields : List (κ × α)) :
    Fields.get? other (Fields.setDefault key value fields) =
      (Fields.get? other fields).or (if key = other then some value else none) := by
  by_cases same : key = other
  · subst same
    cases there : Fields.get? key fields with
    | some found => simp [Fields.setDefault, Fields.has, there]
    | none => simp [Fields.setDefault, Fields.has, there, Fields.get?_set_self]
  · rw [if_neg same, Option.or_none, Fields.setDefault]
    split
    · rfl
    · exact Fields.get?_set_of_ne (Ne.symm same) ..

abbrev FieldTable := List (String × FieldDecl)

def FieldTable.enter (fields : FieldTable) (decl : FieldDecl) : FieldTable :=
  Fields.setDefault decl.name decl fields

/-- The tables of the fields of entities, under the names of the entities. -/
abbrev EntityTable := List (String × FieldTable)

namespace EntityTable

def fields (table : EntityTable) (entity : String) : FieldTable :=
  (Fields.get? entity table).getD []

def enter (table : EntityTable) (entity : Entity) : EntityTable :=
  Fields.set entity.name (entity.fields.foldl FieldTable.enter (table.fields entity.name)) table

def ofEntities (declared : List Entity) : EntityTable := declared.foldl enter []

/-- What the table has under the names of a path. -/
def lookup (table : EntityTable) (path : String) : Except CheckError FieldDecl :=
  match splitPath? path with
  | none => .error (.malformedPath path)
  | some (entity, field) =>
      match Fields.get? entity table with
      | none => .error (.unknownEntity path entity)
      | some fields =>
          match Fields.get? field fields with
          | none => .error (.unknownField path entity field)
          | some decl => .ok decl

/-- The table has what is declared: each entity, and under its name the first field of each
name. -/
structure Holds (table : EntityTable) (declared : List Entity) : Prop where
  entities : ∀ entity, Fields.has entity table = (⟨declared⟩ : Catalog).hasEntity entity
  fields : ∀ entity field, Fields.get? field (table.fields entity) =
    ((⟨declared⟩ : Catalog).fieldsOf entity).find? fun decl => decl.name == field

/-- A field entered into a table keeps its first declaration. -/
theorem get?_foldl_enter (field : String) (decls : List FieldDecl) (fields : FieldTable) :
    Fields.get? field (decls.foldl FieldTable.enter fields) =
      (Fields.get? field fields).or (decls.find? fun decl => decl.name == field) := by
  induction decls generalizing fields with
  | nil => simp
  | cons decl rest ih =>
      rw [List.foldl_cons, ih, FieldTable.enter, Fields.get?_setDefault, Option.or_assoc]
      by_cases named : decl.name = field
      · simp [named]
      · simp [named]

/-- Entering an entity keeps what the table has, and adds the rest. -/
theorem Holds.enter {table : EntityTable} {before : List Entity} (holds : table.Holds before)
    (entity : Entity) : (table.enter entity).Holds (before ++ [entity]) where
  entities name := by
    rw [Catalog.hasEntity, List.any_append]
    by_cases named : entity.name = name
    · subst named
      simp [EntityTable.enter, Fields.has, Fields.get?_set_self]
    · have kept : Fields.has name (table.enter entity) = Fields.has name table := by
        rw [Fields.has, EntityTable.enter, Fields.get?_set_of_ne (Ne.symm named), Fields.has]
      rw [kept, holds.entities name, Catalog.hasEntity]
      simp [named]
  fields name field := by
    rw [Catalog.fieldsOf, List.filter_append, List.flatMap_append, List.find?_append,
      ← Catalog.fieldsOf, ← holds.fields name field]
    by_cases named : entity.name = name
    · subst named
      rw [EntityTable.fields, EntityTable.enter, Fields.get?_set_self, Option.getD_some,
        get?_foldl_enter]
      simp
    · rw [EntityTable.fields, EntityTable.enter, Fields.get?_set_of_ne (Ne.symm named),
        ← EntityTable.fields]
      simp [named]

/-- Entering entities one by one keeps the table the image of what was declared so far. -/
theorem holds_foldl {table : EntityTable} {before : List Entity} (holds : table.Holds before)
    (declared : List Entity) :
    (declared.foldl EntityTable.enter table).Holds (before ++ declared) := by
  induction declared generalizing table before with
  | nil => rwa [List.append_nil]
  | cons entity rest ih =>
      have entered := ih (holds.enter entity)
      rwa [List.append_assoc, List.singleton_append] at entered

theorem holds_ofEntities (declared : List Entity) : (ofEntities declared).Holds declared := by
  have nothing : Holds [] [] := ⟨fun _ => rfl, fun _ _ => rfl⟩
  exact holds_foldl nothing declared

end EntityTable

/-- A path is resolved as by the table of all entities. -/
theorem Catalog.resolve_eq_lookup (declared : List Entity) (path : String) :
    (⟨declared⟩ : Catalog).resolve path = (EntityTable.ofEntities declared).lookup path := by
  have holds := EntityTable.holds_ofEntities declared
  cases split : splitPath? path with
  | none => simp only [resolve, EntityTable.lookup, split]
  | some names =>
      obtain ⟨entity, field⟩ := names
      have has := holds.entities entity
      have found := holds.fields entity field
      cases there : Fields.get? entity (EntityTable.ofEntities declared) with
      | none =>
          rw [Fields.has, there, Option.isSome_none] at has
          simp only [resolve, EntityTable.lookup, split, there, ← has]
          rfl
      | some fields =>
          rw [Fields.has, there, Option.isSome_some] at has
          rw [EntityTable.fields, there, Option.getD_some] at found
          simp only [resolve, EntityTable.lookup, split, there, ← has, ← found, if_true]
          cases Fields.get? field fields <;> rfl

end Rulebook
