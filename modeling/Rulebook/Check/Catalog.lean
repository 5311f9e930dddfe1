import Rulebook.Check.Error
import Rulebook.Program.Path

/-!
The catalog of declared fields.

Entities of one name share their fields, and of two fields with one name the first
declaration counts. Resolving a path names the part of it that has no declaration.
-/

namespace Rulebook

structure Catalog where
  entities : List Entity

namespace Catalog

def ofProgram (program : Program) : Catalog := ⟨program.entities⟩

def hasEntity (catalog : Catalog) (name : String) : Bool :=
  catalog.entities.any fun entity => entity.name == name

/-- All fields of the entities with this name, in order of declaration. -/
def fieldsOf (catalog : Catalog) (name : String) : List FieldDecl :=
  (catalog.entities.filter fun entity => entity.name == name).flatMap Entity.fields

def resolve (catalog : Catalog) (path : String) : Except CheckError FieldDecl :=
  match splitPath? path with
  | none => .error (.malformedPath path)
  | some (entity, field) =>
      if catalog.hasEntity entity then
        match (catalog.fieldsOf entity).find? fun decl => decl.name == field with
        | some decl => .ok decl
        | none => .error (.unknownField path entity field)
      else .error (.unknownEntity path entity)

end Catalog

end Rulebook
