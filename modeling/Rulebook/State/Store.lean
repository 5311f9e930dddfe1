import Rulebook.Program.Path
import Rulebook.Program.Basic
import Rulebook.Value.Display

/-!
The fact store: entities, their fields, and the route slot.

A store maps names to values, and the fields of an entity are the entries of an object.
Reading tells a field that is absent from one that is null. A top-level value that is no
object has no fields; writing a field replaces it.
-/

namespace Rulebook

structure Store where
  entries : List (String × Value)
deriving DecidableEq

/-- Why facts cannot be taken from a payload or written. -/
inductive StoreError where
  | payloadNotMapping (payload : Value)
  | keyTooLong
  | malformedPath (path : String)
deriving DecidableEq

namespace Store

/-! ### Payloads -/

def entity : Value → Value
  | .object fields => .object (Fields.ofList (fields.map fun (k, v) => (.text k.name, v)))
  | v => v

/-- The store of a payload's entries. -/
def ofFields (fields : List (Key × Value)) : Store :=
  ⟨Fields.ofList (fields.map fun (k, v) => (k.name, entity v))⟩

/-- Values that stand for a payload without entries. -/
def isVoid : Value → Bool
  | .null | .bool false | .text "" | .list [] => true
  | .int n => n == 0
  | .float x => x.position == some (.ofInt 0)
  | _ => false

/-- The names of the entries, and of the fields of entities, can be written. -/
def namesHaveText (fields : List (Key × Value)) : Bool :=
  fields.all fun (k, v) =>
    k.hasText &&
      match v with
      | .object inner => inner.all fun (l, _) => l.hasText
      | _ => true

def ofPayload : Value → Except StoreError Store
  | .object fields => if namesHaveText fields then .ok (ofFields fields) else .error .keyTooLong
  | v => if isVoid v then .ok ⟨[]⟩ else .error (.payloadNotMapping v)

/-! ### Fields -/

def fieldsOf (store : Store) (name : String) : List (Key × Value) :=
  match Fields.get? name store.entries with
  | some (.object fields) => fields
  | _ => []

def readField (store : Store) (entity field : String) : Option Value :=
  Fields.get? (Key.text field) (store.fieldsOf entity)

def writeField (store : Store) (entity field : String) (value : Value) : Store :=
  ⟨Fields.set entity (.object (Fields.set (.text field) value (store.fieldsOf entity)))
    store.entries⟩

/-- The value at a path; a text that is no path has none. -/
def read (store : Store) (path : String) : Option Value :=
  match splitPath? path with
  | some (entity, field) => store.readField entity field
  | none => none

/-- Writes at a path, and also tells what was there before. -/
def write (store : Store) (path : String) (value : Value) :
    Except StoreError (Option Value × Store) :=
  match splitPath? path with
  | some (entity, field) =>
      .ok (store.readField entity field, store.writeField entity field value)
  | none => .error (.malformedPath path)

/-! ### The route -/

def readRoute (store : Store) : Option Value := Fields.get? routeSlot store.entries

def writeRoute (store : Store) (route : Value) : Store :=
  ⟨Fields.set routeSlot route store.entries⟩

/-! ### The whole state -/

def snapshot (store : Store) : Record := store.entries

end Store

end Rulebook
