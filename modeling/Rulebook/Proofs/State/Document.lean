import Rulebook.Proofs.State.Cells
import Rulebook.Proofs.State.Respelt
import Rulebook.Proofs.Value.Document

/-!
Stores as documents.

Stores that differ in spelling only are the same document, unless an object in a fact holds
a boolean: `Store.Unmixed` rules this out, and is kept by writes of such values.
-/

namespace Rulebook

/-! ### Facts without mixed objects -/

namespace Store

/-- No object in a fact holds a boolean. -/
def Unmixed (store : Store) : Prop :=
  ∀ entity, ∀ entry ∈ store.fieldsOf entity, entry.2.Unmixed

variable {store : Store}

namespace Unmixed

theorem readField (unmixed : store.Unmixed) {entity field : String} {v : Value}
    (found : store.readField entity field = some v) : v.Unmixed :=
  unmixed entity _ (Fields.get?_mem found)

theorem read (unmixed : store.Unmixed) {path : String} {v : Value}
    (found : store.read path = some v) : v.Unmixed := by
  unfold Store.read at found
  split at found
  · exact unmixed.readField found
  · cases found

/-- What an operand resolves to is unmixed, whether it is read or written in the program. -/
theorem resolve (unmixed : store.Unmixed) {operand : Operand} {v : Value}
    (resolved : operand.resolve store = some v) : v.Unmixed := by
  cases operand with
  | fact ref => exact unmixed.read resolved
  | literal value units =>
      cases resolved
      cases value <;> exact .scalar rfl

/-- Writing an unmixed value keeps the store unmixed. -/
theorem writeField (unmixed : store.Unmixed) (entity field : String) {v : Value}
    (value : v.Unmixed) : (store.writeField entity field v).Unmixed := by
  intro other entry member
  by_cases same : other = entity
  · rw [same, fieldsOf_writeField] at member
    rcases Fields.mem_set member with rfl | old
    · exact value
    · exact unmixed entity entry old
  · rw [fieldsOf_writeField_of_ne field v same] at member
    exact unmixed other entry member

end Unmixed

end Store

/-! ### Alike stores -/

namespace Fields.Related

variable {κ : Type} {r : κ → Value → Value → Prop} {fs gs : List (κ × Value)}

/-- Entries with one key are related. -/
theorem of_mem [DecidableEq κ] (related : Related r fs gs) (distinct : (gs.map Prod.fst).Nodup)
    {key : κ} {v w : Value} (inFs : (key, v) ∈ fs) (inGs : (key, w) ∈ gs) : r key v w := by
  have pair := related.get? key
  rw [get?_of_mem (related.map_fst_eq ▸ distinct) inFs, get?_of_mem distinct inGs] at pair
  cases pair with
  | some held => exact held

theorem texts {r : String → Value → Value → Prop} {fs gs : List (String × Value)}
    (related : Related r fs gs) :
    Related (fun key v w => ∃ name, key = Key.text name ∧ r name v w)
      (fs.map fun (name, v) => (Key.text name, v))
      (gs.map fun (name, v) => (Key.text name, v)) := by
  refine List.forall₂_map_left_iff.mpr (List.forall₂_map_right_iff.mpr (related.imp ?_))
  rintro ⟨name, v⟩ ⟨_, w⟩ ⟨rfl, held⟩
  exact ⟨rfl, name, rfl, held⟩

/-- Objects with the same keys are the same document if their values are. -/
theorem sameDocument {r : Key → Value → Value → Prop} {fs gs : List (Key × Value)}
    (related : Related r fs gs) (distinct : (gs.map Prod.fst).Nodup)
    (each : ∀ key v w, (key, v) ∈ fs → (key, w) ∈ gs → r key v w → v.SameDocument w) :
    Value.SameDocument (.object fs) (.object gs) :=
  .object (related.map_fst_eq ▸ .refl _) fun key v w inFs inGs =>
    each key v w inFs inGs (related.of_mem distinct inFs inGs)

end Fields.Related

namespace Store.AlikeBut

variable {loose : String → String → Prop} {s t : Store}

/-- Stores alike in unmixed values hold the same documents. -/
theorem sameFields (alike : AlikeBut loose s t) (keyedS : s.Keyed) (keyedT : t.Keyed)
    (unmixedS : s.Unmixed) (unmixedT : t.Unmixed) (entity : String) :
    Value.SameDocument (.object (s.fieldsOf entity)) (.object (t.fieldsOf entity)) := by
  refine (alike.fieldsOf entity).sameDocument (keyedT.fieldsOf entity).distinct ?_
  intro key v w inS inT cell
  rcases cell with rfl | ⟨_, equal⟩
  · exact .same v
  · exact Value.sameDocument_of_strictEq ((keyedS.fieldsOf entity).values _ inS)
      ((keyedT.fieldsOf entity).values _ inT) (unmixedS entity _ inS) (unmixedT entity _ inT) equal

/-- Alike stores without mixed objects are the same document. -/
theorem sameDocument (alike : AlikeBut loose s t) (keyedS : s.Keyed) (keyedT : t.Keyed)
    (unmixedS : s.Unmixed) (unmixedT : t.Unmixed) :
    Value.SameDocument (.record s.snapshot) (.record t.snapshot) := by
  refine (Fields.Related.texts alike).sameDocument (Fields.nodup_texts keyedT.distinct) ?_
  rintro _ v w inS inT ⟨name, rfl, entry⟩
  rcases entry with rfl | ⟨fs, gs, rfl, rfl, _⟩
  · exact .same v
  · have inS : (name, Value.object fs) ∈ s.entries := by simpa using inS
    have inT : (name, Value.object gs) ∈ t.entries := by simpa using inT
    have same := alike.sameFields keyedS keyedT unmixedS unmixedT name
    unfold Store.fieldsOf at same
    rwa [Fields.get?_of_mem keyedS.distinct inS, Fields.get?_of_mem keyedT.distinct inT] at same

end Store.AlikeBut

end Rulebook
