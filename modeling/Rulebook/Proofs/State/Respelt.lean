import Rulebook.Proofs.State.Keyed

/-!
Stores that differ in spelling.

An integer and the floating point number at its place are strictly equal and still two
values. `AlikeBut loose` relates stores with the same entities and fields in which only
loose fields may hold values that are not the same, and these are strictly equal. It is
kept by equal writes, and reading tells such stores apart at loose fields only.
-/

namespace Rulebook

/-! ### Related entries -/

namespace Fields

variable {κ α β : Type}

/-- The same keys in the same order, with related values. -/
def Related (r : κ → α → β → Prop) (fs : List (κ × α)) (gs : List (κ × β)) : Prop :=
  List.Forall₂ (fun a b => a.1 = b.1 ∧ r a.1 a.2 b.2) fs gs

namespace Related

theorem refl {r : κ → α → α → Prop} (self : ∀ key v, r key v v) (fs : List (κ × α)) :
    Related r fs fs :=
  List.forall₂_same.mpr fun entry _ => ⟨rfl, self entry.1 entry.2⟩

theorem trans_of_mem {r : κ → α → α → Prop} {fs gs hs : List (κ × α)}
    (chain : ∀ x ∈ fs, ∀ y ∈ gs, ∀ z ∈ hs, ∀ key, r key x.2 y.2 → r key y.2 z.2 → r key x.2 z.2)
    (first : Related r fs gs) (second : Related r gs hs) : Related r fs hs :=
  Value.forall₂_trans_of_mem (fun x inX y inY z inZ one two =>
    ⟨one.1.trans two.1, chain x inX y inY z inZ x.1 one.2 (one.1 ▸ two.2)⟩) first second

theorem map_fst_eq {r : κ → α → β → Prop} {fs : List (κ × α)} {gs : List (κ × β)}
    (related : Related r fs gs) : fs.map Prod.fst = gs.map Prod.fst := by
  induction related with
  | nil => rfl
  | cons first _ ih => rw [List.map_cons, List.map_cons, first.1, ih]

variable [DecidableEq κ] {r : κ → α → β → Prop} {fs : List (κ × α)} {gs : List (κ × β)}

/-- A lookup finds related values. -/
theorem get? (related : Related r fs gs) (key : κ) :
    Option.Rel (r key) (Fields.get? key fs) (Fields.get? key gs) := by
  induction related with
  | nil => exact .none
  | @cons a b _ _ first _ ih =>
      obtain ⟨k, v⟩ := a
      obtain ⟨l, w⟩ := b
      obtain ⟨rfl, held⟩ : k = l ∧ r k v w := first
      by_cases same : k = key
      · subst same
        simpa [Fields.get?] using Option.Rel.some held
      · simpa [Fields.get?, same] using ih

/-- Setting a field to related values keeps the fields related. -/
theorem set (related : Related r fs gs) {key : κ} {v : α} {w : β} (held : r key v w) :
    Related r (Fields.set key v fs) (Fields.set key w gs) := by
  induction related with
  | nil => exact .cons ⟨rfl, held⟩ .nil
  | @cons a b _ _ first rest ih =>
      obtain ⟨k, x⟩ := a
      obtain ⟨l, y⟩ := b
      obtain ⟨rfl, here⟩ : k = l ∧ r k x y := first
      by_cases same : k = key
      · subst same
        simp only [Fields.set, if_pos]
        exact .cons ⟨rfl, held⟩ rest
      · simp only [Fields.set, if_neg same]
        exact .cons ⟨rfl, here⟩ ih

end Related

end Fields

/-! ### Alike stores -/

/-- The same value, or a strictly equal one at a loose field. -/
def CellAlike (loose : String → String → Prop) (entity : String) (key : Key) (v w : Value) :
    Prop :=
  v = w ∨ (∃ field, key = .text field ∧ loose entity field) ∧ v.strictEq w = true

/-- The same value, or objects whose fields are alike. -/
def EntryAlike (loose : String → String → Prop) (entity : String) (v w : Value) : Prop :=
  v = w ∨ ∃ fs gs, v = .object fs ∧ w = .object gs ∧
    Fields.Related (CellAlike loose entity) fs gs

namespace Store

/-- The same entries in the same order, but for the spelling of loose fields. -/
def AlikeBut (loose : String → String → Prop) (s t : Store) : Prop :=
  Fields.Related (EntryAlike loose) s.entries t.entries

/-- The path names a loose field. -/
def LoosePath (loose : String → String → Prop) (path : String) : Prop :=
  ∃ entity field, splitPath? path = some (entity, field) ∧ loose entity field

end Store

section Alike

variable {loose : String → String → Prop}

theorem CellAlike.refl (entity : String) (key : Key) (v : Value) : CellAlike loose entity key v v :=
  .inl rfl

theorem CellAlike.alike {entity : String} {key : Key} {v w : Value}
    (cell : CellAlike loose entity key v w) : v.Alike w :=
  cell.imp id And.right

/-- Cells that are alike in turn are alike, -/
theorem CellAlike.trans {entity : String} {key : Key} {u v w : Value} (keyedU : u.Keyed)
    (keyedV : v.Keyed) (keyedW : w.Keyed) (first : CellAlike loose entity key u v)
    (second : CellAlike loose entity key v w) : CellAlike loose entity key u w := by
  rcases first with rfl | ⟨free, one⟩
  · exact second
  · rcases second with rfl | ⟨_, two⟩
    · exact .inr ⟨free, one⟩
    · exact .inr ⟨free, Value.strictEq_trans keyedU keyedV keyedW one two⟩

theorem EntryAlike.refl (entity : String) (v : Value) : EntryAlike loose entity v v := .inl rfl

/-- and so are entries. -/
theorem EntryAlike.trans {entity : String} {u v w : Value} (keyedU : u.Keyed) (keyedV : v.Keyed)
    (keyedW : w.Keyed) (first : EntryAlike loose entity u v)
    (second : EntryAlike loose entity v w) :
    EntryAlike loose entity u w := by
  rcases first with rfl | ⟨fs, gs, rfl, rfl, one⟩
  · exact second
  · rcases second with rfl | ⟨gs', hs, same, rfl, two⟩
    · exact .inr ⟨fs, gs, rfl, rfl, one⟩
    · cases same
      refine .inr ⟨fs, hs, rfl, rfl, one.trans_of_mem ?_ two⟩
      intro x inX y inY z inZ key
      exact CellAlike.trans (keyedU.values x inX) (keyedV.values y inY) (keyedW.values z inZ)

namespace Store.AlikeBut

variable {s t u : Store}

theorem refl (s : Store) : AlikeBut loose s s := Fields.Related.refl EntryAlike.refl _

theorem trans (keyedS : s.Keyed) (keyedT : t.Keyed) (keyedU : u.Keyed)
    (first : AlikeBut loose s t) (second : AlikeBut loose t u) : AlikeBut loose s u :=
  Fields.Related.trans_of_mem (fun x inX y inY z inZ _ =>
    EntryAlike.trans (keyedS.values x inX) (keyedT.values y inY) (keyedU.values z inZ)) first second

/-- Fields of alike stores are alike. -/
theorem fieldsOf (alike : AlikeBut loose s t) (entity : String) :
    Fields.Related (CellAlike loose entity) (s.fieldsOf entity) (t.fieldsOf entity) := by
  have found := alike.get? entity
  unfold Store.fieldsOf
  cases inS : Fields.get? entity s.entries with
  | none =>
      cases inT : Fields.get? entity t.entries with
      | none => exact .refl (CellAlike.refl entity) _
      | some w => rw [inS, inT] at found; cases found
  | some v =>
      cases inT : Fields.get? entity t.entries with
      | none => rw [inS, inT] at found; cases found
      | some w =>
          rw [inS, inT] at found
          cases found with
          | some entry =>
              rcases entry with rfl | ⟨fs, gs, rfl, rfl, related⟩
              · exact .refl (CellAlike.refl entity) _
              · exact related

theorem readField (alike : AlikeBut loose s t) (entity field : String) :
    Option.Rel (CellAlike loose entity (.text field)) (s.readField entity field)
      (t.readField entity field) :=
  (alike.fieldsOf entity).get? _

/-- A path reads the same in both, or strictly equal values where it is loose. -/
theorem read (alike : AlikeBut loose s t) (path : String) :
    Option.Rel (fun v w => v = w ∨ LoosePath loose path ∧ v.strictEq w = true) (s.read path)
      (t.read path) := by
  unfold Store.read
  cases split : splitPath? path with
  | none => exact .none
  | some pair =>
      obtain ⟨entity, field⟩ := pair
      have found := alike.readField entity field
      revert found
      simp only
      generalize s.readField entity field = x
      generalize t.readField entity field = y
      rintro (⟨same | ⟨⟨_, name, free⟩, equal⟩⟩ | _)
      · exact .some (.inl same)
      · cases name
        exact .some (.inr ⟨⟨entity, field, split, free⟩, equal⟩)
      · exact .none

theorem writeField (alike : AlikeBut loose s t) {entity field : String} {v w : Value}
    (cell : CellAlike loose entity (.text field) v w) :
    AlikeBut loose (s.writeField entity field v) (t.writeField entity field w) :=
  Fields.Related.set alike (.inr ⟨_, _, rfl, rfl, (alike.fieldsOf entity).set cell⟩)

theorem readRoute (alike : AlikeBut loose s t) :
    Option.Rel (EntryAlike loose routeSlot) s.readRoute t.readRoute :=
  alike.get? routeSlot

end Store.AlikeBut

/-- Writing over a field what is alike to its value gives an alike store. -/
theorem Store.alikeBut_writeField {s : Store} {entity field : String} {v w : Value}
    (found : s.readField entity field = some v) (cell : CellAlike loose entity (.text field) v w) :
    AlikeBut loose s (s.writeField entity field w) := by
  have present : ∃ fields, Fields.get? entity s.entries = some (.object fields) ∧
      s.fieldsOf entity = fields := by
    unfold Store.readField Store.fieldsOf at found
    unfold Store.fieldsOf
    split at found
    · rename_i fields here
      exact ⟨fields, here, rfl⟩
    · cases found
  obtain ⟨fields, here, same⟩ := present
  have unchanged : s.writeField entity field v = s := by
    rw [Store.writeField, Fields.set_get?_self found, same, Fields.set_get?_self here]
  have written := (AlikeBut.refl s).writeField cell
  rwa [unchanged] at written

end Alike

end Rulebook
