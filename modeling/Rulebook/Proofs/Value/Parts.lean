import Rulebook.Proofs.Value.Equality

/-!
Parts of values.

A list or an object is taken apart one level at a time: `Part` relates a value to what is
directly inside of it. What holds of a value as soon as it holds of its parts holds of every value
(`part_induction`). `Throughout` says of all scalars in a value that they have a property.
-/

namespace Rulebook

namespace Value

/-- The first value is an item of the second one, or the value of one of its entries. -/
inductive Part : Value → Value → Prop where
  | item {items : List Value} {v : Value} (member : v ∈ items) : Part v (.list items)
  | entry {fields : List (Key × Value)} {key : Key} {v : Value} (member : (key, v) ∈ fields) :
      Part v (.object fields)

/-- Parts are smaller, so recursion on them ends. -/
theorem Part.sizeOf_lt {v w : Value} (part : v.Part w) : sizeOf v < sizeOf w := by
  cases part with
  | item member =>
      have := List.sizeOf_lt_of_mem member
      simp only [list.sizeOf_spec]
      omega
  | entry member =>
      have := List.sizeOf_lt_of_mem member
      simp only [Prod.mk.sizeOf_spec] at this
      simp only [object.sizeOf_spec]
      omega

/-- Induction along the parts of a value. -/
theorem part_induction {holds : Value → Prop}
    (step : ∀ v, (∀ w : Value, w.Part v → holds w) → holds v) (v : Value) : holds v :=
  step v fun w part =>
    have : sizeOf w < sizeOf v := part.sizeOf_lt
    part_induction step w
termination_by sizeOf v

theorem Part.of_get? {fields : List (Key × Value)} {key : Key} {v : Value}
    (found : Fields.get? key fields = some v) : v.Part (.object fields) :=
  .entry (Fields.get?_mem found)

theorem Keyed.part {v w : Value} (keyed : w.Keyed) (part : v.Part w) : v.Keyed := by
  cases part with
  | item member => exact keyed.items _ member
  | entry member => exact keyed.values _ member

theorem WellKeyed.part {v w : Value} (wellKeyed : w.WellKeyed) (part : v.Part w) :
    v.WellKeyed := by
  cases part with
  | item member => exact wellKeyed.items _ member
  | entry member => exact wellKeyed.values _ member

/-! ### Properties of all scalars -/

/-- Every scalar in the value has a property, at every depth. -/
inductive Throughout (holds : Value → Prop) : Value → Prop where
  | scalar {v : Value} (plain : v.isScalar = true) (held : holds v) : Throughout holds v
  | list {items : List Value} (each : ∀ v ∈ items, Throughout holds v) :
      Throughout holds (.list items)
  | object {fields : List (Key × Value)} (each : ∀ entry ∈ fields, Throughout holds entry.2) :
      Throughout holds (.object fields)

/-- What holds throughout a value holds throughout its parts. -/
theorem Throughout.part {holds : Value → Prop} {v w : Value} (throughout : Throughout holds w)
    (part : v.Part w) : Throughout holds v := by
  cases part with
  | item member =>
      cases throughout with
      | scalar plain => cases plain
      | list each => exact each _ member
  | entry member =>
      cases throughout with
      | scalar plain => cases plain
      | object each => exact each _ member

/-- It holds of the value itself where that is a scalar. -/
theorem Throughout.held {holds : Value → Prop} {v : Value} (throughout : Throughout holds v)
    (plain : v.isScalar = true) : holds v := by
  cases throughout with
  | scalar _ held => exact held
  | list => cases plain
  | object => cases plain

/-! What holds of a written value is read off what it is written from. -/

section Written

variable {holds : Value → Prop} {items : List Value} {entries : List (String × Value)}

@[simp] theorem throughout_list_iff :
    Throughout holds (.list items) ↔ ∀ v ∈ items, Throughout holds v :=
  ⟨fun throughout _ member => throughout.part (.item member), fun each => .list each⟩

@[simp] theorem throughout_record_iff :
    Throughout holds (.record entries) ↔ ∀ entry ∈ entries, Throughout holds entry.2 := by
  constructor
  · intro throughout entry member
    exact throughout.part (.entry (List.mem_map.mpr ⟨entry, member, rfl⟩))
  · intro each
    exact .object (List.forall_mem_map.mpr each)

@[simp] theorem keyed_list_iff : Keyed (.list items) ↔ ∀ v ∈ items, Keyed v :=
  ⟨Keyed.items, fun each => .list each⟩

@[simp] theorem keyed_record_iff :
    Keyed (.record entries) ↔
      (entries.map Prod.fst).Nodup ∧ ∀ entry ∈ entries, Keyed entry.2 := by
  have distinct : ((entries.map Prod.fst).map Key.text).Nodup ↔ (entries.map Prod.fst).Nodup :=
    List.nodup_map_iff fun _ _ same => Key.text.inj same
  rw [← Fields.map_fst_texts] at distinct
  constructor
  · intro keyed
    refine ⟨distinct.mp keyed.distinct, fun entry member => ?_⟩
    exact keyed.values (.text entry.1, entry.2) (List.mem_map.mpr ⟨entry, member, rfl⟩)
  · rintro ⟨once, each⟩
    refine .object (distinct.mpr once) ?_ (List.forall_mem_map.mpr each)
    exact List.forall_mem_map.mpr fun entry _ => ⟨entry.1, rfl⟩

end Written

def Finite (v : Value) : Prop := v.Throughout fun w => ∀ x, w = .float x → x.isFinite = true

/-- What a document can hold: text keys, each of them once, and numbers that are finite. -/
structure Portable (v : Value) : Prop where
  keyed : v.Keyed
  finite : v.Finite

theorem Portable.part {v w : Value} (portable : w.Portable) (part : v.Part w) : v.Portable :=
  ⟨portable.keyed.part part, Throughout.part portable.finite part⟩

/-- No floating point number in the value is a `nan`. -/
def Numeric (v : Value) : Prop := v.Throughout fun w => ∀ x, w = .float x → x.isNaN = false

/-- A number that is no `nan` has a place on the number line. -/
theorem Numeric.placed {v : Value} (numeric : v.Numeric) (number : v.isNumber = true) :
    ∃ p, v.position? = some p := by
  cases v with
  | int n => exact ⟨_, rfl⟩
  | float x =>
      cases x with
      | nan payload => cases numeric.held rfl _ rfl
      | infinite negative => cases negative <;> exact ⟨_, rfl⟩
      | finite => exact ⟨_, rfl⟩
  | _ => cases number

/-- Without a `nan` a value is strictly equal to itself. -/
theorem strictEq_refl {v : Value} (wellKeyed : v.WellKeyed) (numeric : v.Numeric) :
    strictEq v v = true := by
  induction wellKeyed with
  | @scalar v plain =>
      refine (strictEq_scalar_iff plain).mpr ?_
      cases number : v.isNumber with
      | true =>
          obtain ⟨p, placed⟩ := numeric.placed number
          exact .inr ⟨p, placed, placed⟩
      | false => exact .inl ⟨rfl, rfl⟩
  | list _ ih =>
      refine strictEqItems_iff.mpr (List.forall₂_same.mpr fun x member => ?_)
      exact ih x member (Throughout.part numeric (.item member))
  | object apart each _ => exact agrees_refl (.object apart each)

/-- A tree that its text can determine: text keys, each of them once, and no `nan`. -/
structure Determinate (v : Value) : Prop where
  keyed : v.Keyed
  numeric : v.Numeric

theorem Determinate.part {v w : Value} (determinate : w.Determinate) (part : v.Part w) :
    v.Determinate :=
  ⟨determinate.keyed.part part, Throughout.part determinate.numeric part⟩

theorem Determinate.scalar {v : Value} (plain : v.isScalar = true)
    (number : ∀ x, v = .float x → x.isNaN = false) : v.Determinate :=
  ⟨.scalar plain, .scalar plain number⟩

@[simp] theorem determinate_bool (b : Bool) : (Value.bool b).Determinate := .scalar rfl (by simp)

@[simp] theorem determinate_int (n : Int) : (Value.int n).Determinate := .scalar rfl (by simp)

@[simp] theorem determinate_text (s : String) : (Value.text s).Determinate := .scalar rfl (by simp)

@[simp] theorem determinate_list_iff {items : List Value} :
    Determinate (.list items) ↔ ∀ v ∈ items, Determinate v := by
  constructor
  · exact fun determinate _ member => determinate.part (.item member)
  · intro each
    exact ⟨.list fun v member => (each v member).keyed,
      .list fun v member => (each v member).numeric⟩

@[simp] theorem determinate_record_iff {entries : List (String × Value)} :
    Determinate (.record entries) ↔
      (entries.map Prod.fst).Nodup ∧ ∀ entry ∈ entries, Determinate entry.2 := by
  constructor
  · intro determinate
    obtain ⟨once, keyed⟩ := keyed_record_iff.mp determinate.keyed
    have numeric := throughout_record_iff.mp determinate.numeric
    exact ⟨once, fun entry member => ⟨keyed entry member, numeric entry member⟩⟩
  · rintro ⟨once, each⟩
    exact ⟨keyed_record_iff.mpr ⟨once, fun entry member => (each entry member).keyed⟩,
      throughout_record_iff.mpr fun entry member => (each entry member).numeric⟩

theorem Determinate.number {x : Binary64} (determinate : (Value.float x).Determinate) :
    x.isNaN = false :=
  determinate.numeric.held rfl x rfl

end Value

end Rulebook
