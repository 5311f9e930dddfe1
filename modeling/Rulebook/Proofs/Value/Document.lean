import Rulebook.Proofs.Value.Equality

/-!
Equality of documents.

Documents are the same up to the order of keys and the spelling of numbers, and a boolean
is no number. Strict equality is coarser where it compares objects, which it does as
mappings that count booleans as the integers 0 and 1. Where no boolean stands against a
number the two coincide (`sameDocument_of_strictEq_apart`), and so where no object holds a
boolean (`sameDocument_of_strictEq`).
-/

namespace Rulebook

namespace Value

/-- Equal as documents. -/
inductive SameDocument : Value → Value → Prop where
  | same (v : Value) : SameDocument v v
  | number {v w : Value} {p : Position} :
      v.position? = some p → w.position? = some p → SameDocument v w
  | list {xs ys : List Value} :
      List.Forall₂ SameDocument xs ys → SameDocument (.list xs) (.list ys)
  | object {fs gs : List (Key × Value)} :
      (fs.map Prod.fst).Perm (gs.map Prod.fst) →
      (∀ key v w, (key, v) ∈ fs → (key, w) ∈ gs → SameDocument v w) →
      SameDocument (.object fs) (.object gs)

/-- No boolean at any depth. -/
inductive BoolFree : Value → Prop where
  | scalar {v : Value} (plain : v.isScalar = true) (other : ∀ b, v ≠ .bool b) : BoolFree v
  | list {items : List Value} (each : ∀ v ∈ items, BoolFree v) : BoolFree (.list items)
  | object {fields : List (Key × Value)} (each : ∀ entry ∈ fields, BoolFree entry.2) :
      BoolFree (.object fields)

/-- No object in the value holds a boolean. -/
inductive Unmixed : Value → Prop where
  | scalar {v : Value} (plain : v.isScalar = true) : Unmixed v
  | list {items : List Value} (each : ∀ v ∈ items, Unmixed v) : Unmixed (.list items)
  | object {fields : List (Key × Value)} (free : BoolFree (.object fields)) :
      Unmixed (.object fields)

theorem BoolFree.items {items : List Value} (free : BoolFree (.list items)) :
    ∀ v ∈ items, BoolFree v := by
  cases free with
  | scalar plain => cases plain
  | list each => exact each

theorem BoolFree.values {fields : List (Key × Value)} (free : BoolFree (.object fields)) :
    ∀ entry ∈ fields, BoolFree entry.2 := by
  cases free with
  | scalar plain => cases plain
  | object each => exact each

theorem Unmixed.items {items : List Value} (unmixed : Unmixed (.list items)) :
    ∀ v ∈ items, Unmixed v := by
  cases unmixed with
  | scalar plain => cases plain
  | list each => exact each

theorem Unmixed.boolFree {fields : List (Key × Value)} (unmixed : Unmixed (.object fields)) :
    BoolFree (.object fields) := by
  cases unmixed with
  | scalar plain => cases plain
  | object free => exact free

/-! ### Booleans against numbers -/

/-- At some place that both values have, one has a boolean and the other a number. -/
inductive BoolMeetsNumber : Value → Value → Prop where
  | left {b : Bool} {v : Value} (number : v.isNumber = true) : BoolMeetsNumber (.bool b) v
  | right {v : Value} {b : Bool} (number : v.isNumber = true) : BoolMeetsNumber v (.bool b)
  | item {xs ys : List Value} {v w : Value} :
      (v, w) ∈ xs.zip ys → BoolMeetsNumber v w → BoolMeetsNumber (.list xs) (.list ys)
  | entry {fs gs : List (Key × Value)} {key : Key} {v w : Value} :
      (key, v) ∈ fs → (key, w) ∈ gs → BoolMeetsNumber v w →
      BoolMeetsNumber (.object fs) (.object gs)

/-- What stands on the number line when booleans count is a number or a boolean. -/
theorem number_or_bool_of_looseOf? {v : Value} {p : Position} (placed : v.looseOf? = some p) :
    (v.isNumber = true ∧ v.position? = some p) ∨ ∃ b, v = .bool b ∧ p = .ofInt b.toInt := by
  cases v with
  | bool b => exact .inr ⟨b, rfl, (Option.some.inj placed).symm⟩
  | int n => exact .inl ⟨rfl, placed⟩
  | float x => exact .inl ⟨rfl, placed⟩
  | _ => cases placed

/-- Numbers at one position are the same, unless one of them is a boolean. -/
theorem sameDocument_of_looseOf? {a b : Value} {p : Position} (atA : a.looseOf? = some p)
    (atB : b.looseOf? = some p) (apart : ¬ BoolMeetsNumber a b) : SameDocument a b := by
  rcases number_or_bool_of_looseOf? atA with ⟨numberA, placeA⟩ | ⟨x, rfl, atX⟩
  · rcases number_or_bool_of_looseOf? atB with ⟨_, placeB⟩ | ⟨y, rfl, _⟩
    · exact .number placeA placeB
    · exact absurd (.right numberA) apart
  · rcases number_or_bool_of_looseOf? atB with ⟨numberB, _⟩ | ⟨y, rfl, atY⟩
    · exact absurd (.left numberB) apart
    · rw [bool_toInt_inj.mp (Position.ofInt_inj.mp (atX.symm.trans atY))]
      exact .same _

/-- Where no boolean stands against a number, agreement inside objects is equality of
documents. -/
theorem sameDocument_of_agrees {a b : Value} (keyedA : Keyed a) (keyedB : Keyed b)
    (agree : agrees a b = true) (apart : ¬ BoolMeetsNumber a b) : SameDocument a b := by
  induction keyedA generalizing b with
  | scalar plain =>
      rcases (agrees_scalar_iff plain).mp agree with rfl | ⟨p, atA, atB⟩
      · exact .same _
      · exact sameDocument_of_looseOf? atA atB apart
  | list _ ih =>
      cases b with
      | list others =>
          obtain ⟨lengths, each⟩ := List.forall₂_iff_zip.mp (agreesItems_iff.mp agree)
          refine .list (List.forall₂_iff_zip.mpr ⟨lengths, fun {x y} pair => ?_⟩)
          obtain ⟨inX, inY⟩ := List.of_mem_zip pair
          exact ih x inX (keyedB.items y inY) (each pair) fun meets => apart (.item pair meets)
      | _ => cases agree
  | object distinct texts each ih =>
      cases b with
      | object others =>
          have keyedA : Keyed (.object _) := .object distinct texts each
          refine .object (agrees_object_keys keyedA keyedB agree) fun key v w inA inB => ?_
          obtain ⟨x, found, same⟩ := ((agrees_object_iff keyedA keyedB).mp agree).2 _ inA
          -- Under distinct keys a key has one value, so the one that agrees is this one.
          have only : x = w := Option.some.inj
            ((Fields.get?_of_mem keyedB.distinct found).symm.trans
              (Fields.get?_of_mem keyedB.distinct inB))
          subst only
          exact ih _ inA (keyedB.values _ found) same fun meets => apart (.entry inA found meets)
      | _ => cases agree

/-- Where no boolean stands against a number, strict equality is equality of documents. -/
theorem sameDocument_of_strictEq_apart {a b : Value} (keyedA : Keyed a) (keyedB : Keyed b)
    (equal : strictEq a b = true) (apart : ¬ BoolMeetsNumber a b) : SameDocument a b := by
  induction keyedA generalizing b with
  | scalar plain =>
      rcases (strictEq_scalar_iff plain).mp equal with ⟨rfl, _⟩ | ⟨p, atA, atB⟩
      · exact .same _
      · exact .number atA atB
  | list _ ih =>
      cases b with
      | list others =>
          obtain ⟨lengths, each⟩ := List.forall₂_iff_zip.mp (strictEqItems_iff.mp equal)
          refine .list (List.forall₂_iff_zip.mpr ⟨lengths, fun {x y} pair => ?_⟩)
          obtain ⟨inX, inY⟩ := List.of_mem_zip pair
          exact ih x inX (keyedB.items y inY) (each pair) fun meets => apart (.item pair meets)
      | _ => cases equal
  | object distinct texts each _ =>
      cases b with
      | object others =>
          exact sameDocument_of_agrees (.object distinct texts each) keyedB equal apart
      | _ => cases equal

/-- Without booleans none of them meets a number. -/
theorem BoolFree.apart {a b : Value} (freeA : BoolFree a) (freeB : BoolFree b) :
    ¬ BoolMeetsNumber a b := by
  intro meets
  induction meets with
  | @left x v _ =>
      cases freeA with
      | scalar _ other => exact other x rfl
  | @right v x _ =>
      cases freeB with
      | scalar _ other => exact other x rfl
  | item pair _ ih =>
      obtain ⟨inX, inY⟩ := List.of_mem_zip pair
      exact ih (freeA.items _ inX) (freeB.items _ inY)
  | entry inA inB _ ih => exact ih (freeA.values _ inA) (freeB.values _ inB)

/-- Outside of objects strict equality lets no boolean stand against a number. -/
theorem Unmixed.apart {a b : Value} (unmixedA : Unmixed a) (unmixedB : Unmixed b)
    (equal : strictEq a b = true) : ¬ BoolMeetsNumber a b := by
  intro meets
  induction meets with
  | @left x v number => cases v <;> cases number <;> cases equal
  | @right v x number =>
      rcases (strictEq_scalar_iff (isScalar_of_isNumber number)).mp equal with
        ⟨rfl, _⟩ | ⟨p, _, atBool⟩
      · cases number
      · cases atBool
  | item pair _ ih =>
      obtain ⟨inX, inY⟩ := List.of_mem_zip pair
      exact ih (unmixedA.items _ inX) (unmixedB.items _ inY)
        ((List.forall₂_iff_zip.mp (strictEqItems_iff.mp equal)).2 pair)
  | entry inA inB meets _ =>
      exact (unmixedA.boolFree.values _ inA).apart (unmixedB.boolFree.values _ inB) meets

/-- Strictly equal values in which no object holds a boolean are the same document. -/
theorem sameDocument_of_strictEq {a b : Value} (keyedA : Keyed a) (keyedB : Keyed b)
    (unmixedA : Unmixed a) (unmixedB : Unmixed b) (equal : strictEq a b = true) :
    SameDocument a b :=
  sameDocument_of_strictEq_apart keyedA keyedB equal (unmixedA.apart unmixedB equal)

/-! ### Inversion -/

/-- Scalars are the same document when they are the same, or stand at the same place. -/
theorem SameDocument.scalar {v w : Value} (same : SameDocument v w) (plain : v.isScalar = true) :
    v = w ∨ ∃ p, v.position? = some p ∧ w.position? = some p := by
  cases same with
  | same => exact .inl rfl
  | number atV atW => exact .inr ⟨_, atV, atW⟩
  | list => cases plain
  | object => cases plain

/-- Objects that are the same have the same at each key. -/
theorem SameDocument.get? {fs gs : List (Key × Value)} {key : Key} {v w : Value}
    (same : SameDocument (.object fs) (.object gs)) (inFs : Fields.get? key fs = some v)
    (inGs : Fields.get? key gs = some w) : SameDocument v w := by
  cases same with
  | same =>
      cases inFs.symm.trans inGs
      exact .same v
  | number placed => cases placed
  | object _ each => exact each _ _ _ (Fields.get?_mem inFs) (Fields.get?_mem inGs)

end Value

end Rulebook
