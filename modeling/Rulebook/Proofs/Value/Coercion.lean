import Rulebook.Proofs.Value.Document
import Rulebook.Proofs.Value.Parts

/-!
Where strict equality coerces.

Strict equality tells booleans from numbers in scalars and in lists, at every depth, but hands
objects over to a comparison that counts booleans as the integers 0 and 1. The same document is
always strictly equal (`strictEq_of_sameDocument`), and what is strictly equal without being the
same document has a boolean where the other value has a number (`sameDocument_iff`).
-/

namespace Rulebook

namespace Value

/-! ### The parts of the same document -/

/-- The same document as a list is a list, item by item. -/
theorem SameDocument.items {xs : List Value} {b : Value} (same : SameDocument (.list xs) b) :
    ∃ ys, b = .list ys ∧ List.Forall₂ SameDocument xs ys := by
  cases same with
  | same => exact ⟨xs, rfl, List.forall₂_same.mpr fun x _ => .same x⟩
  | number placed => cases placed
  | list each => exact ⟨_, rfl, each⟩

/-- Objects that are the same have the same keys, and the same at each key. -/
theorem SameDocument.fields {fs : List (Key × Value)} {b : Value}
    (same : SameDocument (.object fs) b) (distinct : (fs.map Prod.fst).Nodup) :
    ∃ gs, b = .object gs ∧ (fs.map Prod.fst).Perm (gs.map Prod.fst) ∧
      ∀ key v w, (key, v) ∈ fs → (key, w) ∈ gs → SameDocument v w := by
  cases same with
  | same =>
      refine ⟨fs, rfl, .refl _, fun key v w inV inW => ?_⟩
      cases (Fields.get?_of_mem distinct inV).symm.trans (Fields.get?_of_mem distinct inW)
      exact .same v
  | number placed => cases placed
  | object keys each => exact ⟨_, rfl, keys, each⟩

/-! ### The same document is strictly equal -/

/-- Documents that are the same agree. -/
theorem agrees_of_sameDocument {a b : Value} (keyedA : Keyed a) (keyedB : Keyed b)
    (same : SameDocument a b) : agrees a b = true := by
  induction keyedA generalizing b with
  | @scalar v plain =>
      rcases same.scalar plain with rfl | ⟨p, atA, atB⟩
      · exact agrees_refl keyedB.wellKeyed
      · exact (agrees_scalar_iff plain).mpr
          (.inr ⟨p, looseOf?_of_position? atA, looseOf?_of_position? atB⟩)
  | list _ ih =>
      obtain ⟨others, rfl, each⟩ := same.items
      exact agreesItems_iff.mpr
        (forall₂_imp_of_mem (fun x inX y inY => ih x inX (keyedB.items y inY)) each)
  | object distinct texts each ih =>
      obtain ⟨others, rfl, keys, values⟩ := same.fields distinct
      refine (agrees_object_iff (.object distinct texts each) keyedB).mpr ⟨?_, ?_⟩
      · simpa using keys.length_eq
      · intro entry member
        obtain ⟨w, inside⟩ := Fields.exists_counterpart keys.subset member
        exact ⟨w, inside, ih entry member (keyedB.values _ inside) (values _ _ _ member inside)⟩

/-- Determinate ones are equal. -/
theorem strictEq_of_sameDocument {a b : Value} (left : Determinate a) (right : Determinate b)
    (same : SameDocument a b) : strictEq a b = true := by
  have keyedA := left.keyed
  induction keyedA generalizing b with
  | @scalar v plain =>
      rcases same.scalar plain with rfl | placed
      · exact strictEq_refl left.keyed.wellKeyed left.numeric
      · exact (strictEq_scalar_iff plain).mpr (.inr placed)
  | list _ ih =>
      obtain ⟨others, rfl, each⟩ := same.items
      refine strictEqItems_iff.mpr (forall₂_imp_of_mem (fun x inX y inY => ?_) each)
      exact ih x inX (left.part (.item inX)) (right.part (.item inY))
  | object distinct texts each _ =>
      obtain ⟨others, rfl, _⟩ := same.fields distinct
      exact agrees_of_sameDocument left.keyed right.keyed same

/-! ### A boolean against a number -/

/-- The same document has no boolean where the other has a number. -/
theorem SameDocument.apart {a b : Value} (same : SameDocument a b) (keyed : Keyed a) :
    ¬ BoolMeetsNumber a b := by
  intro meets
  induction meets with
  | left number =>
      rcases same.scalar rfl with rfl | ⟨p, placed, _⟩
      · cases number
      · cases placed
  | right number =>
      rcases same.scalar (isScalar_of_isNumber number) with rfl | ⟨p, _, placed⟩
      · cases number
      · cases placed
  | item pair _ ih =>
      obtain ⟨others, here, each⟩ := same.items
      cases here
      exact ih ((List.forall₂_iff_zip.mp each).2 pair) (keyed.items _ (List.of_mem_zip pair).1)
  | entry inA inB _ ih =>
      obtain ⟨others, here, _, each⟩ := same.fields keyed.distinct
      cases here
      exact ih (each _ _ _ inA inB) (keyed.values _ inA)

/-- Values are the same document when they are strictly equal and no boolean stands against a
number. -/
theorem sameDocument_iff {a b : Value} (left : Determinate a) (right : Determinate b) :
    SameDocument a b ↔ strictEq a b = true ∧ ¬ BoolMeetsNumber a b :=
  ⟨fun same => ⟨strictEq_of_sameDocument left right same, same.apart left.keyed⟩,
    fun ⟨equal, apart⟩ => sameDocument_of_strictEq_apart left.keyed right.keyed equal apart⟩

end Value

/-! ### Strict equality against equality of documents -/

/-- Strict equality is equality of documents, at every depth, except for values that it takes for
equal though one of them has a boolean where the other has a number. -/
theorem strictEq_decides_document_iff (a b : Value) (left : a.Determinate)
    (right : b.Determinate) :
    (a.strictEq b = true ↔ a.SameDocument b) ↔
      ¬ (a.strictEq b = true ∧ a.BoolMeetsNumber b) := by
  rw [Value.sameDocument_iff left right]
  constructor
  · rintro decides ⟨equal, meets⟩
    exact (decides.mp equal).2 meets
  · intro exact
    exact ⟨fun equal => ⟨equal, fun meets => exact ⟨equal, meets⟩⟩, fun same => same.1⟩

def flagRecord (flag : Value) : Value := .record [("flag", flag)]

theorem flagRecord_determinate {flag : Value} (plain : flag.isScalar = true)
    (number : ∀ x, flag = .float x → x.isNaN = false) : (flagRecord flag).Determinate := by
  simpa [flagRecord] using Value.Determinate.scalar plain number

def flagList (flag : Value) : Value := .list [.bool true, flagRecord flag]

theorem flagList_determinate {flag : Value} (determinate : (flagRecord flag).Determinate) :
    (flagList flag).Determinate := by
  simpa [flagList] using determinate

theorem flagRecord_boolFree {flag : Value} (number : flag.isNumber = true) :
    (flagRecord flag).BoolFree := by
  refine .object (List.forall_mem_singleton.mpr (.scalar (Value.isScalar_of_isNumber number) ?_))
  rintro b rfl
  cases number

/-- A boolean that meets a boolean, and an integer that meets the number at its place. -/
theorem flagList_decided :
    (flagList (.int 1)).Determinate ∧ (flagList (.float (.ofInt 1))).Determinate ∧
      (flagList (.int 1)).strictEq (flagList (.float (.ofInt 1))) = true ∧
      ((flagList (.int 1)).strictEq (flagList (.float (.ofInt 1))) = true ↔
        (flagList (.int 1)).SameDocument (flagList (.float (.ofInt 1)))) := by
  have number : (Binary64.ofInt 1).isNaN = false := by decide +kernel
  have left : (flagList (.int 1)).Determinate :=
    flagList_determinate (flagRecord_determinate rfl (by simp))
  have right : (flagList (.float (.ofInt 1))).Determinate :=
    flagList_determinate (flagRecord_determinate rfl (by simp [number]))
  refine ⟨left, right, by decide +kernel,
    (strictEq_decides_document_iff _ _ left right).mpr ?_⟩
  rintro ⟨_, meets⟩
  cases meets with
  | item pair inner =>
      rcases List.mem_cons.mp pair with first | second
      · cases first
        cases inner with
        | left number => cases number
        | right number => cases number
      · cases List.mem_singleton.mp second
        exact (flagRecord_boolFree rfl).apart (flagRecord_boolFree rfl) inner

/-- A flag inside an object is taken for the number that it counts as. -/
theorem flagRecord_coerced :
    (flagRecord (.bool true)).Determinate ∧ (flagRecord (.int 1)).Determinate ∧
      (flagRecord (.bool true)).strictEq (flagRecord (.int 1)) = true ∧
      ¬ (flagRecord (.bool true)).SameDocument (flagRecord (.int 1)) := by
  refine ⟨flagRecord_determinate rfl (by simp), flagRecord_determinate rfl (by simp),
    by decide +kernel, fun same => ?_⟩
  have flags : Value.SameDocument (.bool true) (.int 1) :=
    @Value.SameDocument.get? _ _ (.text "flag") _ _ same rfl rfl
  rcases flags.scalar rfl with same | ⟨p, placed, _⟩
  · cases same
  · cases placed

end Rulebook
