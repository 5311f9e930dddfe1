import Mathlib.Algebra.Order.Ring.Nat
import Rulebook.Proofs.Value.Equality
import Rulebook.Value.Display

/-!
Which values have a text.

An integer has one below a power of ten that lies far beyond every floating point number, so
equal numbers are written or not alike, however they are spelled (`Value.hasText_of_agrees`).
-/

namespace Rulebook

/-! ### Integers -/

/-- An integer is written where it has no more digits than the limit. -/
theorem intHasText_iff {n : Int} : intHasText n = true ↔ n.natAbs < 10 ^ digitLimit := by
  rw [intHasText, decide_eq_true_iff]
  exact Nat.length_toDigits_le_iff (by decide) (by decide)

theorem intHasText_of_lt_two_pow {n : Int} {k : Nat} (below : n.natAbs < 2 ^ k)
    (short : k ≤ digitLimit) : intHasText n = true := by
  refine intHasText_iff.mpr (Nat.lt_of_lt_of_le below ?_)
  have base : 2 ^ k ≤ 10 ^ k := Nat.pow_le_pow_left (by decide) k
  exact Nat.le_trans base (Nat.pow_le_pow_right (by decide) short)

/-- What lies in the range of the floating point numbers is short. -/
theorem intHasText_of_inRange {n : Int}
    (inRange : n.natAbs * Binary64.unitsPerOne < rangeEnd) : intHasText n = true := by
  have range : rangeEnd = 2 ^ 1024 * Binary64.unitsPerOne := by decide +kernel
  rw [range] at inRange
  exact intHasText_of_lt_two_pow (Nat.lt_of_mul_lt_mul_right inRange) (by decide)

/-- An integer at the place of a floating point number is short. -/
theorem intHasText_of_position {n : Int} {x : Binary64}
    (placed : x.position = some (.ofInt n)) : intHasText n = true := by
  cases x with
  | nan payload => cases placed
  | infinite negative => cases negative <;> cases placed
  | finite negative units representable =>
      have signed : Binary64.signedUnits negative units = n * Binary64.unitsPerOne :=
        Position.point.inj (Option.some.inj placed)
      have count : units = n.natAbs * Binary64.unitsPerOne := by
        have sizes := congrArg Int.natAbs signed
        rw [Int.natAbs_mul, Int.natAbs_natCast] at sizes
        rw [← sizes, Binary64.signedUnits]
        split <;> simp
      exact intHasText_of_inRange (count ▸ representable.inRange)

namespace Value

/-! ### Scalars -/

/-- An integer that is equal to some boolean or float is a short one. -/
theorem intHasText_of_looseOf? {n : Int} {v : Value} (placed : v.looseOf? = some (.ofInt n))
    (other : ∀ m, v ≠ .int m) : intHasText n = true := by
  cases v with
  | bool flag =>
      have small : ∀ flag : Bool, intHasText flag.toInt = true := by decide
      cases Position.ofInt_inj.mp (Option.some.inj placed)
      exact small flag
  | int m => exact absurd rfl (other m)
  | float x => exact intHasText_of_position placed
  | _ => cases placed

/-- Two numbers at one place both have a text, or they are the same integer. -/
theorem hasText_of_looseOf? {a b : Value} {p : Position} (left : a.looseOf? = some p)
    (right : b.looseOf? = some p) : a.hasText = b.hasText := by
  cases a with
  | int n =>
      cases left
      cases b with
      | int m => rw [Position.ofInt_inj.mp (Option.some.inj right)]
      | list items => cases right
      | object fields => cases right
      | _ => exact intHasText_of_looseOf? right (by simp)
  | list items => cases left
  | object fields => cases left
  | _ =>
      cases b with
      | int m =>
          cases right
          exact (intHasText_of_looseOf? left (by simp)).symm
      | list items => cases right
      | object fields => cases right
      | _ => rfl

/-! ### Lists and objects -/

theorem itemsHaveText_iff {items : List Value} :
    itemsHaveText items = true ↔ ∀ v ∈ items, v.hasText = true := by
  induction items with
  | nil => simp [itemsHaveText]
  | cons v rest ih => simp [itemsHaveText, ih]

theorem fieldsHaveText_iff {fields : List (Key × Value)} :
    fieldsHaveText fields = true ↔
      ∀ entry ∈ fields, entry.1.hasText = true ∧ entry.2.hasText = true := by
  induction fields with
  | nil => simp [fieldsHaveText]
  | cons entry rest ih => simp [fieldsHaveText, ih]

/-- Text keys can be written. -/
theorem Keyed.hasText_object_iff {fields : List (Key × Value)} (keyed : Keyed (.object fields)) :
    hasText (.object fields) = true ↔ ∀ entry ∈ fields, entry.2.hasText = true := by
  refine fieldsHaveText_iff.trans (forall₂_congr fun entry member => and_iff_right ?_)
  obtain ⟨name, text⟩ := keyed.texts entry member
  rw [text]
  rfl

/-! ### Equal values -/

/-- What agrees with a value that has a text has one. -/
theorem Keyed.hasText_of_agrees {a b : Value} (left : Keyed a) (right : Keyed b)
    (agree : agrees a b = true) (text : b.hasText = true) : a.hasText = true := by
  induction left generalizing b with
  | scalar plain =>
      rcases (agrees_scalar_iff plain).mp agree with rfl | ⟨p, first, second⟩
      · exact text
      · rw [hasText_of_looseOf? first second, text]
  | list _ ih =>
      cases b with
      | list ys =>
          refine itemsHaveText_iff.mpr fun x member => ?_
          obtain ⟨y, inside, same⟩ := exists_left_of_forall₂ (agreesItems_iff.mp agree).flip member
          exact ih x member (right.items y inside) same (itemsHaveText_iff.mp text y inside)
      | _ => cases agree
  | object distinct texts each ih =>
      cases b with
      | object gs =>
          have keyed : Keyed (.object _) := .object distinct texts each
          refine keyed.hasText_object_iff.mpr fun entry member => ?_
          obtain ⟨w, inside, same⟩ := ((agrees_object_iff keyed right).mp agree).2 entry member
          exact ih entry member (right.values _ inside) same
            (right.hasText_object_iff.mp text _ inside)
      | _ => cases agree

/-- Of two keyed values that agree, both have a text or none has. -/
theorem hasText_of_agrees {a b : Value} (left : Keyed a) (right : Keyed b)
    (agree : agrees a b = true) : a.hasText = b.hasText :=
  Bool.eq_iff_iff.mpr
    ⟨right.hasText_of_agrees left (agrees_symm left right agree),
      left.hasText_of_agrees right agree⟩

/-- Values that are alike have a text together: an integer and the float it equals have one. -/
theorem Alike.hasText_eq {a b : Value} (alike : Alike a b) (left : Keyed a) (right : Keyed b) :
    a.hasText = b.hasText := by
  rcases alike with rfl | equal
  · rfl
  · exact hasText_of_agrees left right (left.wellKeyed.agrees_of_strictEq equal)

end Value

end Rulebook
