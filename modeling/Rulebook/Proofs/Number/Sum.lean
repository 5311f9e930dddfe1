import Rulebook.Proofs.Number.Rounding
import Rulebook.Proofs.Value.Equality

/-!
Sums of numbers in two spellings.

An integer that stands where a floating point number does gives the same sum with an amount
as that number, as far as its place goes (`Amount.addTo_position`). A whole amount is the
exception: integers are added exactly and floating point numbers are rounded, so only zero
is safe.
-/

namespace Rulebook

namespace Value

theorem strictEq_of_position? {v w : Value} {p : Position} (atV : v.position? = some p)
    (atW : w.position? = some p) : v.strictEq w = true :=
  (strictEq_scalar_iff (isScalar_of_position? atV)).mpr (.inr ⟨p, atV, atW⟩)

/-- What is strictly equal to a number is one, at the same place. -/
theorem position?_of_strictEq {v w : Value} (equal : v.strictEq w = true)
    (number : w.isNumber = true) : ∃ p, v.position? = some p ∧ w.position? = some p := by
  cases plain : v.isScalar with
  | true =>
      rcases (strictEq_scalar_iff plain).mp equal with ⟨rfl, other⟩ | placed
      · cases number.symm.trans other
      · exact placed
  | false =>
      cases v <;> cases plain <;> cases w <;>
        simp [strictEq, sameNumber, position?, isNumber] at equal number

end Value

namespace Amount

/-- What is no number is replaced by the delta. -/
theorem addTo_other (delta : Amount) {v : Value} (other : v.isNumber = false) :
    delta.addTo v = .ok delta.toValue := by
  cases v with
  | int n => cases other
  | float x => cases other
  | _ => simp [addTo]

theorem isNumber_toValue (delta : Amount) : delta.toValue.isNumber = true := by
  cases delta <;> rfl

/-- A sum is a number. -/
theorem isNumber_of_addTo {delta : Amount} {v x : Value} (sum : delta.addTo v = .ok x) :
    x.isNumber = true := by
  cases number : v.isNumber with
  | false =>
      rw [addTo_other delta number] at sum
      cases sum
      exact delta.isNumber_toValue
  | true =>
      cases v with
      | int n =>
          cases delta with
          | int d =>
              cases sum
              rfl
          | float d =>
              rw [addTo] at sum
              cases converted : floatOfInt? n <;> rw [converted] at sum <;> cases sum
              rfl
      | float y =>
          cases delta with
          | int d =>
              rw [addTo] at sum
              cases converted : floatOfInt? d <;> rw [converted] at sum <;> cases sum
              rfl
          | float d =>
              cases sum
              rfl
      | _ => cases number

/-- Zero moves nothing. -/
theorem addTo_zero {v : Value} {p : Position} (placed : v.position? = some p) :
    ∃ y, (int 0).addTo v = .ok y ∧ y.position? = some p := by
  cases v with
  | int n => exact ⟨.int (n + 0), rfl, by rw [Int.add_zero]; exact placed⟩
  | float x =>
      refine ⟨_, by rw [addTo, Binary64.floatOfInt?_zero]; rfl, ?_⟩
      exact Binary64.position_add_zero placed Binary64.floatOfInt?_zero
  | _ => cases placed

theorem addTo_int_float {n : Int} {y d : Binary64} (converted : floatOfInt? n = some y) :
    (float d).addTo (.int n) = .ok (.float (y.add d)) := by
  rw [addTo, converted, Option.elim_some]

/-- Numbers at one place have sums at one place, unless a whole amount is added that is
not zero. -/
theorem addTo_position {delta : Amount} {v w x : Value} {p : Position}
    (zero : ∀ d, delta = .int d → d = 0) (atV : v.position? = some p) (atW : w.position? = some p)
    (sum : delta.addTo v = .ok x) : ∃ y, delta.addTo w = .ok y ∧ y.position? = x.position? := by
  cases delta with
  | int d =>
      obtain rfl := zero d rfl
      obtain ⟨x', sumV, atX⟩ := addTo_zero atV
      obtain ⟨y, sumW, atY⟩ := addTo_zero atW
      cases sumV.symm.trans sum
      exact ⟨y, sumW, atY.trans atX.symm⟩
  | float d =>
      -- A float converts what it is added to, and two numbers at one position convert alike.
      cases v with
      | int n =>
          cases w with
          | int m =>
              obtain rfl : n = m := Position.ofInt_inj.mp (Option.some.inj (atV.trans atW.symm))
              exact ⟨x, sum, rfl⟩
          | float b =>
              obtain ⟨a, converted, atA⟩ := Binary64.floatOfInt?_of_position (atW.trans atV.symm)
              cases (addTo_int_float converted).symm.trans sum
              exact ⟨_, rfl, Binary64.position_add_congr (atW.trans atV.symm) atA⟩
          | _ => cases atW
      | float a =>
          cases w with
          | int m =>
              obtain ⟨b, converted, atB⟩ := Binary64.floatOfInt?_of_position (atV.trans atW.symm)
              cases sum
              exact ⟨_, addTo_int_float converted,
                Binary64.position_add_congr atB (atV.trans atW.symm)⟩
          | float b =>
              cases sum
              exact ⟨_, rfl, Binary64.position_add_congr atW atV⟩
          | _ => cases atW
      | _ => cases atV

end Amount

end Rulebook
