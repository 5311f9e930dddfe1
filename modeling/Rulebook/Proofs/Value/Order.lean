import Mathlib.Data.Rat.Cast.Order
import Mathlib.Order.WithBot
import Rulebook.Evaluate.Comparison
import Rulebook.Proofs.Number.Sum
import Rulebook.Proofs.Value.Parts

/-!
The order of numbers.

Integers and floating point numbers are compared as what they are exactly, a rational number or
one of two ends: `Value.Measures` says what that is, apart from any comparison, and `less_iff` and
`strictEq_iff` that comparing two numbers compares it. Nothing is rounded on the way, so the
comparisons of an integer with a floating point number fit in with those of the two kinds, and all
numbers stand in one order (`numbers_totally_ordered`).
-/

namespace Rulebook

/-! ### What numbers are -/

/-- The rational numbers with an end on both sides. -/
abbrev Extended := WithBot (WithTop ℚ)

/-- The rational number of so many units. -/
def Extended.ofUnits (units : Int) : Extended :=
  ((units / Binary64.unitsPerOne : ℚ) : WithTop ℚ)

theorem Extended.ofUnits_lt_iff {m n : Int} : ofUnits m < ofUnits n ↔ m < n := by
  have one : (0 : ℚ) < Binary64.unitsPerOne := Nat.cast_pos.mpr Binary64.unitsPerOne_pos
  rw [ofUnits, ofUnits, WithBot.coe_lt_coe, WithTop.coe_lt_coe,
    div_lt_div_iff_of_pos_right one, Int.cast_lt]

/-- What a number is exactly. A `nan` is nothing. -/
inductive Value.Measures : Value → Extended → Prop where
  | int (n : Int) : Measures (.int n) (((n : ℚ) : WithTop ℚ) : Extended)
  | finite (negative : Bool) (units : Nat) (representable : Representable units) :
      Measures (.float (.finite negative units representable))
        (.ofUnits (Binary64.signedUnits negative units))
  | least : Measures (.float (.infinite true)) ⊥
  | greatest : Measures (.float (.infinite false)) ⊤

/-- A value that is a number and no `nan`. -/
structure Number where
  value : Value
  isNumber : value.isNumber = true
  numeric : value.Numeric

/-- Every number measures something. -/
theorem Number.exists_measures (x : Number) : ∃ p, x.value.Measures p := by
  obtain ⟨v, number, numeric⟩ := x
  cases v with
  | int n => exact ⟨_, .int n⟩
  | float x =>
      cases x with
      | nan payload => cases numeric.held rfl _ rfl
      | infinite negative =>
          cases negative with
          | true => exact ⟨_, .least⟩
          | false => exact ⟨_, .greatest⟩
      | finite negative units representable => exact ⟨_, .finite negative units representable⟩
  | _ => cases number

/-! ### Places on the number line -/

namespace Position

def exact : Position → Extended
  | bottom => ⊥
  | point units => .ofUnits units
  | top => ⊤

/-- Places are ordered as what stands at them. -/
theorem less_iff (p q : Position) : p.less q = true ↔ p.exact < q.exact := by
  cases p with
  | bottom =>
      cases q with
      | bottom => exact iff_of_false Bool.false_ne_true (lt_irrefl _)
      | point n => exact iff_of_true rfl (WithBot.bot_lt_coe _)
      | top => exact iff_of_true rfl (WithBot.bot_lt_coe _)
  | point m =>
      cases q with
      | bottom => exact iff_of_false Bool.false_ne_true not_lt_bot
      | point n => rw [less, decide_eq_true_iff, exact, exact, Extended.ofUnits_lt_iff]
      | top => exact iff_of_true rfl (WithBot.coe_lt_coe.mpr (WithTop.coe_lt_top _))
  | top => cases q <;> exact iff_of_false Bool.false_ne_true not_top_lt

/-- Of two places one comes first. -/
theorem less_or_less {p q : Position} (apart : p ≠ q) : p.less q = true ∨ q.less p = true := by
  cases p <;> cases q <;> simp_all [less]

/-- Positions are told apart by their exact place. -/
theorem exact_inj {p q : Position} : p.exact = q.exact ↔ p = q := by
  refine ⟨fun same => ?_, congrArg exact⟩
  by_contra apart
  rcases less_or_less apart with before | after
  · exact absurd same ((less_iff p q).mp before).ne
  · exact absurd same ((less_iff q p).mp after).ne'

end Position

namespace Value

variable {x y : Value} {p q : Extended}

/-- A number stands where it measures. -/
theorem Measures.placed (measures : x.Measures p) :
    ∃ place, x.position? = some place ∧ place.exact = p := by
  cases measures with
  | int n =>
      have one : (Binary64.unitsPerOne : ℚ) ≠ 0 :=
        Nat.cast_ne_zero.mpr (Nat.ne_of_gt Binary64.unitsPerOne_pos)
      refine ⟨.ofInt n, rfl, ?_⟩
      rw [Position.ofInt, Position.exact, Extended.ofUnits, Int.cast_mul, Int.cast_natCast,
        mul_div_cancel_right₀ _ one]
  | finite negative units representable => exact ⟨_, rfl, rfl⟩
  | least => exact ⟨_, rfl, rfl⟩
  | greatest => exact ⟨_, rfl, rfl⟩

/-- One number is less than another as rational numbers are, with no rounding. -/
theorem less_iff (left : x.Measures p) (right : y.Measures q) : x.less y = true ↔ p < q := by
  obtain ⟨here, atX, rfl⟩ := left.placed
  obtain ⟨there, atY, rfl⟩ := right.placed
  rw [less, atX, atY]
  exact Position.less_iff here there

/-- Two numbers are strictly equal when they are the same rational number. -/
theorem strictEq_iff (left : x.Measures p) (right : y.Measures q) :
    x.strictEq y = true ↔ p = q := by
  obtain ⟨here, atX, rfl⟩ := left.placed
  obtain ⟨there, atY, rfl⟩ := right.placed
  rw [Position.exact_inj]
  constructor
  · intro equal
    rcases (strictEq_scalar_iff (isScalar_of_position? atX)).mp equal with
      ⟨rfl, _⟩ | ⟨place, first, second⟩
    · exact Option.some.inj (atX.symm.trans atY)
    · exact (Option.some.inj (atX.symm.trans first)).trans
        (Option.some.inj (second.symm.trans atY))
  · rintro rfl
    exact strictEq_of_position? atX atY

/-- On numbers, strict equality is to be the same number. -/
theorem sameNumber_eq_strictEq (left : x.Measures p) (right : y.Measures q) :
    x.sameNumber y = x.strictEq y := by
  obtain ⟨here, atX, rfl⟩ := left.placed
  obtain ⟨there, atY, rfl⟩ := right.placed
  rw [Bool.eq_iff_iff, strictEq_iff left right, Position.exact_inj, sameNumber, atX, atY]
  exact beq_iff_eq

end Value

/-! ### Comparisons -/

/-- An ordering sees of its sides where they stand, and nothing else. -/
theorem Operator.holds_of_position?_eq {operator : Operator} (ordering : operator.isOrdering = true)
    {a b c d : Value} (left : a.position? = b.position?) (right : c.position? = d.position?) :
    operator.holds a c = operator.holds b d := by
  cases operator with
  | greater | greaterOrEqual | less | lessOrEqual =>
      simp only [holds, Value.less, Value.sameNumber, left, right]
  | _ => cases ordering

/-- The comparisons of two numbers are those of a total order: one of three holds, being less goes
on from one number to the next, the other comparisons are made of these, and equal numbers take
each other's place in any ordering. -/
structure Number.Ordered (x y : Number) : Prop where
  one_of_three : ∃! operator, operator ∈ [Operator.less, .equals, .greater] ∧
    operator.holds x.value y.value = true
  less_trans : ∀ z : Number, Operator.less.holds x.value y.value = true →
    Operator.less.holds y.value z.value = true → Operator.less.holds x.value z.value = true
  greater_eq : Operator.greater.holds x.value y.value = Operator.less.holds y.value x.value
  lessOrEqual_eq : Operator.lessOrEqual.holds x.value y.value =
    (Operator.less.holds x.value y.value || Operator.equals.holds x.value y.value)
  greaterOrEqual_eq : Operator.greaterOrEqual.holds x.value y.value =
    (Operator.greater.holds x.value y.value || Operator.equals.holds x.value y.value)
  notEquals_eq : Operator.notEquals.holds x.value y.value =
    !Operator.equals.holds x.value y.value
  exchange : Operator.equals.holds x.value y.value = true →
    ∀ (operator : Operator) (v : Value), operator.isOrdering = true →
      operator.holds x.value v = operator.holds y.value v ∧
        operator.holds v x.value = operator.holds v y.value

/-- Numbers are totally ordered by their comparisons, integers and floating point numbers in any
mix. -/
theorem numbers_totally_ordered (x y : Number) : x.Ordered y := by
  obtain ⟨p, atX⟩ := x.exists_measures
  obtain ⟨q, atY⟩ := y.exists_measures
  have less : Operator.less.holds x.value y.value = true ↔ p < q := Value.less_iff atX atY
  have equals : Operator.equals.holds x.value y.value = true ↔ p = q := Value.strictEq_iff atX atY
  have greater : Operator.greater.holds x.value y.value = true ↔ q < p := Value.less_iff atY atX
  constructor
  case one_of_three =>
    refine existsUnique_of_exists_of_unique ?_ ?_
    · rcases lt_trichotomy p q with before | same | after
      · exact ⟨.less, by simp, less.mpr before⟩
      · exact ⟨.equals, by simp, equals.mpr same⟩
      · exact ⟨.greater, by simp, greater.mpr after⟩
    · -- Two of the three would put the same two numbers in two orders.
      rintro operator other ⟨member, holds⟩ ⟨member', holds'⟩
      simp only [List.mem_cons, List.not_mem_nil, or_false] at member member'
      rcases member with rfl | rfl | rfl <;> rcases member' with rfl | rfl | rfl <;>
        simp only [less, equals, greater] at holds holds' <;> grind
  case less_trans =>
    intro z first second
    obtain ⟨r, atZ⟩ := z.exists_measures
    exact (Value.less_iff atX atZ).mpr
      ((less.mp first).trans ((Value.less_iff atY atZ).mp second))
  case greater_eq => rfl
  case lessOrEqual_eq =>
    exact congrArg (_ || ·) (Value.sameNumber_eq_strictEq atX atY)
  case greaterOrEqual_eq =>
    exact congrArg (_ || ·) (Value.sameNumber_eq_strictEq atX atY)
  case notEquals_eq => rfl
  case exchange =>
    intro equal operator v ordering
    obtain ⟨place, here, there⟩ := Value.position?_of_strictEq equal y.isNumber
    have same := here.trans there.symm
    exact ⟨Operator.holds_of_position?_eq ordering same rfl,
      Operator.holds_of_position?_eq ordering rfl same⟩

def Number.ofInt (n : Int) : Number := ⟨.int n, rfl, .scalar rfl (by simp)⟩

def Number.ofFloat (x : Binary64) (number : x.isNaN = false) : Number :=
  ⟨.float x, rfl, .scalar rfl fun _ same => Value.float.inj same ▸ number⟩

def oddInteger : Number := .ofInt (2 ^ 53 + 1)

def evenFloat : Number := .ofFloat (Binary64.ofInt (2 ^ 53)) (by decide +kernel)

/-- Rounded to a floating point number the two would be equal, and they are not. -/
theorem odd_integer_ordered :
    oddInteger.Ordered evenFloat ∧
      Operator.greater.holds oddInteger.value evenFloat.value = true ∧
      Operator.equals.holds oddInteger.value evenFloat.value = false :=
  ⟨numbers_totally_ordered oddInteger evenFloat, by decide +kernel, by decide +kernel⟩

end Rulebook
