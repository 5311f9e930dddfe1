import Mathlib.Algebra.Order.Ring.Nat
import Mathlib.Tactic.Linarith
import Mathlib.Tactic.Ring
import Rulebook.Execute.Action

/-!
Rounding to the nearest number of the format.

What has a place in the format is kept by rounding (`nearestUnits_of_aligned`), what
rounding gives is aligned (`nearestUnits_aligned`), and it lies in range below half a step
under the range's end (`representable_nearestUnits_iff`). So an integer is beyond floating
point numbers from `2 ^ 1024 - 2 ^ 970` on, and a sum depends on where its terms stand
only.
-/

namespace Rulebook

namespace Binary64

/-! ### Rounding a quotient -/

theorem nearestEven_le (n d : Nat) : nearestEven n d ≤ n / d + 1 := by
  simp only [nearestEven]
  grind

theorem le_nearestEven (n d : Nat) : n / d ≤ nearestEven n d := by
  simp only [nearestEven]
  grind

theorem nearestEven_mul (q : Nat) {d : Nat} (positive : 0 < d) : nearestEven (d * q) d = q := by
  simp [nearestEven, positive]

/-- An even bound is reached from half a step below it on: the tie goes to the bound. -/
theorem le_nearestEven_iff {n d bound : Nat} (positive : 0 < d) (even : bound % 2 = 0) :
    bound ≤ nearestEven n d ↔ 2 * bound * d ≤ 2 * n + d := by
  have parts : d * (n / d) + n % d = n := Nat.div_add_mod n d
  have rest : n % d < d := Nat.mod_lt n positive
  generalize h' : n % d = r at parts rest
  generalize h : n / d = q at parts
  -- Only right below the bound does rounding decide, and a tie goes to the bound, as it is even.
  rcases Nat.lt_trichotomy (q + 1) bound with below | same | above
  · have small : nearestEven n d < bound := Nat.lt_of_le_of_lt (h ▸ nearestEven_le n d) below
    have : d * (q + 2) ≤ d * bound := Nat.mul_le_mul_left d below
    constructor
    · omega
    · intro le
      nlinarith
  · subst same
    simp only [nearestEven, h, h']
    rw [← parts]
    have step : 2 * (q + 1) * d = 2 * (d * q) + 2 * d := by ring
    rw [step]
    split <;> rename_i first
    · omega
    · split <;> rename_i second
      · omega
      · rw [if_neg (by omega)]
        omega
  · have reached : bound ≤ nearestEven n d :=
      Nat.le_trans (Nat.lt_succ_iff.mp above) (h ▸ le_nearestEven n d)
    have : d * bound ≤ d * q := Nat.mul_le_mul_left d (Nat.lt_succ_iff.mp above)
    have exact : 2 * bound * d = 2 * (d * bound) := by ring
    constructor
    · omega
    · exact fun _ => reached

/-! ### Rounding to the format -/

theorem nearestUnits_one (n : Nat) :
    nearestUnits n 1 = nearestEven n (2 ^ (n.log2 - 52)) * 2 ^ (n.log2 - 52) := by
  simp [nearestUnits]

/-- A count with a place in the format is the nearest one to itself. -/
theorem nearestUnits_of_aligned {n : Nat} (aligned : 2 ^ (n.log2 - 52) ∣ n) :
    nearestUnits n 1 = n := by
  obtain ⟨q, parts⟩ := aligned
  rw [nearestUnits_one]
  generalize n.log2 - 52 = e at parts
  rw [parts, nearestEven_mul q (Nat.two_pow_pos e), Nat.mul_comm]

/-- The rounded leading digits have 53 bits, or are the next power of two. -/
theorem nearestEven_spacing_le (n : Nat) : nearestEven n (2 ^ (n.log2 - 52)) ≤ 2 ^ 53 := by
  have digits : n < 2 ^ 53 * 2 ^ (n.log2 - 52) := by
    rw [← Nat.pow_add]
    exact Nat.lt_of_lt_of_le Nat.lt_log2_self (Nat.pow_le_pow_right Nat.two_pos (by omega))
  have below : n / 2 ^ (n.log2 - 52) < 2 ^ 53 :=
    (Nat.div_lt_iff_lt_mul (Nat.two_pow_pos _)).mpr digits
  have := nearestEven_le n (2 ^ (n.log2 - 52))
  omega

/-- Rounding gives at most 53 significant bits. -/
theorem nearestUnits_aligned (n : Nat) :
    2 ^ ((nearestUnits n 1).log2 - 52) ∣ nearestUnits n 1 := by
  rw [nearestUnits_one]
  have few := nearestEven_spacing_le n
  generalize nearestEven n (2 ^ (n.log2 - 52)) = q at few
  generalize n.log2 - 52 = e
  rcases Nat.lt_or_eq_of_le few with less | rfl
  · rcases Nat.eq_zero_or_pos q with rfl | positive
    · simp
    · have nonzero : q * 2 ^ e ≠ 0 := Nat.mul_ne_zero (by omega) (Nat.two_pow_pos e).ne'
      have bits : (q * 2 ^ e).log2 < 53 + e := by
        rw [Nat.log2_lt nonzero, Nat.pow_add]
        exact Nat.mul_lt_mul_of_pos_right less (Nat.two_pow_pos e)
      exact Nat.dvd_trans (Nat.pow_dvd_pow 2 (by omega)) (Nat.dvd_mul_left _ _)
  · rw [← Nat.pow_add, Nat.log2_two_pow]
    exact Nat.pow_dvd_pow 2 (by omega)

/-- Rounding reaches the end of a binade from half a step below it on. -/
theorem le_nearestUnits_iff (n k : Nat) :
    2 ^ (54 + k) ≤ nearestUnits n 1 ↔ 2 ^ (54 + k) ≤ n + 2 ^ k := by
  have double : ∀ m, 2 ^ (m + 1) = 2 * 2 ^ m := fun m => by rw [Nat.pow_succ, Nat.mul_comm]
  have wide : 2 ^ k ≤ 2 ^ (53 + k) := Nat.pow_le_pow_right Nat.two_pos (by omega)
  have whole : 2 ^ (54 + k) = 2 * 2 ^ (53 + k) := by rw [← double, Nat.add_right_comm]
  rw [nearestUnits_one]
  -- Only an integer of 54 + k bits is so close to the power that rounding decides.
  rcases Nat.lt_trichotomy n.log2 (53 + k) with below | same | above
  · have small : n < 2 ^ (53 + k) :=
      Nat.lt_of_lt_of_le Nat.lt_log2_self (Nat.pow_le_pow_right Nat.two_pos below)
    have rounded : nearestEven n (2 ^ (n.log2 - 52)) * 2 ^ (n.log2 - 52) ≤ 2 ^ 53 * 2 ^ k :=
      Nat.mul_le_mul (nearestEven_spacing_le n) (Nat.pow_le_pow_right Nat.two_pos (by omega))
    rw [← Nat.pow_add] at rounded
    have := Nat.two_pow_pos (53 + k)
    omega
  · have spacing : n.log2 - 52 = k + 1 := by omega
    have parts : 2 ^ (54 + k) = 2 ^ 53 * 2 ^ (k + 1) := by rw [← Nat.pow_add]; congr 1; omega
    rw [spacing, parts, Nat.mul_le_mul_right_iff (Nat.two_pow_pos _),
      le_nearestEven_iff (Nat.two_pow_pos _) (by decide), Nat.mul_assoc, double k]
    omega
  · have large : 2 ^ (54 + k) ≤ 2 ^ n.log2 := Nat.pow_le_pow_right Nat.two_pos (by omega)
    have least : 2 ^ n.log2 ≤ n := Nat.log2_self_le (by rintro rfl; simp at above)
    have digits : 2 ^ 52 ≤ n / 2 ^ (n.log2 - 52) := by
      rw [Nat.le_div_iff_mul_le (Nat.two_pow_pos _), ← Nat.pow_add, Nat.add_sub_cancel' (by omega)]
      exact least
    have rounded : 2 ^ 52 * 2 ^ (n.log2 - 52) ≤
        nearestEven n (2 ^ (n.log2 - 52)) * 2 ^ (n.log2 - 52) :=
      Nat.mul_le_mul_right _ (Nat.le_trans digits (le_nearestEven _ _))
    rw [← Nat.pow_add, Nat.add_sub_cancel' (by omega)] at rounded
    have := Nat.two_pow_pos k
    omega

theorem rangeEnd_eq : rangeEnd = 2 ^ (54 + 2044) := by decide +kernel

/-- A count can be rounded when it lies more than half a step below the range's end. -/
theorem representable_nearestUnits_iff (n : Nat) :
    Representable (nearestUnits n 1) ↔ n + 2 ^ 2044 < rangeEnd := by
  have range := le_nearestUnits_iff n 2044
  rw [← rangeEnd_eq] at range
  constructor
  · intro representable
    exact Nat.not_le.mp fun beyond => Nat.not_le.mpr representable.inRange (range.mpr beyond)
  · intro small
    exact ⟨Nat.not_le.mp fun beyond => Nat.not_le.mpr small (range.mp beyond),
      nearestUnits_aligned n⟩

/-! ### Integers -/

/-- The least integer that rounds to no finite number. -/
def integerEnd : Nat := 2 ^ 1024 - 2 ^ 970

/-- A magnitude is finite where it is representable. -/
theorem isFinite_ofUnits_iff {negative : Bool} {units : Nat} :
    (ofUnits negative units).isFinite = true ↔ Representable units := by
  rw [ofUnits]
  split <;> simp_all [isFinite]

/-- An integer converts to a finite float below the bound. -/
theorem isFinite_ofInt_iff (n : Int) : (ofInt n).isFinite = true ↔ n.natAbs < integerEnd := by
  have range : rangeEnd = (integerEnd + 2 ^ 970) * unitsPerOne := by decide +kernel
  have step : 2 ^ 2044 = 2 ^ 970 * unitsPerOne := by decide +kernel
  have one : 0 < unitsPerOne := by decide +kernel
  rw [ofInt, ofQuotient, isFinite_ofUnits_iff, representable_nearestUnits_iff, range, step]
  generalize unitsPerOne = u at one
  generalize 2 ^ 970 = c
  rw [← Nat.add_mul, Nat.mul_lt_mul_right one]
  omega

end Binary64

/-- The conversion fails from the bound on. -/
theorem floatOfInt?_eq_none_iff (n : Int) :
    floatOfInt? n = none ↔ Binary64.integerEnd ≤ n.natAbs := by
  rw [← Nat.not_lt, ← Binary64.isFinite_ofInt_iff, floatOfInt?]
  split <;> simp_all

namespace Binary64

/-! ### Places -/

theorem position_ofUnits (negative : Bool) {units : Nat} (representable : Representable units) :
    (ofUnits negative units).position = some (.point (signedUnits negative units)) := by
  rw [ofUnits, dif_pos representable, position]

theorem signedUnits_natAbs (n : Int) : signedUnits (decide (n < 0)) n.natAbs = n := by
  rcases Int.lt_or_le n 0 with negative | positive
  · rw [decide_eq_true negative, signedUnits, if_pos rfl]
    omega
  · rw [decide_eq_false (Int.not_lt.mpr positive), signedUnits, if_neg Bool.false_ne_true]
    omega

theorem natAbs_signedUnits (negative : Bool) (units : Nat) :
    (signedUnits negative units).natAbs = units := by
  cases negative <;> simp [signedUnits]

/-- Rounding keeps the place of a count that the format has. -/
theorem position_ofQuotient {n : Int} (representable : Representable n.natAbs) :
    (ofQuotient (decide (n < 0)) n.natAbs 1).position = some (.point n) := by
  rw [ofQuotient, nearestUnits_of_aligned representable.aligned, position_ofUnits _ representable,
    signedUnits_natAbs]

/-- An integer is converted as the quotient it is by one. -/
theorem ofInt_eq (n : Int) :
    ofInt n = ofQuotient (decide (n * unitsPerOne < 0)) (n * unitsPerOne).natAbs 1 := by
  have one : (0 : Int) < unitsPerOne := Int.natCast_pos.mpr (by decide +kernel)
  have sign : n * unitsPerOne < 0 ↔ n < 0 := by
    constructor
    · intro less
      exact Int.not_le.mp fun le => Int.not_lt.mpr (Int.mul_nonneg le one.le) less
    · intro less
      exact Int.mul_neg_of_neg_of_pos less one
  rw [ofInt, Int.natAbs_mul, Int.natAbs_natCast, decide_eq_decide.mpr sign]

/-- An integer that stands where a number does is converted to one at that place. -/
theorem floatOfInt?_of_position {n : Int} {x : Binary64}
    (same : x.position = some (.ofInt n)) :
    ∃ y, floatOfInt? n = some y ∧ y.position = some (.ofInt n) := by
  cases x with
  | nan payload => cases same
  | infinite negative => cases negative <;> cases same
  | finite negative units representable =>
      have units_eq : units = (n * unitsPerOne).natAbs := by
        have point : Position.point (signedUnits negative units) = .ofInt n := Option.some.inj same
        rw [← natAbs_signedUnits negative units, Position.point.inj point]
      rw [units_eq] at representable
      have finite : (ofInt n).isFinite = true := by
        rw [ofInt_eq, ofQuotient, nearestUnits_of_aligned representable.aligned]
        exact isFinite_ofUnits_iff.mpr representable
      refine ⟨ofInt n, by rw [floatOfInt?, if_pos finite], ?_⟩
      rw [ofInt_eq]
      exact position_ofQuotient representable

/-- Two zeros with a sign are no exception: their sum stands where the rounded one does. -/
theorem position_add_finite {s t : Bool} {a b : Nat} (inA : Representable a)
    (inB : Representable b) :
    ((finite s a inA).add (finite t b inB)).position =
      (sumUnits (signedUnits s a) (signedUnits t b)).position := by
  rw [add]
  split
  · rename_i zeros
    obtain ⟨rfl, rfl, none⟩ := zeros
    obtain ⟨rfl, rfl⟩ : a = 0 ∧ b = 0 := by omega
    rw [position_ofUnits true inA]
    exact (@position_ofQuotient 0 inA).symm
  · rfl

/-- A sum depends on where its first term stands only. -/
theorem position_add_congr {x y d : Binary64} {p : Position} (atX : x.position = some p)
    (atY : y.position = some p) : (x.add d).position = (y.add d).position := by
  cases x with
  | nan payload => cases atX
  | infinite s =>
      have same : y = .infinite s := by
        cases y with
        | nan payload => cases atY
        | infinite t => cases s <;> cases t <;> cases atX <;> cases atY <;> rfl
        | finite => cases s <;> cases atX <;> cases atY
      rw [same]
  | finite s a inA =>
      cases y with
      | nan payload => cases atY
      | infinite t => cases t <;> cases atX <;> cases atY
      | finite t b inB =>
          have places : signedUnits s a = signedUnits t b :=
            Position.point.inj (Option.some.inj (atX.trans atY.symm))
          cases d with
          | nan payload => rfl
          | infinite u => rfl
          | finite u c inC => rw [position_add_finite, position_add_finite, places]

theorem representable_zero : Representable 0 := by decide +kernel

theorem floatOfInt?_zero : floatOfInt? 0 = some (finite false 0 representable_zero) := by
  decide +kernel

/-- Adding the zero that an integer gives moves nothing. -/
theorem position_add_zero {x y : Binary64} {p : Position} (atX : x.position = some p)
    (zero : floatOfInt? 0 = some y) : (x.add y).position = some p := by
  obtain rfl : y = finite false 0 representable_zero :=
    Option.some.inj (zero.symm.trans floatOfInt?_zero)
  cases x with
  | nan payload => cases atX
  | infinite s => exact atX
  | finite s a inA =>
      have sum : signedUnits s a + signedUnits false 0 = signedUnits s a := Int.add_zero _
      have inSum : Representable (signedUnits s a).natAbs := by
        rw [natAbs_signedUnits]
        exact inA
      rw [position_add_finite, sumUnits, sum, position_ofQuotient inSum]
      exact atX

end Binary64

end Rulebook
