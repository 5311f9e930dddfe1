import Rulebook.Number.Shortest
import Rulebook.Proofs.Number.Rounding

/-!
The shortest digits of a number read back as the number.

A decimal is rounded by its value alone, so zeros at the end of its digits do not matter
(`ofDecimal_scale`). Each grid of the search is asked whether a neighbour on it reads back, and the
exact value does, so the search comes to digits that do (`ofDecimal_shortest`).
-/

namespace Rulebook

-- `^` is the core library's power, also where another one is declared for the same types.
attribute [local instance (2000)] instPowNat

namespace Binary64

/-! ### Scaled quotients -/

section Scale

variable (n d : Nat) {c : Nat}

/-- Rounding a quotient only depends on the quotient, -/
theorem nearestEven_scale (positive : 0 < c) : nearestEven (n * c) (d * c) = nearestEven n d := by
  have double : 2 * (n % d * c) = 2 * (n % d) * c := (Nat.mul_assoc ..).symm
  simp only [nearestEven, Nat.mul_div_mul_right n d positive, Nat.mul_mod_mul_right, double,
    Nat.mul_lt_mul_right positive]

/-- so the nearest float does, -/
theorem nearestUnits_scale (positive : 0 < c) :
    nearestUnits (n * c) (d * c) = nearestUnits n d := by
  simp only [nearestUnits, Nat.mul_div_mul_right n d positive, Nat.mul_right_comm d c,
    nearestEven_scale _ _ positive]

/-- and the float with its sign. -/
theorem ofQuotient_scale (negative : Bool) (positive : 0 < c) :
    ofQuotient negative (n * c) (d * c) = ofQuotient negative n d := by
  rw [ofQuotient, ofQuotient, nearestUnits_scale n d positive]

end Scale

/-! ### Zeros at the end -/

/-- Multiplying with a power of ten adds zeros to the digits. -/
theorem toDigits_mul_pow {k : Nat} (positive : 0 < k) (zeros : Nat) :
    Nat.toDigits 10 (k * 10 ^ zeros) = Nat.toDigits 10 k ++ List.replicate zeros '0' := by
  induction zeros with
  | zero => simp
  | succ zeros ih =>
      have larger : 0 < k * 10 ^ zeros := Nat.mul_pos positive (Nat.pow_pos (by decide))
      have next := Nat.toDigits_append_toDigits (b := 10) (d := 0) (by decide) larger (by decide)
      rw [List.replicate_succ', ← List.append_assoc, ← ih, Nat.pow_succ, ← Nat.mul_assoc,
        Nat.mul_comm _ 10]
      exact next.symm

theorem length_toDigits_mul_pow {k : Nat} (positive : 0 < k) (zeros : Nat) :
    (Nat.toDigits 10 (k * 10 ^ zeros)).length = (Nat.toDigits 10 k).length + zeros := by
  rw [toDigits_mul_pow positive, List.length_append, List.length_replicate]

theorem ofDecimal_zero (negative : Bool) (exponent : Int) :
    ofDecimal negative 0 exponent = ofUnits negative 0 := by
  rw [ofDecimal, if_pos (.inl rfl)]

/-- The same value with more zeros at the end is rounded the same. -/
theorem ofDecimal_scale (negative : Bool) {k : Nat} (positive : 0 < k) (zeros : Nat)
    (exponent : Int) :
    ofDecimal negative (k * 10 ^ zeros) (exponent - zeros) = ofDecimal negative k exponent := by
  have power : ∀ m, 0 < 10 ^ m := fun m => Nat.pow_pos (by decide)
  have larger : k * 10 ^ zeros ≠ 0 := (Nat.mul_pos positive (power zeros)).ne'
  have leading : exponent - zeros + ((Nat.toDigits 10 (k * 10 ^ zeros)).length : Int) =
      exponent + ((Nat.toDigits 10 k).length : Int) := by
    rw [length_toDigits_mul_pow positive]
    omega
  unfold ofDecimal
  simp only [leading, larger, positive.ne', false_or]
  split
  · rfl
  split
  · rfl
  by_cases whole : 0 ≤ exponent - zeros
  · -- Both are whole multiples.
    have parts : exponent.toNat = zeros + (exponent - zeros).toNat := by omega
    rw [if_pos whole, if_pos (by omega), parts, Nat.pow_add, ← Nat.mul_assoc k]
  rw [if_neg whole]
  by_cases lifted : 0 ≤ exponent
  · -- Some of the zeros cancel.
    rw [if_pos lifted, ← ofQuotient_scale _ 1 negative (power (-(exponent - zeros)).toNat),
      Nat.one_mul]
    have parts : zeros = exponent.toNat + (-(exponent - zeros)).toNat := by omega
    have same : k * 10 ^ zeros = k * 10 ^ exponent.toNat * 10 ^ (-(exponent - zeros)).toNat := by
      conv_lhs => rw [parts, Nat.pow_add, ← Nat.mul_assoc]
    rw [same, Nat.mul_right_comm]
  · -- All of the zeros cancel.
    have parts : (-(exponent - zeros)).toNat = (-exponent).toNat + zeros := by omega
    rw [if_neg lifted, parts, Nat.pow_add, Nat.mul_right_comm,
      ofQuotient_scale _ _ negative (power zeros)]

/-! ### The search for digits -/

theorem nearestEven_eq_or (n d : Nat) : nearestEven n d = n / d ∨ nearestEven n d = n / d + 1 := by
  have least := le_nearestEven n d
  have most := nearestEven_le n d
  omega

/-- A neighbour is only taken where it reads back. -/
theorem readsBack_neighbour {units : Nat} {exponent : Int} {d : Decimal}
    (found : neighbour? units exponent = some d) : readsBack units d = true := by
  unfold neighbour? at found
  simp only at found
  split at found <;> rename_i below above <;> cases found
  · rcases nearestEven_eq_or (scaled units exponent).1 (scaled units exponent).2 with same | same
    · rw [same]
      exact below
    · rw [same]
      exact above
  · exact below
  · exact above

/-- A quotient that is a count of the format needs no rounding. -/
theorem ofQuotient_exact (negative : Bool) {units d : Nat} (representable : Representable units)
    (positive : 0 < d) : ofQuotient negative (units * d) d = ofUnits negative units := by
  have cancelled := ofQuotient_scale units 1 negative positive
  rw [Nat.one_mul] at cancelled
  rw [cancelled, ofQuotient, nearestUnits_of_aligned representable.aligned]

/-- The value of so many units, written out in full. -/
theorem readsBack_exact {units : Nat} (representable : Representable units)
    (positive : 0 < units) : readsBack units ⟨units * 5 ^ (1074 : Nat), -1074⟩ = true := by
  have least : 10 ^ 673 ≤ 5 ^ (1074 : Nat) := by decide +kernel
  have most : rangeEnd * 5 ^ (1074 : Nat) ≤ 10 ^ 1474 := by decide +kernel
  have five : 0 < 5 ^ (1074 : Nat) := by decide +kernel
  have tens : 5 ^ (1074 : Nat) * unitsPerOne = 10 ^ (-(-1074 : Int)).toNat := by decide +kernel
  have scale : 0 < 10 ^ (-(-1074 : Int)).toNat := by decide +kernel
  generalize 5 ^ (1074 : Nat) = c at *
  have above : ¬ (Nat.toDigits 10 (units * c)).length ≤ 673 := by
    rw [Nat.length_toDigits_le_iff (by decide) (by decide)]
    have := Nat.le_mul_of_pos_left c positive
    omega
  have below : (Nat.toDigits 10 (units * c)).length ≤ 1474 := by
    rw [Nat.length_toDigits_le_iff (by decide) (by decide)]
    have := Nat.mul_lt_mul_of_pos_right representable.inRange five
    omega
  have nonzero : units * c ≠ 0 := (Nat.mul_pos positive five).ne'
  rw [readsBack, decide_eq_true_eq, ofDecimal]
  simp only
  rw [if_neg (by omega), if_neg (by omega), if_neg (by omega), Nat.mul_assoc, tens,
    ofQuotient_exact false representable scale]

/-- Each candidate is tested, and the one the search falls back on is the value in full. -/
theorem readsBack_shortestFrom {units : Nat} (representable : Representable units)
    (positive : 0 < units) (magnitude : Int) (tries count : Nat) :
    readsBack units (shortestFrom units magnitude tries count) = true := by
  induction tries generalizing count with
  | zero => exact readsBack_exact representable positive
  | succ tries ih =>
      rw [shortestFrom]
      split
      · rename_i found
        exact readsBack_neighbour found
      · exact ih (count + 1)

/-- The shortest digits of a number are read as the number. -/
theorem ofDecimal_shortest {units : Nat} (representable : Representable units)
    (positive : 0 < units) :
    ofDecimal false (shortest units).digits (shortest units).exponent = ofUnits false units :=
  of_decide_eq_true (readsBack_shortestFrom representable positive _ 17 1)

/-- Digits are read with either sign to numbers of the same size. -/
theorem ofDecimal_sign {digits units : Nat} {exponent : Int} (representable : Representable units)
    (read : ofDecimal false digits exponent = ofUnits false units) (negative : Bool) :
    ofDecimal negative digits exponent = ofUnits negative units := by
  have same : ∀ {n : Nat}, ofUnits false n = ofUnits false units →
      ofUnits negative n = ofUnits negative units := by
    intro n equal
    unfold ofUnits at equal ⊢
    rw [dif_pos representable] at equal ⊢
    split at equal
    · obtain ⟨_, rfl⟩ := Binary64.finite.inj equal
      rw [dif_pos representable]
    · exact absurd equal (by simp)
  -- The sign plays no part in which case applies.
  unfold ofDecimal at read ⊢
  simp only at read ⊢
  split
  · rename_i small
    rw [if_pos small] at read
    exact same read
  rename_i notSmall
  rw [if_neg notSmall] at read
  split
  · rename_i large
    rw [if_pos large, ofUnits, dif_pos representable] at read
    exact absurd read (by simp)
  rename_i notLarge
  rw [if_neg notLarge] at read
  split
  · rename_i whole
    rw [if_pos whole] at read
    exact same read
  · rename_i fraction
    rw [if_neg fraction] at read
    exact same read

end Binary64

end Rulebook
