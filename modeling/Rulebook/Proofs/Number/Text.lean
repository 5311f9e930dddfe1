import Mathlib.Data.List.TakeWhile
import Rulebook.Number.Reading
import Rulebook.Proofs.Number.Decimal

/-!
The text of a number reads back as the number.

A decimal is laid out with or without an exponent, and its digits lose the zeros at their end or
gain some. `Writes` says of a text which digits and which power of ten are read from it, and what
it looks like. Every layout of a decimal writes a decimal that is rounded the same
(`writes_decimal`), so the text of a number that is no `nan` determines it (`float?_text`).
-/

namespace Rulebook

-- `^` is the core library's power, also where another one is declared for the same types.
attribute [local instance (2000)] instPowNat

namespace Reading

/-! ### Digits -/

def AllDigits (text : List Char) : Prop := ∀ c ∈ text, Text.isAsciiDigit c.toNat = true

section Digits

variable {l m : List Char} {c : Char}

@[simp] theorem allDigits_append : AllDigits (l ++ m) ↔ AllDigits l ∧ AllDigits m :=
  List.forall_mem_append

@[simp] theorem allDigits_cons :
    AllDigits (c :: l) ↔ Text.isAsciiDigit c.toNat = true ∧ AllDigits l :=
  List.forall_mem_cons

theorem allDigits_zeros (n : Nat) : AllDigits (List.replicate n '0') := by
  intro c member
  rw [List.eq_of_mem_replicate member]
  decide

theorem allDigits_toDigits (n : Nat) : AllDigits (Nat.toDigits 10 n) := by
  intro c member
  have digit := Nat.isDigit_of_mem_toDigits (by decide) (by decide) member
  simpa [Text.isAsciiDigit, Char.isDigit_iff_toNat] using digit

theorem isDigits_of_allDigits (digits : AllDigits l) (filled : l ≠ []) : isDigits l = true := by
  simp only [isDigits, Bool.and_eq_true, Bool.not_eq_true', List.isEmpty_eq_false_iff,
    List.all_eq_true]
  exact ⟨filled, digits⟩

/-- A digit is none of the marks of a number. -/
theorem ne_of_isAsciiDigit (digit : Text.isAsciiDigit c.toNat = true) :
    c ≠ '.' ∧ c ≠ 'e' ∧ c ≠ 'E' ∧ c ≠ '-' ∧ c ≠ '+' := by
  refine ⟨?_, ?_, ?_, ?_, ?_⟩ <;> rintro rfl <;> exact absurd digit (by decide)

/-- Zeros behind multiply, -/
theorem digitsValue_append_zeros (l : List Char) (n : Nat) :
    digitsValue (l ++ List.replicate n '0') = digitsValue l * 10 ^ n := by
  have value : ∀ text, digitsValue text = Nat.ofDigitChars 10 text 0 := fun _ => rfl
  rw [value, value, Nat.ofDigitChars_append, Nat.ofDigitChars_replicate_zero, Nat.mul_comm]

/-- and zeros before do nothing. -/
theorem digitsValue_zeros_append (n : Nat) (l : List Char) :
    digitsValue (List.replicate n '0' ++ l) = digitsValue l := by
  have value : ∀ text, digitsValue text = Nat.ofDigitChars 10 text 0 := fun _ => rfl
  rw [value, value, Nat.ofDigitChars_append, Nat.ofDigitChars_replicate_zero, Nat.mul_zero]

theorem digitsValue_toDigits (n : Nat) : digitsValue (Nat.toDigits 10 n) = n :=
  Nat.ofDigitChars_ten_toDigits

end Digits

/-! ### Texts that write a decimal -/

/-- A text of digits, the first of them in front of a point if there is one, and what it is read
as. -/
structure Mantissa (text : List Char) (digits : Nat) (scale : Int) : Prop where
  read : mantissa? text = some (digits, scale)
  plain : ∀ c ∈ text, Text.isAsciiDigit c.toNat = true ∨ c = '.'
  head : ∃ c rest, text = c :: rest ∧ Text.isAsciiDigit c.toNat = true

theorem exists_head {l : List Char} (digits : AllDigits l) (filled : l ≠ []) (more : List Char) :
    ∃ c rest, l ++ more = c :: rest ∧ Text.isAsciiDigit c.toNat = true := by
  cases l with
  | nil => exact absurd rfl filled
  | cons c rest => exact ⟨c, rest ++ more, rfl, digits c List.mem_cons_self⟩

section Mantissa

variable {whole fraction : List Char}

/-- A mantissa with a point is its digits, scaled by those behind the point. -/
theorem mantissa_point (wholeDigits : AllDigits whole) (fractionDigits : AllDigits fraction)
    (filled : whole ≠ []) :
    Mantissa (whole ++ '.' :: fraction) (digitsValue (whole ++ fraction)) (-fraction.length) := by
  have unmarked : ∀ c ∈ whole, decide (c ≠ '.') = true := fun c member =>
    decide_eq_true (ne_of_isAsciiDigit (wholeDigits c member)).1
  have digits : isDigits (whole ++ fraction) = true :=
    isDigits_of_allDigits (allDigits_append.mpr ⟨wholeDigits, fractionDigits⟩) (by simp [filled])
  refine ⟨?_, ?_, exists_head wholeDigits filled _⟩
  · unfold mantissa?
    rw [List.takeWhile_append_of_pos unmarked, List.dropWhile_append_of_pos unmarked,
      List.takeWhile_cons_of_neg (by simp), List.dropWhile_cons_of_neg (by simp)]
    simp [digits]
  · intro c member
    rcases List.mem_append.mp member with inWhole | inRest
    · exact .inl (wholeDigits c inWhole)
    · rcases List.mem_cons.mp inRest with point | inFraction
      · exact .inr point
      · exact .inl (fractionDigits c inFraction)

/-- A mantissa without one is an integer. -/
theorem mantissa_whole (digits : AllDigits whole) (filled : whole ≠ []) :
    Mantissa whole (digitsValue whole) 0 := by
  have unmarked : ∀ c ∈ whole, decide (c ≠ '.') = true := fun c member =>
    decide_eq_true (ne_of_isAsciiDigit (digits c member)).1
  have head := exists_head digits filled []
  rw [List.append_nil] at head
  refine ⟨?_, fun c member => .inl (digits c member), head⟩
  unfold mantissa?
  rw [List.takeWhile_eq_self_iff.mpr unmarked, List.dropWhile_eq_nil_iff.mpr unmarked]
  simp [isDigits_of_allDigits digits filled]

end Mantissa

/-- The sign of an exponent and its digits. -/
theorem exponentText_toList (e : Int) :
    ∃ digits, (NumberLayout.exponentText e).toList = (if e < 0 then '-' else '+') :: digits ∧
      AllDigits digits ∧ digits ≠ [] ∧ digitsValue digits = e.natAbs := by
  have padded : ∀ zeros, AllDigits (List.replicate zeros '0' ++ Nat.toDigits 10 e.natAbs) ∧
      List.replicate zeros '0' ++ Nat.toDigits 10 e.natAbs ≠ [] ∧
      digitsValue (List.replicate zeros '0' ++ Nat.toDigits 10 e.natAbs) = e.natAbs := by
    intro zeros
    refine ⟨allDigits_append.mpr ⟨allDigits_zeros zeros, allDigits_toDigits _⟩, ?_, ?_⟩
    · simp [Nat.toDigits_ne_nil]
    · rw [digitsValue_zeros_append, digitsValue_toDigits]
  by_cases short : (Nat.repr e.natAbs).length < 2
  · refine ⟨_, ?_, padded 1⟩
    simp only [NumberLayout.exponentText, if_pos short, String.toList_append, Nat.toList_repr]
    split <;> rfl
  · refine ⟨_, ?_, padded 0⟩
    simp only [NumberLayout.exponentText, if_neg short, String.toList_append, Nat.toList_repr]
    split <;> rfl

/-- The exponent is read back from its text, sign and padding included. -/
theorem exponent?_exponentText (e : Int) :
    exponent? (NumberLayout.exponentText e).toList = some e := by
  obtain ⟨digits, text, all, filled, value⟩ := exponentText_toList e
  rw [text, exponent?]
  by_cases negative : e < 0
  · simp only [if_pos negative, splitSign, isDigits_of_allDigits all filled, value, if_true,
      Option.some.injEq]
    omega
  · simp only [if_neg negative, splitSign, isDigits_of_allDigits all filled, value, if_true,
      Option.some.injEq, Bool.false_eq_true, if_false]
    omega

/-- The text writes a decimal of so many digits and such an exponent. -/
inductive Writes : List Char → Nat → Int → Prop where
  | point {text : List Char} {digits : Nat} {scale : Int} :
      Mantissa text digits scale → '.' ∈ text → Writes text digits scale
  | marked {text : List Char} {digits : Nat} {scale : Int} (e : Int) :
      Mantissa text digits scale →
        Writes (text ++ 'e' :: (NumberLayout.exponentText e).toList) digits (scale + e)

/-- No mantissa holds the mark of an exponent. -/
theorem Mantissa.unmarked {text : List Char} {digits : Nat} {scale : Int}
    (mantissa : Mantissa text digits scale) :
    ∀ c ∈ text, (!(decide (c = 'e') || decide (c = 'E'))) = true := by
  intro c member
  rcases mantissa.plain c member with digit | rfl
  · simp [ne_of_isAsciiDigit digit]
  · decide

/-- What a text writes is read from it. -/
theorem Writes.decimal? {text : List Char} {digits : Nat} {exponent : Int}
    (writes : Writes text digits exponent) (negative : Bool) :
    decimal? negative text = some (.ofDecimal negative digits exponent) := by
  unfold Reading.decimal?
  cases writes with
  | point mantissa =>
      simp only [List.takeWhile_eq_self_iff.mpr mantissa.unmarked,
        List.dropWhile_eq_nil_iff.mpr mantissa.unmarked, mantissa.read]
      rfl
  | @marked text digits scale e mantissa =>
      simp only
      rw [List.takeWhile_append_of_pos mantissa.unmarked,
        List.dropWhile_append_of_pos mantissa.unmarked, List.takeWhile_cons_of_neg (by decide),
        List.dropWhile_cons_of_neg (by decide), List.append_nil, mantissa.read]
      simp [exponent?_exponentText]

/-- The characters of a text that writes a decimal. -/
theorem Writes.chars {text : List Char} {digits : Nat} {exponent : Int}
    (writes : Writes text digits exponent) :
    ∀ c ∈ text, Text.isAsciiDigit c.toNat = true ∨ c ∈ ['.', 'e', '-', '+'] := by
  cases writes with
  | point mantissa =>
      intro c member
      exact (mantissa.plain c member).imp_right fun point => by simp [point]
  | marked e mantissa =>
      obtain ⟨padded, written, all, -⟩ := exponentText_toList e
      intro c member
      rw [written] at member
      rcases List.mem_append.mp member with inMantissa | inRest
      · exact (mantissa.plain c inMantissa).imp_right fun point => by simp [point]
      · rcases List.mem_cons.mp inRest with rfl | inExponent
        · exact .inr (by simp)
        · rcases List.mem_cons.mp inExponent with sign | digit
          · refine .inr ?_
            split at sign <;> simp [sign]
          · exact .inl (all c digit)

/-- A text that writes a decimal is not that of an integer. -/
theorem Writes.broken {text : List Char} {digits : Nat} {exponent : Int}
    (writes : Writes text digits exponent) : '.' ∈ text ∨ 'e' ∈ text := by
  cases writes with
  | point _ point => exact .inl point
  | marked e _ => exact .inr (by simp)

/-! ### Signs -/

/-- What writes a number starts with a digit. -/
theorem Writes.head {text : List Char} {digits : Nat} {exponent : Int}
    (writes : Writes text digits exponent) :
    ∃ c rest, text = c :: rest ∧ Text.isAsciiDigit c.toNat = true := by
  cases writes with
  | point mantissa => exact mantissa.head
  | marked e mantissa =>
      obtain ⟨c, rest, rfl, digit⟩ := mantissa.head
      exact ⟨c, _, rfl, digit⟩

theorem toLower_of_isAsciiDigit {c : Char} (digit : Text.isAsciiDigit c.toNat = true) :
    c.toLower = c := by
  have small : c.toNat ≤ 57 := by
    simp only [Text.isAsciiDigit, Bool.and_eq_true, decide_eq_true_eq] at digit
    exact digit.2
  have noLetter : ¬ (c.val ≥ 'A'.val ∧ c.val ≤ 'Z'.val) := by
    rintro ⟨least, -⟩
    have : 65 ≤ c.toNat := UInt32.le_iff_toNat_le.mp least
    omega
  exact dif_neg noLetter

/-- The sign is split off in front of a digit. -/
theorem splitSign_digit {c : Char} (digit : Text.isAsciiDigit c.toNat = true) (rest : List Char)
    (negative : Bool) :
    splitSign (if negative then '-' :: c :: rest else c :: rest) = (negative, c :: rest) := by
  obtain ⟨-, -, -, minus, plus⟩ := ne_of_isAsciiDigit digit
  cases negative with
  | true => rfl
  | false =>
      unfold splitSign
      split <;> simp_all

/-- A text of a digit and more, with or without a minus, is read as a decimal. -/
theorem float?_digit {c : Char} (digit : Text.isAsciiDigit c.toNat = true) (rest : List Char)
    (negative : Bool) :
    float? (if negative then '-' :: c :: rest else c :: rest) =
      decimal? negative (c :: rest) := by
  have noWord : ∀ first others, Text.isAsciiDigit (Char.toNat first) = false →
      String.ofList ((c :: rest).map Char.toLower) ≠ String.ofList (first :: others) := by
    intro first others letter same
    rw [String.ofList_inj, List.map_cons, toLower_of_isAsciiDigit digit] at same
    rw [← (List.cons.inj same).1, digit] at letter
    cases letter
  have inf := noWord 'i' ['n', 'f'] (by decide)
  have infinity := noWord 'i' ['n', 'f', 'i', 'n', 'i', 't', 'y'] (by decide)
  have nan := noWord 'n' ['a', 'n'] (by decide)
  unfold float?
  rw [splitSign_digit digit]
  simp only
  rw [if_neg (not_or.mpr ⟨inf, infinity⟩), if_neg nan]

end Reading

/-! ### Layouts -/

namespace NumberLayout

open Reading

/-- Trimming takes nothing but zeros away. -/
theorem trimZeros_append (l : List Char) :
    (trimZeros l).1 ++ List.replicate (trimZeros l).2 '0' = l := by
  induction l with
  | nil => rfl
  | cons c rest ih =>
      rw [trimZeros]
      split
      · rename_i zeros trimmed
        rw [trimmed] at ih
        by_cases zero : c = '0'
        · rw [if_pos zero, zero, ← ih]
          rfl
        · rw [if_neg zero, ← ih]
          rfl
      · rename_i kept zeros _ trimmed
        rw [trimmed] at ih
        rw [← ih]
        rfl

/-- A text that writes the decimal, or one that is rounded the same. -/
def Lays (text : String) (digits : Nat) (exponent : Int) : Prop :=
  ∃ n e, Writes text.toList n e ∧
    ∀ negative, Binary64.ofDecimal negative n e = Binary64.ofDecimal negative digits exponent

theorem lays_of_writes {text : String} {n digits : Nat} {e exponent : Int}
    (writes : Writes text.toList n e)
    (same : ∀ negative, Binary64.ofDecimal negative n e =
      Binary64.ofDecimal negative digits exponent) : Lays text digits exponent :=
  ⟨n, e, writes, same⟩

theorem Lays.congr {text : String} {n digits : Nat} {e exponent : Int} (lays : Lays text n e)
    (same : ∀ negative, Binary64.ofDecimal negative n e =
      Binary64.ofDecimal negative digits exponent) : Lays text digits exponent := by
  obtain ⟨m, f, writes, equal⟩ := lays
  exact ⟨m, f, writes, fun negative => (equal negative).trans (same negative)⟩

/-- Digits before and after a point. -/
theorem lays_point {text : String} (whole fraction : List Char) {digits : Nat} {exponent : Int}
    (written : text.toList = whole ++ '.' :: fraction) (wholeDigits : AllDigits whole)
    (fractionDigits : AllDigits fraction) (filled : whole ≠ [])
    (same : ∀ negative, Binary64.ofDecimal negative (digitsValue (whole ++ fraction))
      (-fraction.length) = Binary64.ofDecimal negative digits exponent) :
    Lays text digits exponent := by
  refine ⟨_, _, ?_, same⟩
  rw [written]
  exact .point (mantissa_point wholeDigits fractionDigits filled) (by simp)

section Kept

variable {kept : List Char} {point : Int}

/-- Positional layout: the point stands inside the digits, behind zeros or after them. -/
theorem lays_positional (digits : AllDigits kept) (filled : kept ≠ [])
    (positive : 0 < digitsValue kept) :
    Lays (positional kept point) (digitsValue kept) (point - kept.length) := by
  unfold positional
  by_cases small : point ≤ 0
  · -- All digits stand after the point, and so do some zeros.
    rw [if_pos small]
    refine lays_point ['0'] (List.replicate (-point).toNat '0' ++ kept) (by simp)
      (allDigits_zeros 1) (allDigits_append.mpr ⟨allDigits_zeros _, digits⟩) (by simp)
      fun negative => ?_
    rw [show ['0'] = List.replicate 1 '0' from rfl, digitsValue_zeros_append,
      digitsValue_zeros_append, List.length_append, List.length_replicate]
    congr 1
    omega
  rw [if_neg small]
  by_cases covered : kept.length ≤ point.toNat
  · -- All digits stand before the point, and zeros follow them on both sides of it.
    obtain ⟨zeros, length⟩ := Nat.exists_eq_add_of_le covered
    simp only [if_pos covered]
    refine lays_point (kept ++ List.replicate (point.toNat - kept.length) '0') ['0'] (by simp)
      (allDigits_append.mpr ⟨digits, allDigits_zeros _⟩) (allDigits_zeros 1) (by simp [filled])
      fun negative => ?_
    have value : digitsValue (kept ++ List.replicate (point.toNat - kept.length) '0' ++ ['0']) =
        digitsValue kept * 10 ^ (zeros + 1) := by
      rw [show ['0'] = List.replicate 1 '0' from rfl, digitsValue_append_zeros,
        digitsValue_append_zeros, Nat.mul_assoc, ← Nat.pow_add]
      congr 3
      omega
    rw [value, ← Binary64.ofDecimal_scale negative positive (zeros + 1)]
    congr 1
    simp only [List.length_singleton]
    omega
  · -- The point divides the digits.
    have parts : kept.take point.toNat ++ kept.drop point.toNat = kept :=
      List.take_append_drop _ kept
    have positive : 0 < point.toNat := by omega
    simp only [if_neg covered]
    refine lays_point (kept.take point.toNat) (kept.drop point.toNat) (by simp)
      (fun c member => digits c (List.mem_of_mem_take member))
      (fun c member => digits c (List.mem_of_mem_drop member)) (by simp [filled, positive.ne'])
      fun negative => ?_
    rw [parts, List.length_drop]
    congr 1
    omega

/-- Scientific layout: one digit, the rest behind a point, and the exponent. -/
theorem lays_scientific (exponent : Int) (digits : AllDigits kept) (filled : kept ≠ []) :
    Lays (scientific kept exponent) (digitsValue kept) (exponent + 1 - kept.length) := by
  cases kept with
  | nil => exact absurd rfl filled
  | cons c rest =>
      cases rest with
      | nil =>
          have written : (scientific [c] exponent).toList =
              [c] ++ 'e' :: (exponentText exponent).toList := by simp [scientific]
          refine lays_of_writes (written ▸ Writes.marked exponent (mantissa_whole digits filled))
            fun _ => ?_
          congr 1
          simp only [List.length_singleton]
          omega
      | cons d rest =>
          obtain ⟨first, others⟩ := allDigits_cons.mp digits
          have written : (scientific (c :: d :: rest) exponent).toList =
              ([c] ++ '.' :: d :: rest) ++ 'e' :: (exponentText exponent).toList := by
            simp [scientific]
          have mantissa := mantissa_point (List.forall_mem_singleton.mpr first) others
            (List.cons_ne_nil c [])
          refine lays_of_writes (written ▸ Writes.marked exponent mantissa) fun _ => ?_
          congr 1
          simp only [List.length_cons]
          omega

end Kept

/-- The text of a decimal writes it, or a decimal of the same value. -/
theorem lays_decimal (layout : NumberLayout) (d : Decimal) :
    Lays (layout.decimal d) d.digits d.exponent := by
  have trimmed := trimZeros_append (Nat.toDigits 10 d.digits)
  have digits := allDigits_toDigits d.digits
  have value := digitsValue_toDigits d.digits
  unfold decimal
  simp only
  by_cases zero : d.digits = 0
  · rw [zero, if_pos (by decide)]
    refine lays_point ['0'] ['0'] rfl (allDigits_zeros 1) (allDigits_zeros 1) (by simp) ?_
    intro negative
    rfl
  -- The zeros at the end are dropped and counted to the exponent.
  generalize (trimZeros (Nat.toDigits 10 d.digits)).1 = kept at trimmed ⊢
  generalize (trimZeros (Nat.toDigits 10 d.digits)).2 = zeros at trimmed
  rw [← trimmed] at digits value ⊢
  rw [digitsValue_append_zeros] at value
  have keptDigits : AllDigits kept := (allDigits_append.mp digits).1
  have positive : 0 < digitsValue kept := by
    rcases Nat.eq_zero_or_pos (digitsValue kept) with none | some
    · rw [none, Nat.zero_mul] at value
      exact absurd value.symm zero
    · exact some
  have filled : kept ≠ [] := by
    rintro rfl
    exact Nat.lt_irrefl 0 positive
  rw [if_neg filled, List.length_append, List.length_replicate]
  have same : ∀ negative, Binary64.ofDecimal negative (digitsValue kept) (d.exponent + zeros) =
      Binary64.ofDecimal negative d.digits d.exponent := by
    intro negative
    rw [← Binary64.ofDecimal_scale negative positive zeros, value]
    congr 1
    omega
  have point : (kept.length + zeros : Nat) + d.exponent - kept.length = d.exponent + zeros := by
    omega
  generalize ((kept.length + zeros : Nat) : Int) + d.exponent = p at point ⊢
  rw [← point] at same
  split
  · exact (lays_positional keptDigits filled positive).congr same
  · refine (lays_scientific (p - 1) keptDigits filled).congr ?_
    rwa [Int.sub_add_cancel]

/-! ### Numbers -/

/-- The digits of a number, without its sign. -/
theorem lays_units {units : Nat} (representable : Representable units) (layout : NumberLayout) :
    ∃ n e, Writes (if units = 0 then layout.decimal ⟨0, 0⟩
        else layout.decimal (Binary64.shortest units)).toList n e ∧
      ∀ negative, Binary64.ofDecimal negative n e = .finite negative units representable := by
  have finite : ∀ negative, Binary64.ofUnits negative units =
      .finite negative units representable := fun _ => dif_pos representable
  by_cases zero : units = 0
  · subst zero
    obtain ⟨n, e, writes, same⟩ := lays_decimal layout ⟨0, 0⟩
    refine ⟨n, e, writes, fun negative => ?_⟩
    rw [same, Binary64.ofDecimal_zero, finite]
  · obtain ⟨n, e, writes, same⟩ := lays_decimal layout (Binary64.shortest units)
    have read := Binary64.ofDecimal_shortest representable (Nat.pos_of_ne_zero zero)
    rw [if_neg zero]
    refine ⟨n, e, writes, fun negative => ?_⟩
    rw [same, Binary64.ofDecimal_sign representable read, finite]

/-- A finite float is written in digits that round back to it. -/
theorem text_finite (layout : NumberLayout) (negative : Bool) {units : Nat}
    (representable : Representable units) :
    ∃ text n e, Writes text n e ∧
      Binary64.ofDecimal negative n e = .finite negative units representable ∧
      (layout.text (.finite negative units representable)).toList =
        if negative then '-' :: text else text := by
  obtain ⟨n, e, writes, same⟩ := lays_units representable layout
  refine ⟨_, n, e, writes, same negative, ?_⟩
  rw [NumberLayout.text]
  cases negative with
  | true =>
      rw [if_pos rfl, if_pos rfl, String.toList_append, show "-".toList = ['-'] from rfl,
        List.singleton_append]
  | false => rw [if_neg Bool.false_ne_true, if_neg Bool.false_ne_true]

/-- The text of a finite number is read as the number. -/
theorem float?_text (layout : NumberLayout) {x : Binary64} (finite : x.isFinite = true) :
    float? (layout.text x).toList = some x := by
  cases x with
  | finite negative units representable =>
      obtain ⟨text, n, e, writes, same, written⟩ := text_finite layout negative representable
      obtain ⟨c, rest, rfl, digit⟩ := writes.head
      rw [written, float?_digit digit, writes.decimal?, same]
  | _ => cases finite

end NumberLayout

/-! ### Numbers in canonical text -/

open Reading

/-- Canonical text spells the infinities so that they are read, too. -/
theorem float?_canonical {x : Binary64} (number : x.isNaN = false) :
    float? (canonicalNumbers.text x).toList = some x := by
  cases x with
  | nan payload => cases number
  | infinite negative => cases negative <;> rfl
  | finite negative units representable => exact canonicalNumbers.float?_text rfl

/-- The characters of canonical numbers. -/
theorem canonical_text_chars {x : Binary64} (number : x.isNaN = false) :
    ∀ c ∈ (canonicalNumbers.text x).toList,
      Text.isAsciiDigit c.toNat = true ∨ c ∈ ".e-+Infinity".toList := by
  cases x with
  | nan payload => cases number
  | infinite negative => cases negative <;> simp [NumberLayout.text, canonicalNumbers]
  | finite negative units representable =>
      obtain ⟨text, n, e, writes, -, written⟩ :=
        canonicalNumbers.text_finite negative representable
      have chars : ∀ c ∈ text,
          Text.isAsciiDigit c.toNat = true ∨ c ∈ ".e-+Infinity".toList := by
        intro c member
        have marks : ∀ c ∈ ['.', 'e', '-', '+'], c ∈ ".e-+Infinity".toList := by simp
        exact (writes.chars c member).imp_right (marks c)
      rw [written]
      split
      · exact List.forall_mem_cons.mpr ⟨.inr (by decide), chars⟩
      · exact chars

/-- Canonical numbers are not written as integers are. -/
theorem canonical_text_broken {x : Binary64} (number : x.isNaN = false) :
    ∃ c ∈ (canonicalNumbers.text x).toList, c ∈ ['.', 'e', 'I'] := by
  cases x with
  | nan payload => cases number
  | infinite negative => cases negative <;> simp [NumberLayout.text, canonicalNumbers]
  | finite negative units representable =>
      obtain ⟨text, n, e, writes, -, written⟩ :=
        canonicalNumbers.text_finite negative representable
      have broken : ∃ c ∈ text, c ∈ ['.', 'e', 'I'] := by
        rcases writes.broken with point | mark
        · exact ⟨'.', point, by decide⟩
        · exact ⟨'e', mark, by decide⟩
      rw [written]
      split
      · obtain ⟨c, member, mark⟩ := broken
        exact ⟨c, List.mem_cons_of_mem _ member, mark⟩
      · exact broken

/-! ### Integers -/

theorem int_toList (n : Int) :
    (toString n).toList =
      if decide (n < 0) then '-' :: Nat.toDigits 10 n.natAbs else Nat.toDigits 10 n.natAbs := by
  rw [Int.toString_eq_repr, Int.repr_eq_if]
  by_cases negative : n < 0
  · have size : (-n).toNat = n.natAbs := by omega
    rw [if_pos (decide_eq_true negative), if_neg (by omega), String.toList_append,
      Nat.toList_repr, size]
    rfl
  · have size : n.toNat = n.natAbs := by omega
    have positive : 0 ≤ n := Int.not_lt.mp negative
    rw [if_pos positive, decide_eq_false negative, if_neg Bool.false_ne_true, Nat.toList_repr, size]

/-- An integer is written with digits and at most a sign. -/
theorem int_text_chars (n : Int) :
    ∀ c ∈ (toString n).toList, Text.isAsciiDigit c.toNat = true ∨ c = '-' := by
  have digits : ∀ c ∈ Nat.toDigits 10 n.natAbs, Text.isAsciiDigit c.toNat = true ∨ c = '-' :=
    fun c member => .inl (allDigits_toDigits _ c member)
  rw [int_toList]
  split
  · exact List.forall_mem_cons.mpr ⟨.inr rfl, digits⟩
  · exact digits

/-- The text of an integer has its sign and the digits of its size. -/
theorem splitSign_int (n : Int) :
    splitSign (toString n).toList = (decide (n < 0), Nat.toDigits 10 n.natAbs) := by
  obtain ⟨c, rest, written, digit⟩ :=
    exists_head (allDigits_toDigits n.natAbs) Nat.toDigits_ne_nil []
  rw [List.append_nil] at written
  rw [int_toList, written, splitSign_digit digit]

def signedValue (text : List Char) : Int :=
  let (negative, digits) := splitSign text
  if negative then -(digitsValue digits : Int) else digitsValue digits

/-- The text of an integer is read as the integer. -/
theorem signedValue_int (n : Int) : signedValue (toString n).toList = n := by
  rw [signedValue, splitSign_int]
  simp only [digitsValue_toDigits, decide_eq_true_eq]
  split <;> omega

end Rulebook
