/-!
Binary floating point of 64 bits, as exact integers.

Every finite number of the format is a whole multiple of `2 ^ -1074`, the least
positive one, so a finite number is a sign and a count of those units. Order is
then the order of integers, a sum is an integer sum that is rounded once, and an
integer is compared with a number without rounding either of them.

* `Representable` says which counts of units the format has;
* `nearestUnits` rounds a quotient to such a count, a tie going to the even one;
* `Position` is the line on which integers and numbers are compared.
-/

namespace Rulebook

-- `^` is the core library's power, also where another one is declared for the same types.
attribute [local instance (2000)] instPowNat

/-! ### The numbers of the format -/

/-- The first count of units that lies beyond every finite number. -/
def rangeEnd : Nat := 2 ^ (2098 : Nat)

/-- A count of units has a place in the format: at most 53 significant bits, and
below the range's end. -/
structure Representable (units : Nat) : Prop where
  inRange : units < rangeEnd
  aligned : 2 ^ (units.log2 - 52) ∣ units

instance (units : Nat) : Decidable (Representable units) :=
  decidable_of_iff (units < rangeEnd ∧ 2 ^ (units.log2 - 52) ∣ units)
    ⟨fun h => ⟨h.1, h.2⟩, fun h => ⟨h.1, h.2⟩⟩

/-- A floating point number. The payload of a `nan` tells one such datum from
another; it never takes part in arithmetic. -/
inductive Binary64 where
  | nan (payload : Nat)
  | infinite (negative : Bool)
  | finite (negative : Bool) (units : Nat) (representable : Representable units)
deriving DecidableEq

namespace Binary64

/-- How many units make one. -/
def unitsPerOne : Nat := 2 ^ (1074 : Nat)

def ofUnits (negative : Bool) (units : Nat) : Binary64 :=
  if h : Representable units then .finite negative units h else .infinite negative

def zero : Binary64 := ofUnits false 0

def isFinite : Binary64 → Bool
  | finite .. => true
  | _ => false

def isNaN : Binary64 → Bool
  | nan _ => true
  | _ => false

/-- The signed count of units of a finite number. -/
def signedUnits (negative : Bool) (units : Nat) : Int :=
  if negative then -(units : Int) else units

/-! ### Rounding -/

/-- The whole number nearest to `n / d`, the even one of two. -/
def nearestEven (n d : Nat) : Nat :=
  let floor := n / d
  let rest := n % d
  if 2 * rest < d then floor
  else if d < 2 * rest then floor + 1
  else if floor % 2 = 0 then floor
  else floor + 1

/-- The representable count nearest to `n / d` units. Numbers with the same leading
bit are evenly spaced, so the quotient is rounded to a multiple of that spacing. -/
def nearestUnits (n d : Nat) : Nat :=
  let spacing := 2 ^ ((n / d).log2 - 52)
  nearestEven n (d * spacing) * spacing

/-- The number nearest to `n / d` units. -/
def ofQuotient (negative : Bool) (n d : Nat) : Binary64 :=
  ofUnits negative (nearestUnits n d)

def ofInt (n : Int) : Binary64 :=
  ofQuotient (decide (n < 0)) (n.natAbs * unitsPerOne) 1

/-- The number nearest to `digits * 10 ^ exponent`. Exponents that lie far outside
the format are answered without forming the power. -/
def ofDecimal (negative : Bool) (digits : Nat) (exponent : Int) : Binary64 :=
  let leading := exponent + (Nat.toDigits 10 digits).length
  if digits = 0 ∨ leading < -400 then ofUnits negative 0
  else if 400 < leading then .infinite negative
  else if 0 ≤ exponent then
    ofQuotient negative (digits * 10 ^ exponent.toNat * unitsPerOne) 1
  else ofQuotient negative (digits * unitsPerOne) (10 ^ (-exponent).toNat)

/-! ### Arithmetic -/

/-- The rounded sum of two signed counts of units. An exact zero is positive. -/
def sumUnits (a b : Int) : Binary64 :=
  ofQuotient (decide (a + b < 0)) (a + b).natAbs 1

/-- The rounded sum. Infinities of opposite signs have none, and two negative zeros
make a negative zero. -/
def add : Binary64 → Binary64 → Binary64
  | nan p, _ => nan p
  | _, nan p => nan p
  | infinite s, infinite t => if s = t then infinite s else nan 0
  | infinite s, finite .. => infinite s
  | finite .., infinite t => infinite t
  | finite s a _, finite t b _ =>
      if s = true ∧ t = true ∧ a + b = 0 then ofUnits true 0
      else sumUnits (signedUnits s a) (signedUnits t b)

def toInt? : Binary64 → Option Int
  | finite s units _ =>
      if units % unitsPerOne = 0 then some (signedUnits s (units / unitsPerOne)) else none
  | _ => none

end Binary64

/-! ### The common line of integers and numbers -/

/-- A place on the number line, measured in units, with both ends. -/
inductive Position where
  | bottom
  | point (units : Int)
  | top
deriving DecidableEq

namespace Position

def less : Position → Position → Bool
  | bottom, bottom => false
  | bottom, _ => true
  | _, bottom => false
  | point a, point b => decide (a < b)
  | point _, top => true
  | top, _ => false

end Position

def Position.ofInt (n : Int) : Position := .point (n * Binary64.unitsPerOne)

/-- The place of a number; a `nan` has none. -/
def Binary64.position : Binary64 → Option Position
  | nan _ => none
  | infinite true => some .bottom
  | infinite false => some .top
  | finite s units _ => some (.point (signedUnits s units))

end Rulebook
