import Rulebook.Number.Binary64

/-!
The decimal text of a floating point number: the fewest digits that read back.

`shortest` looks at the two neighbours of a number on the grid of one digit, of two
digits, and so on; the first grid with a neighbour that reads back as the number
gives the digits, and of two such neighbours the nearer is taken. `NumberLayout`
holds what a text is made of besides its digits.
-/

namespace Rulebook

-- `^` is the core library's power, also where another one is declared for the same types.
attribute [local instance (2000)] instPowNat

/-- Digits and the power of ten that they are multiplied with. -/
structure Decimal where
  digits : Nat
  exponent : Int
deriving DecidableEq

namespace Binary64

/-- The exponent `p` with `10 ^ (p - 1) ≤ units < 10 ^ p`, the value measured in ones. -/
def decimalMagnitude (units : Nat) : Int :=
  ((Nat.toDigits 10 (units * 10 ^ (400 : Nat) / unitsPerOne)).length : Int) - 400

def scaled (units : Nat) (exponent : Int) : Nat × Nat :=
  if 0 ≤ exponent then (units, unitsPerOne * 10 ^ exponent.toNat)
  else (units * 10 ^ (-exponent).toNat, unitsPerOne)

/-- A decimal reads back as the number of so many units. -/
def readsBack (units : Nat) (d : Decimal) : Bool :=
  decide (ofDecimal false d.digits d.exponent = ofUnits false units)

/-- The neighbour on the grid of `10 ^ exponent` that reads back, the nearer one of
two and the even one of two equally near. -/
def neighbour? (units : Nat) (exponent : Int) : Option Decimal :=
  let (n, d) := scaled units exponent
  let below : Decimal := ⟨n / d, exponent⟩
  let above : Decimal := ⟨n / d + 1, exponent⟩
  match readsBack units below, readsBack units above with
  | true, true => some ⟨nearestEven n d, exponent⟩
  | true, false => some below
  | false, true => some above
  | false, false => none

/-- The first grid, among those of `count` digits and the `tries` finer ones, on which
a neighbour reads back; the exact value where there is none. -/
def shortestFrom (units : Nat) (magnitude : Int) : Nat → Nat → Decimal
  | 0, _ => ⟨units * 5 ^ (1074 : Nat), -1074⟩
  | tries + 1, count =>
      match neighbour? units (magnitude - count) with
      | some d => d
      | none => shortestFrom units magnitude tries (count + 1)

/-- The fewest digits that read back as the number of so many units. -/
def shortest (units : Nat) : Decimal :=
  shortestFrom units (decimalMagnitude units) 17 1

end Binary64

/-! ### Layout -/

/-- What the text of a number is made of besides its digits. A number whose decimal
exponent lies between the two bounds is written with a point and no exponent. -/
structure NumberLayout where
  leastPositional : Int
  mostPositional : Int
  nan : String
  infinity : String
deriving DecidableEq

namespace NumberLayout

/-- The digits without the zeros at their end, and how many the zeros were. -/
def trimZeros : List Char → List Char × Nat
  | [] => ([], 0)
  | c :: rest =>
      match trimZeros rest with
      | ([], zeros) => if c = '0' then ([], zeros + 1) else ([c], zeros)
      | (kept, zeros) => (c :: kept, zeros)

def exponentText (e : Int) : String :=
  let digits := Nat.repr e.natAbs
  (if e < 0 then "-" else "+") ++ (if digits.length < 2 then "0" ++ digits else digits)

/-- Digits with a point after the first `point` of them; a whole number keeps one
zero after it. -/
def positional (digits : List Char) (point : Int) : String :=
  if point ≤ 0 then
    "0." ++ String.ofList (List.replicate (-point).toNat '0' ++ digits)
  else
    let whole := point.toNat
    if digits.length ≤ whole then
      String.ofList (digits ++ List.replicate (whole - digits.length) '0') ++ ".0"
    else String.ofList (digits.take whole) ++ "." ++ String.ofList (digits.drop whole)

/-- One digit, a point and the others if there are any, and the exponent. -/
def scientific (digits : List Char) (exponent : Int) : String :=
  let mantissa :=
    match digits with
    | [] => "0"
    | [d] => String.ofList [d]
    | d :: rest => String.ofList (d :: '.' :: rest)
  mantissa ++ "e" ++ exponentText exponent

def decimal (layout : NumberLayout) (d : Decimal) : String :=
  let all := Nat.toDigits 10 d.digits
  let kept := (trimZeros all).1
  let point : Int := all.length + d.exponent
  if kept = [] then "0.0"
  else if layout.leastPositional ≤ point - 1 ∧ point - 1 ≤ layout.mostPositional then
    positional kept point
  else scientific kept (point - 1)

def text (layout : NumberLayout) : Binary64 → String
  | .nan _ => layout.nan
  | .infinite true => "-" ++ layout.infinity
  | .infinite false => layout.infinity
  | .finite s units _ =>
      let magnitude :=
        if units = 0 then layout.decimal ⟨0, 0⟩ else layout.decimal (Binary64.shortest units)
      if s then "-" ++ magnitude else magnitude

end NumberLayout

/-- Numbers as messages and results show them: positional from `1e-4` up to `1e16`. -/
def plainNumbers : NumberLayout := ⟨-4, 15, "nan", "inf"⟩

/-- Numbers inside canonical text, which spells the special ones out. -/
def canonicalNumbers : NumberLayout := ⟨-4, 15, "NaN", "Infinity"⟩

end Rulebook
