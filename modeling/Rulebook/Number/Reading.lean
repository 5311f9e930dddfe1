import Rulebook.Number.Binary64
import Rulebook.Text.Character

/-!
Numbers written as text.

An integer is an optional sign and digits, with single low lines between digits; zeros
may follow a point. A floating point number is decimal with an optional point and
exponent, or one of the words for infinity and for no number.
-/

namespace Rulebook

namespace Reading

def digitsValue (digits : List Char) : Nat :=
  digits.foldl (fun n c => 10 * n + (c.toNat - 48)) 0

def isDigits (text : List Char) : Bool :=
  !text.isEmpty && text.all fun c => Text.isAsciiDigit c.toNat

/-- A leading sign, and whether it is a minus. -/
def splitSign : List Char → Bool × List Char
  | '-' :: rest => (true, rest)
  | '+' :: rest => (false, rest)
  | text => (false, text)

/-- A text without low lines; refused where one does not stand alone between two
other characters. -/
def joinGroups? (text : List Char) : Option (List Char) :=
  let groups := text.splitOn '_'
  if groups.any List.isEmpty then none else some groups.flatten

/-- A text without a point and the zeros after it. -/
def dropZeroFraction (text : List Char) : List Char :=
  match text.dropWhile (· ≠ '.') with
  | _ :: fraction => if fraction.all (· = '0') then text.takeWhile (· ≠ '.') else text
  | [] => text

/-- Digits with an optional point, at least one digit, as digits and exponent. -/
def mantissa? (text : List Char) : Option (Nat × Int) :=
  let whole := text.takeWhile (· ≠ '.')
  let fraction := (text.dropWhile (· ≠ '.')).drop 1
  let digits := whole ++ fraction
  if isDigits digits then some (digitsValue digits, -(fraction.length : Int)) else none

def exponent? (text : List Char) : Option Int :=
  let (negative, digits) := splitSign text
  if isDigits digits then
    let n := digitsValue digits
    some (if negative then -(n : Int) else n)
  else none

def decimal? (negative : Bool) (text : List Char) : Option Binary64 := do
  let isMark := fun c : Char => c = 'e' || c = 'E'
  let (digits, scale) ← mantissa? (text.takeWhile fun c => !isMark c)
  match text.dropWhile fun c => !isMark c with
  | _ :: written =>
      let e ← exponent? written
      return .ofDecimal negative digits (scale + e)
  | [] => return .ofDecimal negative digits scale

def float? (text : List Char) : Option Binary64 :=
  let (negative, body) := splitSign text
  let word := String.ofList (body.map Char.toLower)
  if word = "inf" ∨ word = "infinity" then some (.infinite negative)
  else if word = "nan" then some (.nan 0)
  else decimal? negative body

end Reading

open Reading

/-- The integer that a text writes, white space at its ends left out. -/
def readInt? (s : String) : Option Int := do
  let (negative, body) := splitSign (Text.trim Text.isWhite s.toList)
  let digits ← joinGroups? (dropZeroFraction body)
  if isDigits digits then
    let n := digitsValue digits
    return if negative then -(n : Int) else n
  else none

/-- The floating point number that a text writes. White space at the ends is left out;
where that does not help, low lines are. -/
def readFloat? (s : String) : Option Binary64 :=
  match float? (Text.trim Text.isWhite s.toList) with
  | some x => some x
  | none => if '_' ∈ s.toList then joinGroups? s.toList >>= float? else none

end Rulebook
