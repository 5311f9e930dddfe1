import Rulebook.Text.WordTable
import Rulebook.Text.DigitTable
import Rulebook.Text.PrintableTable
import Rulebook.Text.IdentifierTable
import Rulebook.Text.CasedTable

/-!
Classes of characters.

A class is given by the sorted code points at which membership changes, so a code
point belongs to it when an odd number of them lie at or below it. The ASCII part of
a class is answered without its table.
-/

namespace Rulebook.Text

/-- Walks over the change points up to `c`, keeping whether the last one passed was
an entry. -/
def insideFrom (inside : Bool) (c : Nat) : List Nat → Bool
  | [] => inside
  | point :: rest => if c < point then inside else insideFrom (!inside) c rest

def inside (boundaries : List Nat) (c : Nat) : Bool := insideFrom false c boundaries

/-! ### Code points -/

def isAsciiDigit (c : Nat) : Bool := 48 ≤ c && c ≤ 57

def isAsciiLetter (c : Nat) : Bool := (65 ≤ c && c ≤ 90) || (97 ≤ c && c ≤ 122)

def isAsciiWord (c : Nat) : Bool := isAsciiDigit c || isAsciiLetter c || c == 95

/-- Space, tab, line feed, vertical tab, form feed and carriage return. -/
def isAsciiBlank (c : Nat) : Bool := c == 32 || (9 ≤ c && c ≤ 13)

/-- Letters, numbers and the low line. -/
def isWord (c : Nat) : Bool :=
  if c < 128 then isAsciiWord c else inside wordBoundaries c

def isDigit (c : Nat) : Bool :=
  if c < 128 then isAsciiDigit c else inside digitBoundaries c

def isWhite (c : Nat) : Bool :=
  isAsciiBlank c || c == 0x85 || c == 0xA0 || c == 0x1680 || (0x2000 ≤ c && c ≤ 0x200A)
    || c == 0x2028 || c == 0x2029 || c == 0x202F || c == 0x205F || c == 0x3000

/-- White space and the four information separators. -/
def isBlank (c : Nat) : Bool := isWhite c || (0x1C ≤ c && c ≤ 0x1F)

def isPrintable (c : Nat) : Bool :=
  if c < 128 then 32 ≤ c && c < 127 else inside printableBoundaries c

def startsIdentifier (c : Nat) : Bool :=
  if c < 128 then isAsciiLetter c || c == 95 else inside identifierStartBoundaries c

def continuesIdentifier (c : Nat) : Bool :=
  if c < 128 then isAsciiWord c else inside identifierPartBoundaries c

def isCased (c : Nat) : Bool :=
  if c < 128 then isAsciiLetter c else inside casedBoundaries c

def isCaseIgnorable (c : Nat) : Bool := inside caseIgnorableBoundaries c

/-! ### Digits and words -/

/-- Walks over the runs of digits; inside a run the digits count from its start. -/
def digitValueFrom (c : Nat) : List Nat → Option Nat
  | first :: last :: rest =>
      if c < first then none
      else if c < last then some ((c - first) % 10)
      else digitValueFrom c rest
  | _ => none

def digitValue? (c : Nat) : Option Nat := digitValueFrom c digitBoundaries

def hexValue? (c : Char) : Option Nat :=
  let n := c.toNat
  if 48 ≤ n ∧ n ≤ 57 then some (n - 48)
  else if 97 ≤ n ∧ n ≤ 102 then some (n - 87)
  else if 65 ≤ n ∧ n ≤ 70 then some (n - 55)
  else none

/-- A starting character followed by continuing ones. -/
def isIdentifier : List Char → Bool
  | [] => false
  | c :: rest => startsIdentifier c.toNat && rest.all fun c => continuesIdentifier c.toNat

/-- A text without the characters of a class at its two ends. -/
def trim (outside : Nat → Bool) (text : List Char) : List Char :=
  let drop := List.dropWhile fun c : Char => outside c.toNat
  (drop (drop text).reverse).reverse

end Rulebook.Text
