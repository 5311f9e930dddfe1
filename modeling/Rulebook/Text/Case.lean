import Rulebook.Text.CaseTable
import Rulebook.Text.Character

/-!
Upper and lower case.

`lowercase` and `uppercase` map whole texts; a capital sigma becomes the final one at
the end of a word. `alike` is the relation between single characters that a search
which ignores case uses.
-/

namespace Rulebook.Text

namespace CaseShift

def moves (row : CaseShift) (c : Nat) : Bool :=
  row.first ≤ c && c ≤ row.last && (c - row.first) % row.stride == 0

def target (row : CaseShift) (c : Nat) : Nat := (c + row.offset).toNat

/-- The code point that the row moves to `c`, if there is one. -/
def source? (row : CaseShift) (c : Nat) : Option Nat :=
  let origin := (c : Int) - row.offset
  if 0 ≤ origin ∧ row.moves origin.toNat then some origin.toNat else none

end CaseShift

def shifted (rows : List CaseShift) (c : Nat) : Nat :=
  match rows.find? (·.moves c) with
  | some row => row.target c
  | none => c

/-! ### Single characters -/

def lower (c : Nat) : Nat :=
  if c < 128 then (if 65 ≤ c ∧ c ≤ 90 then c + 32 else c) else shifted lowercaseShifts c

/-- The lower case form among ASCII letters; other characters are their own. -/
def lowerAscii (c : Nat) : Nat := if 65 ≤ c ∧ c ≤ 90 then c + 32 else c

/-- The characters with the given lower case form. -/
def lowerOrigins (c : Nat) : List Nat :=
  (if lower c = c then [c] else []) ++ lowercaseShifts.filterMap (·.source? c)

/-- The other lower case characters that count as the same one. -/
def equivalents (c : Nat) : List Nat :=
  ((alikeLowercase.find? (·.1 == c)).map (·.2)).getD []

/-- Two characters are the same when case is ignored. -/
def alike (a b : Nat) : Bool :=
  lower a == lower b || (equivalents (lower a)).contains (lower b)

/-! ### Texts -/

/-- A capital sigma ends a word here: a cased character stands before it and none
follows, case-ignorable characters left out. -/
def endsWord (before after : List Char) : Bool :=
  let next := List.dropWhile fun c : Char => isCaseIgnorable c.toNat
  ((next before).head?.any fun c => isCased c.toNat)
    && !((next after).head?.any fun c => isCased c.toNat)

/-- The lower case form of one character in its context, the nearest character of
`before` first. -/
def lowerInContext (before : List Char) (c : Char) (after : List Char) : List Char :=
  if c = 'Σ' then [if endsWord before after then 'ς' else 'σ']
  else if c = 'İ' then ['i', '\u0307']
  else [Char.ofNat (lower c.toNat)]

def lowercaseFrom (before : List Char) : List Char → List Char
  | [] => []
  | c :: rest => lowerInContext before c rest ++ lowercaseFrom (c :: before) rest

def lowercase (s : String) : String := String.ofList (lowercaseFrom [] s.toList)

/-- The upper case form of one character, which can be several characters. -/
def upperChars (c : Char) : List Char :=
  match uppercaseExpansions.find? (·.1 == c.toNat) with
  | some (_, forms) => forms.map Char.ofNat
  | none => [Char.ofNat (shifted uppercaseShifts c.toNat)]

def uppercase (s : String) : String := String.ofList (s.toList.flatMap upperChars)

end Rulebook.Text
