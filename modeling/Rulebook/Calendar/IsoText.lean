import Rulebook.Calendar.Date

/-!
Dates and times as text.

A date is `YYYY-MM-DD`, `YYYYMMDD`, or a week of a year with or without a day. After a
date and any one character a time may follow, with colons or without them, and after the
time a `Z` or a signed offset. Texts are read as bytes; behind the end stands a zero.

Reading is lenient in some places: a date of seven, eight or ten bytes may be followed by
bytes that it does not need, and what stands between the seconds and an offset counts
only where the fraction is read from it.
-/

namespace Rulebook.Calendar

abbrev Bytes := Array Nat

def byteAt (text : Bytes) (i : Nat) : Nat := text.getD i 0

def isDigitByte (c : Nat) : Bool := 48 ≤ c && c ≤ 57

def digitsAt (text : Bytes) (start : Nat) : Nat → Option Nat
  | 0 => some 0
  | count + 1 => do
      let high ← digitsAt text start count
      let c := byteAt text (start + count)
      if isDigitByte c then some (10 * high + (c - 48)) else none

/-- The place of the first byte from `start` on that is no digit. -/
def afterDigits (text : Bytes) (start : Nat) : Nat :=
  start + ((text.toList.drop start).takeWhile isDigitByte).length

/-! ### Dates -/

def hyphen : Nat := 45
def colon : Nat := 58
def weekMark : Nat := 87

/-- The rest of a week date whose week starts at `p`; without a day it is a Monday. -/
def weekDateAt (text : Bytes) (size p year : Nat) (separated : Bool) : Bool :=
  match digitsAt text p 2 with
  | none => false
  | some week =>
      if p + 2 < size then
        if separated && byteAt text (p + 2) != hyphen then false
        else
          match digitsAt text (if separated then p + 3 else p + 2) 1 with
          | some day => isWeekDate year week day
          | none => false
      else isWeekDate year week 1

/-- The rest of a date whose month starts at `p`. -/
def monthDateAt (text : Bytes) (p year : Nat) (separated : Bool) : Bool :=
  if separated && byteAt text (p + 2) != hyphen then false
  else
    match digitsAt text p 2, digitsAt text (if separated then p + 3 else p + 2) 2 with
    | some month, some day => isDate year month day
    | _, _ => false

/-- A date stands at the start of the text; `size` is how long the date may be. -/
def dateAtStart (text : Bytes) (size : Nat) : Bool :=
  match digitsAt text 0 4 with
  | none => false
  | some year =>
      let separated := byteAt text 4 == hyphen
      let p := if separated then 5 else 4
      if byteAt text p == weekMark then weekDateAt text size (p + 1) year separated
      else monthDateAt text p year separated

def isDateText (text : Bytes) : Bool :=
  (text.size == 7 || text.size == 8 || text.size == 10) && dateAtStart text text.size

/-! ### Times -/

/-- A time as it was read. `trailing` says that the text did not end with it. -/
structure Clock where
  hour : Nat
  minute : Nat
  second : Nat
  microsecond : Nat
  trailing : Bool
deriving DecidableEq

/-- How the parts of a time end: with the text, or with a fraction at a place. -/
inductive ClockEnd where
  | ended (trailing : Bool)
  | fraction (start : Nat)

def clockParts (text : Bytes) (stop : Nat) :
    Nat → Nat → Option Bool → List Nat → Option (List Nat × ClockEnd)
  | 0, p, _, parts => some (parts, .fraction p)
  | left + 1, p, separated?, parts => do
      let part ← digitsAt text p 2
      let parts := parts ++ [part]
      let c := byteAt text (p + 2)
      let separated := separated?.getD (c == colon)
      if stop ≤ p + 3 then some (parts, .ended (c != 0))
      else if separated && c == colon then clockParts text stop left (p + 3) separated parts
      else if c == 46 || c == 44 then some (parts, .fraction (p + 3))
      else if !separated then clockParts text stop left (p + 2) separated parts
      else none

-- `^` is the core library's power, also where another one is declared for the same types.
attribute [local instance (2000)] instPowNat

/-- A fraction of a second: at most six digits count. -/
def fractionAt (text : Bytes) (start stop : Nat) : Option (Nat × Bool) := do
  let count := min (stop - start) 6
  let digits ← digitsAt text start count
  let after := afterDigits text (start + count)
  some (digits * 10 ^ (6 - count), byteAt text after != 0)

def clockAt (text : Bytes) (start stop : Nat) : Option Clock := do
  let (parts, finish) ← clockParts text stop 3 start none []
  let hour := parts.getD 0 0
  let minute := parts.getD 1 0
  let second := parts.getD 2 0
  match finish with
  | .ended trailing => some ⟨hour, minute, second, 0, trailing⟩
  | .fraction p =>
      let (microsecond, trailing) ← fractionAt text p stop
      some ⟨hour, minute, second, microsecond, trailing⟩

/-- An offset is shorter than a day. -/
def isOffset (c : Clock) : Bool :=
  let seconds := c.hour * 3600 + c.minute * 60 + c.second
  !c.trailing && (seconds == 0 || seconds * 1000000 + c.microsecond < 86400000000)

def isZoneMark (c : Nat) : Bool := c == 43 || c == 45 || c == 90

/-- A time with an optional zone stands from `start` to the end of the text. -/
def timeAt (text : Bytes) (start : Nat) : Bool :=
  let zone := start + ((text.toList.drop start).takeWhile (!isZoneMark ·)).length
  match clockAt text start zone with
  | none => false
  | some c =>
      isTime c.hour c.minute c.second &&
        if text.size ≤ zone then !c.trailing
        else if byteAt text zone == 90 then byteAt text (zone + 1) == 0
        else (clockAt text (zone + 1) text.size).any isOffset

/-! ### Date and time -/

/-- Where the date of a text ends that holds a time as well. Two forms of a week date can
only be told apart by what follows. -/
def separatorPlace (text : Bytes) : Nat :=
  let size := text.size
  if size = 7 then 7
  else if byteAt text 4 == hyphen then
    if byteAt text 5 == weekMark then
      if 8 < size && byteAt text 8 == hyphen then
        if 10 < size && isDigitByte (byteAt text 10) then 8 else 10
      else 8
    else 10
  else if byteAt text 4 == weekMark then
    let digits := afterDigits text 7
    if digits < 9 then digits else if digits % 2 = 0 then 7 else 8
  else 8

/-- How many bytes the character takes that starts with this byte. -/
def characterSize (first : Nat) : Nat :=
  if first < 0x80 then 1
  else if first / 16 = 14 then 3
  else if first / 16 = 15 then 4
  else 2

def isDateTimeText (text : Bytes) : Bool :=
  let place := separatorPlace text
  dateAtStart text place &&
    (text.size ≤ place || timeAt text (place + characterSize (byteAt text place)))

def isIsoText (s : String) : Bool :=
  let text : Bytes := (s.toUTF8.toList.map UInt8.toNat).toArray
  isDateText text || isDateTimeText text

end Rulebook.Calendar
