import Rulebook.Calendar.Date
import Rulebook.Number.Binary64

/-!
Moments, counted in microseconds from the start of 1970, and their text.

The text has the form `2024-03-01T10:15:00.123456+00:00`; the fraction is left out when
it is zero.
-/

namespace Rulebook.Calendar

structure Instant where
  micros : Int
deriving DecidableEq

namespace Instant

/-- The moment at a number of seconds. The fraction of a second is counted in
microseconds as a floating point product would be, and a half goes to the even one. -/
def ofSeconds? : Binary64 → Option Instant
  | .finite negative units _ =>
      let rest := units % Binary64.unitsPerOne
      let product := Binary64.nearestUnits (rest * 1000000) 1
      let fraction := Binary64.nearestEven product Binary64.unitsPerOne
      let micros := units / Binary64.unitsPerOne * 1000000 + fraction
      some ⟨if negative then -(micros : Int) else micros⟩
  | _ => none

def padded (width n : Nat) : String :=
  let digits := toString n
  String.ofList (List.replicate (width - digits.length) '0') ++ digits

def text (t : Instant) : String :=
  let seconds := t.micros / 1000000
  let fraction := (t.micros % 1000000).toNat
  let (year, month, day) := ofDayNumber (epochDay + seconds / 86400).toNat
  let clock := (seconds % 86400).toNat
  padded 4 year ++ "-" ++ padded 2 month ++ "-" ++ padded 2 day ++ "T"
    ++ padded 2 (clock / 3600) ++ ":" ++ padded 2 (clock / 60 % 60) ++ ":"
    ++ padded 2 (clock % 60)
    ++ (if fraction = 0 then "" else "." ++ padded 6 fraction) ++ "+00:00"

end Instant

end Rulebook.Calendar
