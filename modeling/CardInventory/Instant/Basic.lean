import CardInventory.Instant.Calendar

/-!
# Instants

A point of time in UTC: the second it falls into, counted from the beginning of
1970, and the nanoseconds that have passed since that second began. In a leap
second the count of nanoseconds goes on beyond one second.
-/

namespace CardInventory

/-- A point of time in UTC. -/
structure Instant where
  seconds : Int
  nanos : Nat
  deriving DecidableEq, Repr, Inhabited

namespace Instant

/-- Whether one instant is earlier than another. -/
def earlier (left right : Instant) : Bool :=
  left.seconds < right.seconds || (left.seconds = right.seconds && left.nanos < right.nanos)

/-- A number with leading zeros up to a width. -/
def padded (width value : Nat) : List Char :=
  let digits := Nat.toDigits 10 value
  List.replicate (width - digits.length) '0' ++ digits

/-- A year: four digits, and a sign where it has more or lies before year zero. -/
def yearChars (year : Int) : List Char :=
  if 0 ≤ year ∧ year ≤ 9999 then padded 4 year.toNat
  else (if year < 0 then '-' else '+') :: padded 4 year.natAbs

/-- The digits of a fraction of a second, as many groups of three as it needs. -/
def fractionChars (nanos : Nat) : List Char :=
  if nanos = 0 then []
  else if nanos % 1000000 = 0 then '.' :: padded 3 (nanos / 1000000)
  else if nanos % 1000 = 0 then '.' :: padded 6 (nanos / 1000)
  else '.' :: padded 9 nanos

/-- The characters of an instant: date, time of day and the mark of UTC. -/
def chars (instant : Instant) : List Char :=
  let date := Date.ofDayNumber (instant.seconds / 86400)
  let time := (instant.seconds % 86400).toNat
  let leap := if 1000000000 ≤ instant.nanos then 1 else 0
  yearChars date.year ++ '-' :: padded 2 date.month ++ '-' :: padded 2 date.day ++
    'T' :: padded 2 (time / 3600) ++ ':' :: padded 2 (time / 60 % 60) ++
    ':' :: padded 2 (time % 60 + leap) ++ fractionChars (instant.nanos % 1000000000) ++ ['Z']

/-- The text of an instant. -/
def text (instant : Instant) : String :=
  String.ofList instant.chars

end Instant

end CardInventory
