import CardInventory.Decimal.Reading
import CardInventory.Instant.Basic
import CardInventory.Text.Blank

/-!
# Reading instants

The text of an instant is a date, a time of day and an offset from UTC. Blanks
may stand in front of a number and around the marks between numbers, a year with
a sign may have any number of digits, and digits of a fraction beyond the ninth
are dropped. The sixtieth second of a minute is a leap second.
-/

namespace CardInventory.Instant

open CardInventory.Text CardInventory.Decimal


/-- A number of one up to `width` digits. -/
def digits? (width : Nat) (cs : List Char) : Option (Nat × List Char) :=
  let taken := (cs.take width).takeWhile Char.isDigit
  if taken.isEmpty then none else some (natOfDigits taken, cs.drop taken.length)

/-- A number after optional blanks. -/
def number? (width : Nat) (cs : List Char) : Option (Nat × List Char) :=
  digits? width (trimFront cs)

/-- A year after optional blanks: up to four digits, or any number after a sign. -/
def year? (cs : List Char) : Option (Int × List Char) :=
  match trimFront cs with
  | '-' :: rest => (digits? rest.length rest).map fun (value, tail) => (-(value : Int), tail)
  | '+' :: rest => (digits? rest.length rest).map fun (value, tail) => ((value : Int), tail)
  | rest => (digits? 4 rest).map fun (value, tail) => ((value : Int), tail)

/-- A mark after optional blanks. -/
def mark? (mark : Char) (cs : List Char) : Option (List Char) :=
  match trimFront cs with
  | c :: rest => if c = mark then some rest else none
  | [] => none

/-- The fraction of a second in nanoseconds, zero where there is none. -/
def fraction? : List Char → Option (Nat × List Char)
  | '.' :: rest =>
      (digits? 9 rest).map fun (value, tail) =>
        let count := (rest.take 9).takeWhile Char.isDigit |>.length
        (value * Nat.pow 10 (9 - count), tail.dropWhile Char.isDigit)
  | cs => some (0, cs)

/-- Two digits. -/
def twoDigits? : List Char → Option (Nat × List Char)
  | a :: b :: rest => if a.isDigit ∧ b.isDigit then some (natOfDigits [a, b], rest) else none
  | _ => none

/-- The sign of an offset. -/
def offsetSign? : List Char → Option (Int × List Char)
  | '+' :: rest => some (1, rest)
  | '-' :: rest => some (-1, rest)
  | '−' :: rest => some (-1, rest)
  | _ => none

/-- The offset from UTC in seconds. -/
def offset? (cs : List Char) : Option (Int × List Char) :=
  let rest := trimFront cs
  if (rest.take 3).map Char.toUpper = ['U', 'T', 'C'] then
    some (0, rest.drop 3)
  else
    match rest with
    | 'Z' :: tail => some (0, tail)
    | 'z' :: tail => some (0, tail)
    | _ => do
        let (sign, rest) ← offsetSign? rest
        let (hours, rest) ← twoDigits? rest
        let (minutes, rest) ← twoDigits? (rest.dropWhile fun c => c = ':' || isBlank c)
        if minutes < 60 ∧ hours < 24 then
          some (sign * ((hours * 3600 + minutes * 60 : Nat) : Int), rest)
        else
          none

/-- The mark between date and time of day. -/
def separator? : List Char → Option (List Char)
  | 't' :: rest => some rest
  | 'T' :: rest => some rest
  | ' ' :: rest => some rest
  | _ => none

/-- Whether the date of an instant lies in the calendar. -/
def inCalendar (instant : Instant) : Bool :=
  let year := (Date.ofDayNumber (instant.seconds / 86400)).year
  Date.firstYear ≤ year && year ≤ Date.lastYear

/-- The instant a list of characters spells. -/
def ofChars? (cs : List Char) : Option Instant := do
  let (year, cs) ← year? cs
  let cs ← mark? '-' cs
  let (month, cs) ← number? 2 cs
  let cs ← mark? '-' cs
  let (day, cs) ← number? 2 cs
  let cs ← separator? cs
  let (hour, cs) ← number? 2 cs
  let cs ← mark? ':' cs
  let (minute, cs) ← number? 2 cs
  let cs ← mark? ':' cs
  let (second, cs) ← number? 2 cs
  let (nanos, cs) ← fraction? cs
  let (offset, cs) ← offset? cs
  let date : Date := ⟨year, month, day⟩
  if (trimFront cs).isEmpty ∧ date.exists? ∧ hour < 24 ∧ minute < 60 ∧ second ≤ 60 then
    let leap := if second = 60 then 1 else 0
    let seconds := date.dayNumber * 86400 +
      ((hour * 3600 + minute * 60 + (second - leap) : Nat) : Int) - offset
    let instant : Instant := ⟨seconds, nanos + leap * 1000000000⟩
    if instant.inCalendar then some instant else none
  else
    none

/-- The instant a text spells. -/
def parse? (text : String) : Option Instant :=
  ofChars? text.toList

end CardInventory.Instant
