/-!
# Reading decimal numbers

A decimal numeral is a sign, a string of digits and a power of ten. Here it is
turned into the nearest binary64 number; out of range it is an infinity or a
zero. The free form of numeral, as a search criterion writes it, also knows the
names of the infinities and of the number that is none.
-/

namespace CardInventory.Decimal

/-- The number a string of decimal digits spells, read from the left. -/
def natOfDigits (digits : List Char) : Nat :=
  digits.foldl (fun value digit => value * 10 + (digit.toNat - '0'.toNat)) 0

/-- How many decimal digits a number has. -/
def digitCount (value : Nat) : Nat :=
  (Nat.toDigits 10 value).length

/-- The binary64 number nearest to `digits · 10 ^ exponent`. Exponents far outside
the range of the format are settled before any power is formed. -/
def nearest (digits : Nat) (exponent : Int) : Float :=
  let magnitude : Int := digitCount digits + exponent
  if digits = 0 ∨ magnitude < -400 then 0.0
  else if 400 < magnitude then 1.0 / 0.0
  else Float.ofScientific digits (exponent < 0) exponent.natAbs

/-- Split a list of characters after its leading digits. -/
def spanDigits (cs : List Char) : List Char × List Char :=
  (cs.takeWhile Char.isDigit, cs.dropWhile Char.isDigit)

/-- An optional sign and the rest; true stands for a minus. -/
def spanSign : List Char → Bool × List Char
  | '-' :: rest => (true, rest)
  | '+' :: rest => (false, rest)
  | rest => (false, rest)

/-- A signed whole number without any other character, in the given range. -/
def integer? (low high : Int) (text : List Char) : Option Int :=
  let (negative, digits) := spanSign text
  if digits.isEmpty || !digits.all Char.isDigit then
    none
  else
    let value : Int := if negative then -(natOfDigits digits : Int) else natOfDigits digits
    if low ≤ value ∧ value ≤ high then some value else none

/-- The exponent part of a numeral, which must reach to its end. -/
def exponent? : List Char → Option Int
  | [] => some 0
  | mark :: rest =>
      if mark = 'e' ∨ mark = 'E' then
        let (negative, digits) := spanSign rest
        if digits.isEmpty || !digits.all Char.isDigit then
          none
        else
          some (if negative then -(natOfDigits digits : Int) else natOfDigits digits)
      else
        none

/-- An unsigned numeral: digits with at most one point, at least one digit, and
an optional exponent. -/
def magnitude? (text : List Char) : Option Float :=
  let (whole, rest) := spanDigits text
  let (places, tail) :=
    match rest with
    | '.' :: afterPoint => spanDigits afterPoint
    | _ => ([], rest)
  if whole.isEmpty && places.isEmpty then
    none
  else
    (exponent? tail).map fun exponent =>
      nearest (natOfDigits (whole ++ places)) (exponent - places.length)

/-- A number in free form: a numeral, or the name of an infinity or of no number,
in any letter case, with an optional sign. -/
def float? (text : List Char) : Option Float :=
  let (negative, unsigned) := spanSign text
  let name := String.ofList (unsigned.map Char.toLower)
  let value :=
    if name = "inf" ∨ name = "infinity" then some (1.0 / 0.0)
    else if name = "nan" then some (0.0 / 0.0)
    else magnitude? unsigned
  value.map fun x => if negative then -x else x

end CardInventory.Decimal
