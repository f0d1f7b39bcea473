import CardInventory.Decimal.Reading
import CardInventory.Width

/-!
# Shortest decimal text

A finite binary64 number stands for every real number that rounds to it. Among
the decimal numbers in that interval the shortest one is written, and of several
the one nearest to the number itself. The interval and the decimal grids are
compared in exact arithmetic of natural numbers.
-/

namespace CardInventory.Decimal

/-- A positive binary64 number as `mantissa · 2 ^ exponent`; `narrow` says that the
number below it is only half as far away as the one above. -/
structure Dyadic where
  mantissa : Nat
  exponent : Int
  narrow : Bool
  deriving DecidableEq

/-- The mantissa and exponent of the magnitude of a finite number. -/
def Dyadic.ofFloat (x : Float) : Dyadic :=
  let bits := x.toBits.toNat % Width.values 63
  let field : Nat := bits / Width.values 52
  let fraction : Nat := bits % Width.values 52
  if field = 0 then
    ⟨fraction, -1074, false⟩
  else
    ⟨Width.values 52 + fraction, (field : Int) - 1075, fraction = 0 && 1 < field⟩

/-- The product of `value` and `2 ^ power · 10 ^ shift` as a fraction. -/
def scaled (value : Nat) (power shift : Int) : Nat × Nat :=
  (value * Nat.pow 2 power.toNat * Nat.pow 10 shift.toNat,
    Nat.pow 2 (-power).toNat * Nat.pow 10 (-shift).toNat)

/-- The number of digits before the decimal point, or minus the number of zeros
after it, found by trying `fuel` powers of ten downwards from `top`. -/
def pointPosition (d : Dyadic) : Nat → Int → Int
  | 0, top => top
  | fuel + 1, top =>
      let (numerator, denominator) := scaled d.mantissa d.exponent (1 - top)
      if denominator ≤ numerator then top else pointPosition d fuel (top - 1)

/-- Whether `candidate · 10 ^ grid` rounds to the number. -/
def Dyadic.covers (d : Dyadic) (candidate : Nat) (grid : Int) : Bool :=
  let (unit, denominator) := scaled 1 (d.exponent - 2) (-grid)
  let value := candidate * denominator
  let low := (4 * d.mantissa - (if d.narrow then 1 else 2)) * unit
  let high := (4 * d.mantissa + 2) * unit
  if d.mantissa % 2 = 0 then low ≤ value && value ≤ high else low < value && value < high

/-- The best decimal number with the given grid, if one rounds to the number. -/
def Dyadic.onGrid? (d : Dyadic) (grid : Int) : Option Nat :=
  let (numerator, denominator) := scaled d.mantissa d.exponent (-grid)
  let below := numerator / denominator
  match d.covers below grid, d.covers (below + 1) grid with
  | true, false => some below
  | false, true => some (below + 1)
  | false, false => none
  | true, true =>
      let distance := numerator - below * denominator
      if 2 * distance < denominator ∨ (2 * distance = denominator ∧ below % 2 = 0) then
        some below
      else
        some (below + 1)

/-- The first grid, from coarse to fine, on which a decimal number rounds to the number. -/
def Dyadic.search (d : Dyadic) (point : Int) : Nat → Nat → Nat × Int
  | 0, digits => ((d.onGrid? (point - digits)).getD 0, point - digits)
  | fuel + 1, digits =>
      match d.onGrid? (point - digits) with
      | some value => (value, point - digits)
      | none => d.search point fuel (digits + 1)

/-- Remove the zeros at the end of a decimal number. -/
def stripZeros : Nat → Nat × Int → Nat × Int
  | 0, number => number
  | fuel + 1, (value, exponent) =>
      if value % 10 = 0 ∧ value ≠ 0 then stripZeros fuel (value / 10, exponent + 1)
      else (value, exponent)

/-- The digits and the power of ten of the shortest decimal number. -/
def shortest (x : Float) : Nat × Int :=
  let d := Dyadic.ofFloat x
  if d.mantissa = 0 then
    (0, 0)
  else
    stripZeros 20 (d.search (pointPosition d 700 310) 17 1)

/-- The text of a finite number: positional while the decimal point lies close to
the digits, with an exponent otherwise, and never without a sign of being a
real number. -/
def text (x : Float) : String :=
  let sign := if Width.values 63 ≤ x.toBits.toNat then "-" else ""
  let (value, exponent) := shortest x
  let digits := Nat.toDigits 10 value
  let count := digits.length
  let point : Int := count + exponent
  let body :=
    if value = 0 then "0.0".toList
    else if 0 ≤ exponent ∧ point ≤ 16 then
      digits ++ List.replicate exponent.toNat '0' ++ ['.', '0']
    else if 0 < point ∧ point ≤ 16 then
      digits.take point.toNat ++ '.' :: digits.drop point.toNat
    else if -5 < point ∧ point ≤ 0 then
      '0' :: '.' :: List.replicate (-point).toNat '0' ++ digits
    else
      let power := (toString (point - 1)).toList
      match digits with
      | [single] => single :: 'e' :: power
      | first :: rest => first :: '.' :: rest ++ 'e' :: power
      | [] => []
  sign ++ String.ofList body

end CardInventory.Decimal
