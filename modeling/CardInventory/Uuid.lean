import CardInventory.Width

/-!
# Identifiers

Users, cards and decks are named by 128-bit identifiers. The canonical text has
five groups of lower-case hexadecimal digits. A reader also accepts the 32
digits without hyphens, the canonical form in braces, and the same as a name in
the `urn:uuid:` space, in letters of either case.
-/

namespace CardInventory

/-- A 128-bit identifier. -/
structure Uuid where
  bits : BitVec 128
  deriving DecidableEq, Inhabited

namespace Uuid

/-- The identifier as a number; identifiers are ordered by it. -/
def rank (id : Uuid) : Nat :=
  id.bits.toNat

/-- The identifier with the given number. -/
def ofNat (number : Nat) : Uuid :=
  ⟨BitVec.ofNat 128 number⟩

theorem rank_injective {left right : Uuid} (ranks : left.rank = right.rank) : left = right := by
  cases left
  cases right
  exact congrArg Uuid.mk (BitVec.eq_of_toNat_eq ranks)

/-- The identifier whose bits are all zero, the least of all. -/
def zero : Uuid :=
  ofNat 0

/-- The identifier with the random bits of a number: the version, in the seventh byte,
is four, and the variant, in the ninth, is the usual one. -/
def ofRandom (bits : Nat) : Uuid :=
  let low := bits % Width.values 62
  let middle := bits / Width.values 62 % Width.values 12
  let high := bits / Width.values 74 % Width.values 48
  ofNat (high * Width.values 80 + 4 * Width.values 76 + middle * Width.values 64 +
    2 * Width.values 62 + low)

/-- The last `width` hexadecimal digits of a number. -/
def hexDigits : Nat → Nat → List Char
  | 0, _ => []
  | width + 1, number => hexDigits width (number / 16) ++ [Nat.digitChar (number % 16)]

/-- The lengths of the groups of the canonical text. -/
def groups : List Nat :=
  [8, 4, 4, 4, 12]

/-- Cut a list of digits into groups with hyphens between them. -/
def hyphenate : List Nat → List Char → List Char
  | [], digits => digits
  | [_], digits => digits
  | width :: rest, digits => digits.take width ++ '-' :: hyphenate rest (digits.drop width)

/-- The characters of the canonical text. -/
def chars (id : Uuid) : List Char :=
  hyphenate groups (hexDigits 32 id.rank)

/-- The canonical text. -/
def text (id : Uuid) : String :=
  String.ofList id.chars

/-- The first group of the canonical text, which names an identifier in messages. -/
def abbreviation (id : Uuid) : String :=
  String.ofList (id.chars.take 8)

instance : ToString Uuid :=
  ⟨text⟩

/-- The value of a hexadecimal digit of either case. -/
def digit? (c : Char) : Option Nat :=
  if c.isDigit then some (c.toNat - '0'.toNat)
  else if 'a' ≤ c ∧ c ≤ 'f' then some (c.toNat - 'a'.toNat + 10)
  else if 'A' ≤ c ∧ c ≤ 'F' then some (c.toNat - 'A'.toNat + 10)
  else none

/-- The identifier spelt by 32 hexadecimal digits. -/
def ofDigits? (digits : List Char) : Option Uuid :=
  if digits.length = 32 then
    (digits.mapM digit?).map fun values =>
      ofNat (values.foldl (fun number value => number * 16 + value) 0)
  else
    none

/-- Remove the hyphens between the groups; each must stand in its place. -/
def joinGroups? : List Nat → List Char → Option (List Char)
  | [], cs => some cs
  | [_], cs => some cs
  | width :: rest, cs =>
      match cs.drop width with
      | '-' :: tail => (joinGroups? rest tail).map (cs.take width ++ ·)
      | _ => none

/-- The identifier spelt with hyphens. -/
def ofHyphenated? (cs : List Char) : Option Uuid :=
  if cs.length = 36 then
    (joinGroups? groups cs).bind ofDigits?
  else
    none

/-- The name space in front of an identifier written as a name. -/
def nameSpace : List Char :=
  "urn:uuid:".toList

/-- The identifier a list of characters spells. -/
def ofChars? (cs : List Char) : Option Uuid :=
  if cs.length = 32 then
    ofDigits? cs
  else if cs.length = 36 then
    ofHyphenated? cs
  else if cs.length = 38 then
    if cs.head? = some '{' ∧ cs.getLast? = some '}' then ofHyphenated? (cs.tail.take 36) else none
  else if cs.length = 45 ∧ (cs.take 9).map Char.toLower = nameSpace then
    ofHyphenated? (cs.drop 9)
  else
    none

/-- The identifier a text spells. -/
def parse? (text : String) : Option Uuid :=
  ofChars? text.toList

end Uuid

end CardInventory
