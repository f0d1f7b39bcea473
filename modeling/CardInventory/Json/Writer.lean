import CardInventory.Decimal.Shortest
import CardInventory.Json.Basic

/-!
# Writing JSON

The compact text of a value: no white space, members in their order, and in a
string only the characters escaped that must not stand there as they are. A
number that is not finite has no JSON text and is written as null.
-/

namespace CardInventory.Json

/-- A lower-case hexadecimal digit. -/
def hexDigit (value : Nat) : Char :=
  (Nat.digitChar value)

/-- The spelling of a character inside a string. -/
def escape (c : Char) : List Char :=
  if c = '"' then ['\\', '"']
  else if c = '\\' then ['\\', '\\']
  else if c = '\n' then ['\\', 'n']
  else if c = '\r' then ['\\', 'r']
  else if c = '\t' then ['\\', 't']
  else if c.toNat = 0x08 then ['\\', 'b']
  else if c.toNat = 0x0C then ['\\', 'f']
  else if c.toNat < 0x20 then
    ['\\', 'u', '0', '0', hexDigit (c.toNat / 16), hexDigit (c.toNat % 16)]
  else [c]

/-- A string between its quotes. -/
def quote (cs : List Char) : List Char :=
  '"' :: cs.flatMap escape ++ ['"']

/-- The digits of a whole number, with a minus in front of a negative one. -/
def integerChars : Int → List Char
  | .ofNat value => Nat.toDigits 10 value
  | .negSucc value => '-' :: Nat.toDigits 10 (value + 1)

/-- A number that may not be whole. -/
def realChars (value : Float) : List Char :=
  if value.isFinite then (Decimal.text value).toList else "null".toList

mutual

/-- The characters of a value. -/
def chars : Json → List Char
  | null => "null".toList
  | flag true => "true".toList
  | flag false => "false".toList
  | integer value => integerChars value
  | real value => realChars value
  | text value => quote value.toList
  | array items => '[' :: itemChars items ++ [']']
  | object members => '{' :: memberChars members ++ ['}']

/-- The characters of the items of an array, with commas between them. -/
def itemChars : List Json → List Char
  | [] => []
  | [item] => chars item
  | item :: rest => chars item ++ ',' :: itemChars rest

/-- The characters of the members of an object, with commas between them. -/
def memberChars : List (String × Json) → List Char
  | [] => []
  | [(name, value)] => quote name.toList ++ ':' :: chars value
  | (name, value) :: rest => quote name.toList ++ ':' :: chars value ++ ',' :: memberChars rest

end

/-- The compact text of a value. -/
def render (value : Json) : String :=
  String.ofList value.chars

end CardInventory.Json
