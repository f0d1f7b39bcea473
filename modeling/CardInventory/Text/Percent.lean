import CardInventory.Text.Utf8

/-!
# Percent-encoded texts

In the parts of a URL a byte may be written as a percent sign and two
hexadecimal digits. A sign that is followed by anything else stands for itself.
In a form a plus sign stands for a space, and a form is a list of names and
values, separated by ampersands.
-/

namespace CardInventory.Text

/-- The value of a hexadecimal digit of either case. -/
def hexDigit? (byte : UInt8) : Option UInt8 :=
  if 0x30 ≤ byte && byte ≤ 0x39 then some (byte - 0x30)
  else if 0x41 ≤ byte && byte ≤ 0x46 then some (byte - 0x41 + 10)
  else if 0x61 ≤ byte && byte ≤ 0x66 then some (byte - 0x61 + 10)
  else none

/-- The byte that a percent sign and two digits stand for. -/
def escapedByte? (mark high low : UInt8) : Option UInt8 :=
  if mark == 0x25 then
    match hexDigit? high, hexDigit? low with
    | some high, some low => some (high * 16 + low)
    | _, _ => none
  else
    none

/-- The bytes a percent-encoded text stands for. -/
def percentDecode : Bytes → Bytes
  | mark :: high :: low :: rest =>
      match escapedByte? mark high low with
      | some byte => byte :: percentDecode rest
      | none => mark :: percentDecode (high :: low :: rest)
  | byte :: rest => byte :: percentDecode rest
  | [] => []

/-- Split a list at each occurrence of a separator; the parts are never fewer than one. -/
def splitAt {α : Type} [BEq α] (separator : α) : List α → List (List α)
  | [] => [[]]
  | item :: rest =>
      if item == separator then
        [] :: splitAt separator rest
      else
        match splitAt separator rest with
        | part :: parts => (item :: part) :: parts
        | [] => [[item]]

/-- Split a list before the first occurrence of a separator, which is dropped. -/
def cutAt {α : Type} [BEq α] (separator : α) (items : List α) : List α × Option (List α) :=
  (items.takeWhile (· != separator),
    match items.dropWhile (· != separator) with
    | [] => none
    | _ :: rest => some rest)

/-- A name or value of a form. -/
def formPart (bytes : Bytes) : String :=
  decodeLenient (percentDecode (bytes.map fun byte => if byte == 0x2B then 0x20 else byte))

/-- The names and values of a form. A part without an equals sign is a name with an
empty value, and an empty part is none. -/
def formPairs (bytes : Bytes) : List (String × String) :=
  ((splitAt 0x26 bytes).filter fun part => !part.isEmpty).map fun part =>
    let (name, value) := cutAt 0x3D part
    (formPart name, formPart (value.getD []))

end CardInventory.Text
