import CardInventory.Text.Utf8

/-!
# Percent-encoding of URLs

Each part of a URL has a set of characters that may not stand in it as they are.
Such a character, and every one outside ASCII, is written byte by byte in UTF-8,
each byte as a percent sign and two upper-case hexadecimal digits. A percent
sign that is there already is kept.
-/

namespace CardInventory.Url

open CardInventory.Text

/-- A set of characters that are encoded. -/
abbrev EncodeSet := Char → Bool

/-- Controls and everything outside ASCII. -/
def controls : EncodeSet :=
  fun c => c.toNat < 0x20 || 0x7E < c.toNat

/-- The characters that are encoded in a fragment. -/
def fragmentSet : EncodeSet :=
  fun c => controls c || [' ', '"', '<', '>', Char.ofNat 0x60].contains c

/-- The characters that are encoded in a query; a quote is so only in special schemes. -/
def querySet (special : Bool) : EncodeSet :=
  fun c => controls c || [' ', '"', '#', '<', '>'].contains c || (special && c = '\'')

/-- The characters that are encoded in a path. -/
def pathSet : EncodeSet :=
  fun c => fragmentSet c || ['#', '?', '{', '}'].contains c

/-- The characters that are encoded in a user name or password. -/
def userSet : EncodeSet :=
  fun c => pathSet c || ['/', ':', ';', '=', '@', '[', '\\', ']', '^', '|'].contains c

/-- A byte as a percent sign and two digits. -/
def encodeByte (byte : UInt8) : List Char :=
  let upper := fun value => (Nat.digitChar value).toUpper
  ['%', upper (byte.toNat / 16), upper (byte.toNat % 16)]

/-- A text with the characters of a set encoded. -/
def encode (set : EncodeSet) (cs : List Char) : List Char :=
  cs.flatMap fun c => if set c then (bytesOf c.toString).flatMap encodeByte else [c]

end CardInventory.Url
