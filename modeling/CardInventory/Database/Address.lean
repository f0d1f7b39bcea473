import CardInventory.Text.Utf8
import CardInventory.Url.Basic
import CardInventory.Width

/-!
# The address of a database

A database is reached at the address that a URL gives. Whatever its scheme, the
parts of the URL that name somebody or something must be texts, and the
parameters that a connection knows must have values it understands; parameters
it does not know are passed over.
-/

namespace CardInventory.Database

open CardInventory.Text CardInventory.Decimal

/-- How a connection is protected. -/
def protections : List String :=
  ["disable", "allow", "prefer", "require", "verify-ca", "verify-full"]

/-- A whole number without a minus sign, of so many bits. -/
def isCount (bits : Nat) (value : String) : Bool :=
  value.toList.head? ≠ some '-' && (integer? 0 (Width.greatestUnsigned bits) value.toList).isSome

/-- Whether a text is an address of 32 bits in four decimal parts. -/
def isNarrowAddress (value : String) : Bool :=
  let parts := splitAt '.' value.toList
  parts.length = 4 && parts.all fun part =>
    part.all Char.isDigit && (part.length = 1 || part.head? ≠ some '0') &&
      (integer? 0 255 part).isSome

/-- Whether a text is the address of a machine. -/
def isMachineAddress (value : String) : Bool :=
  isNarrowAddress value || (Url.wideAddress? value.toList).isSome

/-- Whether a parameter has a value that a connection understands. -/
def acceptsParameter (name value : String) : Bool :=
  if name = "sslmode" ∨ name = "ssl-mode" then
    protections.contains (String.ofList (value.toList.map Char.toLower))
  else if name = "statement-cache-capacity" then isCount 64 value
  else if name = "port" then isCount 16 value
  else if name = "hostaddr" then isMachineAddress value
  else true

/-- The text that a part of a URL stands for. -/
def decodedText? (part : List Char) : Option String :=
  decodeStrict (percentDecode (bytesOf (String.ofList part)))

/-- Whether the host of a URL can be used: one that begins with a slash is a path, which
must be a text. -/
def acceptsHost (host : List Char) : Bool :=
  (percentDecode (bytesOf (String.ofList host))).head? ≠ some 0x2F || (decodedText? host).isSome

/-- Whether a URL gives the address of a database. -/
def acceptsUrl (url : Url) : Bool :=
  url.host.all acceptsHost &&
    (decodedText? url.user).isSome &&
    url.password.all (fun password => (decodedText? password).isSome) &&
    (decodedText? (url.path.dropWhile (· = '/'))).isSome &&
    (formPairs (bytesOf (String.ofList (url.query.getD [])))).all fun (name, value) =>
      acceptsParameter name value

/-- The address of a database. -/
structure Address where
  url : Url
  accepted : acceptsUrl url = true

/-- The address that the text of a URL gives. -/
def Address.parse? (text : String) : Option Address := do
  let url ← Url.parse? text
  if accepted : acceptsUrl url = true then some ⟨url, accepted⟩ else none

end CardInventory.Database
