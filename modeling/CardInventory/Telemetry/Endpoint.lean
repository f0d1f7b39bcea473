import CardInventory.Text.Percent

/-!
# Endpoints

Traces are sent to an endpoint: a path, an authority on its own, or a scheme
with an authority and perhaps a path and a query behind it. The authority may
carry credentials, in which any character may be percent-encoded, and an address
of 128 bits in brackets. A fragment is not looked at.
-/

namespace CardInventory.Telemetry.Endpoint

open CardInventory.Text

/-! ## Authorities -/

/-- The marks that may stand in an authority. -/
def authorityMarks : List Char :=
  "!#$&'()*+,-./:;=?@[]_~".toList

/-- What has been seen of an authority. Colons and percent signs count from the end of
the credentials, or of the brackets, on. -/
structure Authority where
  colons : Nat
  opened : Bool
  closed : Bool
  escaped : Bool
  endsCredentials : Bool

namespace Authority

/-- Nothing has been seen. -/
def start : Authority :=
  ⟨0, false, false, false, false⟩

/-- The most colons there are in an address of 128 bits with a port. -/
def mostColons : Nat :=
  8

/-- See one more character, unless it cannot stand here. -/
def next? (seen : Authority) (c : Char) : Option Authority :=
  let seen := { seen with endsCredentials := c = '@' }
  if c = ':' then
    if seen.colons < mostColons then some { seen with colons := seen.colons + 1 } else none
  else if c = '[' then
    if seen.escaped || seen.opened then none else some { seen with opened := true }
  else if c = ']' then
    if seen.opened && !seen.closed then
      some { seen with closed := true, colons := 0, escaped := false }
    else none
  else if c = '@' then some { seen with colons := 0, escaped := false }
  else if c = '%' then some { seen with escaped := true }
  else if c.isAlphanum || authorityMarks.contains c then some seen
  else none

/-- Whether an authority may end here. -/
def isComplete (seen : Authority) : Bool :=
  seen.opened == seen.closed && seen.colons ≤ 1 && !seen.endsCredentials && !seen.escaped

end Authority

/-- Whether characters form an authority, which may be empty. -/
def isAuthority (cs : List Char) : Bool :=
  match cs.foldlM Authority.next? .start with
  | some seen => seen.isComplete
  | none => false

/-- Whether a character ends an authority. -/
def endsAuthority (c : Char) : Bool :=
  c = '/' || c = '?' || c = '#'

/-! ## Paths and queries -/

/-- The visible characters that may not stand in a path. -/
def barredInPath : List Char :=
  ['<', '>', '\x60']

/-- The visible characters that may not stand in a query. -/
def barredInQuery : List Char :=
  ['"', '<', '>']

/-- Whether characters are visible and none of them is barred. -/
def allAllowed (barred cs : List Char) : Bool :=
  cs.all fun c => 0x20 < c.toNat && !barred.contains c

/-- Whether characters form a path with an optional query and fragment. -/
def isPath (cs : List Char) : Bool :=
  let (path, query) := cutAt '?' (cs.takeWhile (· ≠ '#'))
  allAllowed barredInPath path && allAllowed barredInQuery (query.getD [])

/-! ## Endpoints -/

/-- Whether a character may stand in a scheme. -/
def isSchemeChar (c : Char) : Bool :=
  c.isAlphanum || ['+', '-', '.', '~'].contains c

/-- The most characters of a scheme. -/
def longestScheme : Nat :=
  64

/-- The most bytes of an endpoint. -/
def longestEndpoint : Nat :=
  65534

/-- The scheme in front of a colon and two slashes, and what follows. -/
def splitScheme? (cs : List Char) : Option (List Char × List Char) :=
  let scheme := cs.takeWhile isSchemeChar
  match cs.drop scheme.length with
  | ':' :: '/' :: '/' :: rest => some (scheme, rest)
  | _ => none

/-- Whether characters that begin with no slash form an endpoint. -/
def isAddressed (cs : List Char) : Bool :=
  match splitScheme? cs with
  | some (scheme, rest) =>
      let authority := rest.takeWhile fun c => !endsAuthority c
      scheme.length ≤ longestScheme && !authority.isEmpty && isAuthority authority &&
        isPath (rest.drop authority.length)
  | none => cs.all (fun c => !endsAuthority c) && isAuthority cs

/-- Whether a text is an endpoint. -/
def isEndpoint (text : String) : Bool :=
  text.utf8ByteSize ≤ longestEndpoint &&
    match text.toList with
    | [] => false
    | ['*'] => true
    | '/' :: rest => isPath rest
    | cs => isAddressed cs

end CardInventory.Telemetry.Endpoint
