import CardInventory.Url.Host

/-!
# URLs

A URL as a browser understands it: a scheme, perhaps an authority, a path, and
perhaps a query and a fragment. Reading normalizes it: the scheme and the host
are in lower case, the usual port of a scheme is dropped, dots in the path are
resolved, and what may not stand in a part is percent-encoded. Only a text with
a scheme is a URL.
-/

namespace CardInventory

/-- A URL in its normal form. -/
structure Url where
  scheme : List Char
  user : List Char
  password : Option (List Char)
  host : Option (List Char)
  port : Option Nat
  path : List Char
  query : Option (List Char)
  fragment : Option (List Char)

namespace Url

open CardInventory.Text CardInventory.Decimal

/-- The special schemes and their usual ports. -/
def specialSchemes : List (String × Option Nat) :=
  [("http", some 80), ("https", some 443), ("ws", some 80), ("wss", some 443), ("ftp", some 21),
    ("file", none)]

/-- Whether a scheme is special. -/
def isSpecial (scheme : List Char) : Bool :=
  specialSchemes.any fun entry => entry.1.toList = scheme

/-- The usual port of a scheme. -/
def usualPort? (scheme : List Char) : Option Nat :=
  (specialSchemes.find? fun entry => entry.1.toList = scheme).bind Prod.snd

/-- The characters of a URL. -/
def chars (url : Url) : List Char :=
  let credentials :=
    match url.user, url.password with
    | [], none => []
    | user, none => user ++ ['@']
    | user, some password => user ++ ':' :: password ++ ['@']
  let authority :=
    match url.host with
    | some host =>
        '/' :: '/' :: credentials ++ host ++
          (url.port.elim [] fun port => ':' :: (toString port).toList)
    | none => if url.path.take 2 = ['/', '/'] then ['/', '.'] else []
  url.scheme ++ ':' :: authority ++ url.path ++ (url.query.elim [] ('?' :: ·)) ++
    (url.fragment.elim [] ('#' :: ·))

/-- The text of a URL. -/
def text (url : Url) : String :=
  String.ofList url.chars

/-! ## Reading -/

/-- The text without controls and spaces at its ends, and without breaks inside. -/
def cleaned (cs : List Char) : List Char :=
  let dropped := cs.dropWhile fun c => c.toNat ≤ 0x20
  let kept := (dropped.reverse.dropWhile fun c => c.toNat ≤ 0x20).reverse
  kept.filter fun c => !(['\t', '\n', '\r'].contains c)

/-- A letter of ASCII. -/
def isLetter (c : Char) : Bool :=
  c.isAlpha

/-- The scheme in front of the first colon, in lower case, and what follows. -/
def scheme? (cs : List Char) : Option (List Char × List Char) :=
  match cutAt ':' cs with
  | (c :: rest, some tail) =>
      if isLetter c && rest.all fun c => c.isAlphanum || ['+', '-', '.'].contains c then
        some ((c :: rest).map Char.toLower, tail)
      else none
  | _ => none

/-- Whether a segment is a dot, a part of which may be percent-encoded. -/
def isSingleDot (segment : List Char) : Bool :=
  [".".toList, "%2e".toList].contains (segment.map Char.toLower)

/-- Whether a segment is two dots, which may be percent-encoded. -/
def isDoubleDot (segment : List Char) : Bool :=
  ["..".toList, ".%2e".toList, "%2e.".toList, "%2e%2e".toList].contains (segment.map Char.toLower)

/-- Resolve the dots among the segments of a path; `done` is in reverse. -/
def resolve (done : List (List Char)) : List (List Char) → List (List Char)
  | [] => done.reverse
  | segment :: rest =>
      let isLast := rest.isEmpty
      if isDoubleDot segment then
        resolve (if isLast then [] :: done.tail else done.tail) rest
      else if isSingleDot segment then
        resolve (if isLast then [] :: done else done) rest
      else
        resolve (encode pathSet segment :: done) rest

/-- The path behind an authority or a slash. -/
def hierarchicalPath (special : Bool) (cs : List Char) : List Char :=
  let slashed := if special then cs.map fun c => if c = '\\' then '/' else c else cs
  let segments :=
    match slashed with
    | '/' :: rest => resolve [] (splitAt '/' rest)
    | [] => if special then [[]] else []
    | rest => resolve [] (splitAt '/' rest)
  segments.flatMap fun segment => '/' :: segment

/-- Whether a character ends the authority. -/
def endsAuthority (special : Bool) (c : Char) : Bool :=
  c = '/' || c = '?' || c = '#' || (special && c = '\\')

/-- Split a list before the last occurrence of a character, which is dropped. -/
def cutAtLast (mark : Char) (cs : List Char) : Option (List Char × List Char) :=
  match cutAt mark cs.reverse with
  | (after, some before) => some (before.reverse, after.reverse)
  | (_, none) => none

/-- The host and the port in an authority; a colon in brackets does not begin a port. -/
def splitPort (cs : List Char) : List Char × Option (List Char) :=
  let rec walk (inside : Bool) : List Char → List Char × Option (List Char)
    | [] => ([], none)
    | c :: rest =>
        if c = ':' && !inside then ([], some rest)
        else
          let inside := if c = '[' then true else if c = ']' then false else inside
          let (host, port) := walk inside rest
          (c :: host, port)
  walk false cs

/-- The port of an authority; the usual port of the scheme is dropped. -/
def port? (scheme : List Char) : Option (List Char) → Option (Option Nat)
  | none => some none
  | some [] => some none
  | some digits =>
      if digits.all Char.isDigit then
        let port := natOfDigits digits
        if 65535 < port then none
        else some (if usualPort? scheme = some port then none else some port)
      else none

/-- What precedes a query and a fragment, the query, and the fragment. -/
def splitTail (cs : List Char) : List Char × Option (List Char) × Option (List Char) :=
  let (front, fragment) := cutAt '#' cs
  let (path, query) := cutAt '?' front
  (path, query, fragment)

/-- Add the query and the fragment to a URL. -/
def withTail (special : Bool) (query fragment : Option (List Char)) (url : Url) : Url :=
  { url with
    query := query.map (encode (querySet special))
    fragment := fragment.map (encode fragmentSet) }

/-- A URL with an authority, of which `cs` holds what stands behind the slashes. -/
def withAuthority? (scheme cs : List Char) : Option Url := do
  let special := isSpecial scheme
  let authority := cs.takeWhile fun c => !endsAuthority special c
  let (path, query, fragment) := splitTail (cs.drop authority.length)
  let (credentials, address) :=
    match cutAtLast '@' authority with
    | some (credentials, address) => (some credentials, address)
    | none => (none, authority)
  let (user, password) := cutAt ':' (credentials.getD [])
  let (name, digits) := splitPort address
  let port ← port? scheme digits
  if name.isEmpty ∧ (special ∨ digits.isSome ∨ credentials.isSome) then
    none
  else
    let host ← if special then specialHost? name else plainHost? name
    some <| withTail special query fragment {
      scheme := scheme
      user := encode userSet user
      password := (password.filter fun password => !password.isEmpty).map (encode userSet)
      host := some host
      port := port
      path := hierarchicalPath special path
      query := none
      fragment := none }

/-- A URL of a file. -/
def ofFile? (scheme cs : List Char) : Option Url := do
  let isSlash := fun c => c = '/' || c = '\\'
  let (host, tail) :=
    match cs with
    | a :: b :: rest =>
        if isSlash a && isSlash b then
          let host := rest.takeWhile fun c => !endsAuthority true c
          (host, rest.drop host.length)
        else ([], cs)
    | _ => ([], cs)
  let (path, query, fragment) := splitTail tail
  let host ← if host.isEmpty then some [] else specialHost? host
  some <| withTail true query fragment {
    scheme := scheme
    user := []
    password := none
    host := some (if host = "localhost".toList then [] else host)
    port := none
    path := hierarchicalPath true path
    query := none
    fragment := none }

/-- A URL without an authority. -/
def withoutAuthority (scheme cs : List Char) : Url :=
  let (path, query, fragment) := splitTail cs
  withTail false query fragment {
    scheme := scheme
    user := []
    password := none
    host := none
    port := none
    path :=
      match path with
      | '/' :: _ => hierarchicalPath false path
      | _ => encode controls path
    query := none
    fragment := none }

/-- The URL a text spells. -/
def parse? (text : String) : Option Url := do
  let (scheme, rest) ← scheme? (cleaned text.toList)
  if scheme = "file".toList then
    ofFile? scheme rest
  else if isSpecial scheme then
    withAuthority? scheme (rest.dropWhile fun c => c = '/' || c = '\\')
  else
    match rest with
    | '/' :: '/' :: authority => withAuthority? scheme authority
    | _ => some (withoutAuthority scheme rest)

end Url

end CardInventory
