/-!
# Media types

The media type of a body: a type, a subtype, an optional suffix behind the last
plus sign of the subtype, and parameters, which only need to be well-formed.
-/

namespace CardInventory.Api

/-- A media type without its parameters. -/
structure MediaType where
  type : String
  subtype : String
  suffix : Option String
  deriving DecidableEq, Repr

namespace MediaType

/-- The characters of a token besides letters and digits. -/
def tokenMarks : List Char :=
  "!#$%&'*+-.^_`|~".toList

/-- Whether a character may stand in a token. -/
def isTokenChar (c : Char) : Bool :=
  c.isAlphanum || tokenMarks.contains c

/-- Where the reading of parameters stands. -/
inductive Spot where
  | between
  | name
  | valueStart
  | value
  | quotedStart
  | quoted
  | afterQuoted
  deriving DecidableEq

/-- The spot behind a character, if the character may stand there. -/
def Spot.next? (spot : Spot) (c : Char) : Option Spot :=
  match spot with
  | between => if c = ' ' then some between else if isTokenChar c then some name else none
  | name => if c = '=' then some valueStart else if isTokenChar c then some name else none
  | valueStart => if c = '"' then some quotedStart else if isTokenChar c then some value else none
  | value => if c = ';' then some between else if isTokenChar c then some value else none
  | quotedStart => some quoted
  | quoted => if c = '"' then some afterQuoted else some quoted
  | afterQuoted => if c = ';' then some between else if c = ' ' then some afterQuoted else none

/-- Whether parameters may end at a spot. -/
def Spot.final : Spot → Bool
  | between => true
  | valueStart => true
  | value => true
  | afterQuoted => true
  | _ => false

/-- Whether parameters are well-formed. -/
def wellFormed (spot : Spot) : List Char → Bool
  | [] => spot.final
  | c :: rest =>
      match spot.next? c with
      | some spot => wellFormed spot rest
      | none => false

/-- Split a subtype at its last plus sign, unless that comes first. -/
def splitSuffix (subtype : List Char) : List Char × Option (List Char) :=
  let suffix := (subtype.reverse.takeWhile (· ≠ '+')).reverse
  let stem := subtype.take (subtype.length - suffix.length - 1)
  if suffix.length = subtype.length ∨ stem.isEmpty then (subtype, none) else (stem, some suffix)

/-- The media type a text spells. -/
def parse? (text : String) : Option MediaType :=
  let cs := text.toList.map Char.toLower
  let type := cs.takeWhile isTokenChar
  match cs.drop type.length with
  | '/' :: rest =>
      let subtype := rest.takeWhile isTokenChar
      let tail := rest.drop subtype.length
      let (stem, suffix) := splitSuffix subtype
      let parameters :=
        match tail with
        | [] => true
        | c :: tail => (c = ';' || c = ' ') && wellFormed .between tail
      if type.isEmpty || (subtype.isEmpty && !tail.isEmpty) ||
          !cs.all (fun c => 0x20 ≤ c.toNat && c.toNat < 0x7F) || !parameters then
        none
      else
        some ⟨String.ofList type, String.ofList stem, suffix.map String.ofList⟩
  | _ => none

/-- Whether bodies of a media type are JSON. -/
def isJson (mediaType : MediaType) : Bool :=
  mediaType.type = "application" &&
    (mediaType.subtype = "json" || mediaType.suffix = some "json")

end MediaType

end CardInventory.Api
