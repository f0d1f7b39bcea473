import CardInventory.Catalog.Filter
import CardInventory.Decimal.Reading
import CardInventory.Text.Percent
import CardInventory.Width

/-!
# Query strings

A listing takes its criteria and its page from the query string. Names nobody
knows are ignored, and a known name may not be repeated. A page that is asked
for is brought into the allowed range and never refused for its size.
-/

namespace CardInventory.Api

open CardInventory.Text

/-- The page a client asks for. -/
structure Pagination where
  skip : Option Int
  limit : Option Int
  deriving DecidableEq

namespace Pagination

/-- The number of items of a page when none is asked for. -/
def defaultLimit : Int := 50

/-- The greatest number of items of a page. -/
def greatestLimit : Int := 500

/-- The number of items to leave out. -/
def effectiveSkip (page : Pagination) : Int :=
  max (page.skip.getD 0) 0

/-- The number of items of the page. -/
def effectiveLimit (page : Pagination) : Int :=
  max 1 (min (page.limit.getD defaultLimit) greatestLimit)

end Pagination

/-- What a listing is asked for. -/
structure ListQuery where
  filter : Filter
  page : Pagination

/-- The search a query stands for. -/
def ListQuery.search (query : ListQuery) : Search :=
  .ofCriteria query.filter query.page.effectiveSkip query.page.effectiveLimit

/-- The value under a name; none when the name is repeated. -/
def single? (pairs : List (String × String)) (name : String) : Option (Option String) :=
  match pairs.filter fun pair => pair.1 = name with
  | [] => some none
  | [(_, value)] => some (some value)
  | _ => none

/-- The value under a name as `read` reads it; none when it cannot be read. -/
def singleAs? {α : Type} (read : List Char → Option α) (pairs : List (String × String))
    (name : String) : Option (Option α) := do
  match ← single? pairs name with
  | none => some none
  | some value => (read value.toList).map some

/-- A 64-bit number. -/
def readInt64 (text : List Char) : Option Int :=
  Decimal.integer? (Width.least 64) (Width.greatest 64) text

/-- The query a query string spells. -/
def ListQuery.parse? (bytes : Bytes) : Option ListQuery := do
  let pairs := formPairs bytes
  let name ← single? pairs "name"
  let rulesText ← single? pairs "oracle_text"
  let rarity ← single? pairs "rarity"
  let setCode ← single? pairs "set_code"
  let manaValue ← singleAs? Decimal.float? pairs "cmc"
  let typeLine ← single? pairs "type_line"
  let skip ← singleAs? readInt64 pairs "skip"
  let limit ← singleAs? readInt64 pairs "limit"
  return ⟨⟨name, rulesText, rarity, setCode, manaValue, typeLine⟩, ⟨skip, limit⟩⟩

end CardInventory.Api
