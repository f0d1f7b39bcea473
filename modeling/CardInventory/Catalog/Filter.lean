import CardInventory.Catalog.Card
import CardInventory.Text.LowerCase

/-!
# Searching the catalog

A filter is a conjunction of criteria. Texts are compared without regard to
letter case: a name, a rules text and a type line need only contain the text
asked for, a rarity and a set code must equal it. The criteria on faces must all
hold on one and the same face.
-/

namespace CardInventory

open CardInventory.Text

/-- The criteria of a search; one that is absent always holds. -/
structure Filter where
  name : Option String
  rulesText : Option String
  rarity : Option String
  setCode : Option String
  manaValue : Option Float
  typeLine : Option String
  deriving Inhabited

namespace Filter

/-- A text criterion without its blank ends; a blank one is dropped. -/
def criterion (value : Option String) : Option String :=
  (value.map trim).filter fun text => !text.isEmpty

/-- Trim the text criteria and drop the blank ones. -/
def normalized (filter : Filter) : Filter where
  name := criterion filter.name
  rulesText := criterion filter.rulesText
  rarity := criterion filter.rarity
  setCode := criterion filter.setCode
  manaValue := filter.manaValue
  typeLine := criterion filter.typeLine

/-- Whether a value contains a text, letter case aside. An absent value contains none. -/
def contains (value : Option String) (text : String) : Bool :=
  value.any fun whole => occursIn (lowerChars text.toList) (lowerChars whole.toList)

/-- Whether a value equals a text, letter case aside. An absent value equals none. -/
def equals (value : Option String) (text : String) : Bool :=
  value.any fun whole => lowerChars whole.toList == lowerChars text.toList

/-- Whether any criterion concerns the faces of a printing. -/
def concernsFaces (filter : Filter) : Bool :=
  filter.rulesText.isSome || filter.manaValue.isSome || filter.typeLine.isSome

/-- Whether a face meets all criteria on faces. -/
def matchesFace (filter : Filter) (face : Face) : Bool :=
  filter.rulesText.all (contains face.rulesText) &&
    filter.manaValue.all (fun value => face.manaValue.any (· == value)) &&
    filter.typeLine.all (contains face.typeLine)

/-- Whether a printing meets all criteria. -/
def matchesCard (filter : Filter) (card : CardDraft) : Bool :=
  filter.name.all (contains (some card.name)) &&
    filter.rarity.all (equals card.rarity) &&
    filter.setCode.all (equals card.setCode) &&
    (!filter.concernsFaces || card.faces.any filter.matchesFace)

end Filter

/-- A page of the printings that meet a filter. -/
structure Search where
  filter : Filter
  skip : Int
  limit : Int
  deriving Inhabited

/-- A page of the printings that meet the criteria as a user wrote them. -/
def Search.ofCriteria (filter : Filter) (skip limit : Int) : Search :=
  ⟨filter.normalized, skip, limit⟩

/-- The items of a page of an ordered list; a negative number counts as zero. -/
def Search.page {α : Type} (search : Search) (items : List α) : List α :=
  (items.drop search.skip.toNat).take search.limit.toNat

end CardInventory
