import CardInventory.Catalog.Filter
import CardInventory.Database.Value

/-!
# Criteria of a search in the database

A filter as a condition on a row of the catalog. The criteria on faces stand
together in a subquery, so that one and the same face has to meet them all. Each
criterion of the filter binds one value, in the order of the conditions.
-/

namespace CardInventory.Database

/-- The columns that criteria are about. -/
inductive Column where
  | cardName
  | rarity
  | setCode
  | rulesText
  | manaValue
  | typeLine
  deriving DecidableEq

/-- The name of a column; `c` stands for a card and `f` for one of its faces. -/
def Column.name : Column → String
  | cardName => "c.name"
  | rarity => "c.rarity"
  | setCode => "c.set_code"
  | rulesText => "f.oracle_text"
  | manaValue => "f.cmc"
  | typeLine => "f.type_line"

/-- An expression over a row. -/
inductive Term where
  | column (named : Column)
  | bound (value : Value)
  | lower (inner : Term)
  | position (whole part : Term)
  | zero

/-- The pieces of an expression. -/
def Term.pieces : Term → List Piece
  | column named => [.words named.name]
  | bound value => [.bound value]
  | lower inner => .words "lower(" :: inner.pieces ++ [.words ")"]
  | position whole part =>
      .words "strpos(" :: whole.pieces ++ .words ", " :: part.pieces ++ [.words ")"]
  | zero => [.words "0"]

/-- A comparison of two expressions. -/
inductive Comparison where
  | equal (left right : Term)
  | greater (left right : Term)

/-- The pieces of a comparison. -/
def Comparison.pieces : Comparison → List Piece
  | equal left right => left.pieces ++ .words " = " :: right.pieces
  | greater left right => left.pieces ++ .words " > " :: right.pieces

namespace Comparison

/-- A column contains a text, letter case aside. -/
def contains (column : Column) (text : String) : Comparison :=
  .greater (.position (.lower (.column column)) (.lower (.bound (.text text)))) .zero

/-- A column equals a text, letter case aside. -/
def equals (column : Column) (text : String) : Comparison :=
  .equal (.lower (.column column)) (.lower (.bound (.text text)))

/-- A column equals a number. -/
def equalsReal (column : Column) (value : Float) : Comparison :=
  .equal (.column column) (.bound (.real value))

end Comparison

/-- A condition on a row of the catalog. -/
inductive Condition where
  /-- A comparison of the row itself. -/
  | holds (comparison : Comparison)
  /-- Some face of the row meets all comparisons. -/
  | someFace (comparisons : List Comparison)

/-- The pieces of comparisons that are appended to a condition. -/
def Comparison.conjoined (comparisons : List Comparison) : List Piece :=
  comparisons.flatMap fun comparison => .words " AND " :: comparison.pieces

/-- The pieces of a condition. -/
def Condition.pieces : Condition → List Piece
  | holds comparison => comparison.pieces
  | someFace comparisons =>
      .words "EXISTS (SELECT 1 FROM card_faces f WHERE f.card_id = c.id" ::
        Comparison.conjoined comparisons ++ [.words ")"]

/-- The comparisons of a row that a filter stands for. -/
def cardComparisons (filter : Filter) : List Comparison :=
  (filter.name.map (Comparison.contains .cardName)).toList ++
    (filter.rarity.map (Comparison.equals .rarity)).toList ++
    (filter.setCode.map (Comparison.equals .setCode)).toList

/-- The comparisons of a face that a filter stands for. -/
def faceComparisons (filter : Filter) : List Comparison :=
  (filter.rulesText.map (Comparison.contains .rulesText)).toList ++
    (filter.manaValue.map (Comparison.equalsReal .manaValue)).toList ++
    (filter.typeLine.map (Comparison.contains .typeLine)).toList

/-- The conditions a filter stands for. -/
def conditions (filter : Filter) : List Condition :=
  (cardComparisons filter).map .holds ++
    if filter.concernsFaces then [.someFace (faceComparisons filter)] else []

/-- The pieces of a filter, which are appended to the condition of a query over cards. -/
def criteria (filter : Filter) : List Piece :=
  (conditions filter).flatMap fun condition => .words " AND " :: condition.pieces

/-- The pieces of a query over the binder of a user; `columns` are selected. -/
def binderQuery (columns : String) (user : Uuid) (filter : Filter) : List Piece :=
  .words (columns ++
      " FROM binder_entries b JOIN cards c ON c.id = b.card_id WHERE b.user_id = ") ::
    .bound (.uuid user) :: criteria filter

end CardInventory.Database
