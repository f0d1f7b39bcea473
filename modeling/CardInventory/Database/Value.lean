import CardInventory.Uuid

/-!
# Values of the database

The values that are bound to the placeholders of a statement, and statements
that are put together from words and bound values. The placeholders of such a
statement are numbered in the order in which they appear.
-/

namespace CardInventory.Database

/-- A value that is bound to a placeholder. -/
inductive Value where
  | null
  | flag (value : Bool)
  | integer (value : Int)
  | real (value : Float)
  | text (value : String)
  | texts (values : List String)
  | uuid (value : Uuid)
  | uuids (values : List Uuid)

namespace Value

/-- A text, or null where there is none. -/
def ofText? (value : Option String) : Value :=
  value.elim null text

/-- A whole number, or null where there is none. -/
def ofInteger? (value : Option Int) : Value :=
  value.elim null integer

/-- A real number, or null where there is none. -/
def ofReal? (value : Option Float) : Value :=
  value.elim null real

end Value

/-- What is sent for a statement: its text and the values of its placeholders. -/
structure Written where
  text : String
  values : List Value

/-- A piece of a statement. -/
inductive Piece where
  | words (text : String)
  | bound (value : Value)

namespace Piece

/-- The text of a piece, and the number of the next placeholder. -/
def write (next : Nat) : Piece → String × Nat
  | words text => (text, next)
  | bound _ => (s!"${next}", next + 1)

/-- The text of several pieces, with placeholders numbered from `next`. -/
def writeAll (next : Nat) : List Piece → String
  | [] => ""
  | piece :: rest =>
      let (text, next) := piece.write next
      text ++ writeAll next rest

/-- The value a piece binds, if it binds one. -/
def value? : Piece → Option Value
  | words _ => none
  | bound value => some value

end Piece

/-- The statement that is put together from pieces. -/
def Written.ofPieces (pieces : List Piece) : Written :=
  ⟨Piece.writeAll 1 pieces, pieces.filterMap Piece.value?⟩

end CardInventory.Database
