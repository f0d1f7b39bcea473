import CardInventory.Collection.Binder
import CardInventory.Storage.Fault
import CardInventory.Width
import CardInventory.Zone

/-!
# Rows of the database

A row of a reply is read by the names of its columns, in whatever order they
come. A column that is missing, or whose value is not what the record needs, is
a fault of the storage that no rule of the inventory is concerned with.
-/

namespace CardInventory.Database

open CardInventory.Storage

/-- A value in a row. A zone comes as a text. -/
inductive Cell where
  | null
  | flag (value : Bool)
  | integer (value : Int)
  | real (value : Float)
  | text (value : String)
  | texts (values : List String)
  | uuid (value : Uuid)
  | instant (value : Instant)

namespace Cell

/-- A truth value. -/
def flag? : Cell → Option Bool
  | flag value => some value
  | _ => none

/-- A whole number of 32 bits. -/
def int32? : Cell → Option Int
  | integer value => if quantityFits value then some value else none
  | _ => none

/-- A whole number of 64 bits. -/
def int64? : Cell → Option Int
  | integer value => if Width.fits 64 value then some value else none
  | _ => none

/-- A real number. -/
def real? : Cell → Option Float
  | real value => some value
  | _ => none

/-- A text. -/
def text? : Cell → Option String
  | text value => some value
  | _ => none

/-- A list of texts. -/
def texts? : Cell → Option (List String)
  | texts values => some values
  | _ => none

/-- An identifier. -/
def uuid? : Cell → Option Uuid
  | uuid value => some value
  | _ => none

/-- An instant. -/
def instant? : Cell → Option Instant
  | instant value => some value
  | _ => none

/-- A zone. -/
def zone? (cell : Cell) : Option Zone :=
  cell.text?.bind Zone.named?

end Cell

/-- A row of a reply: its values with the names of their columns. -/
abbrev Row := List (String × Cell)

namespace Row

/-- A column does not hold what a record needs. -/
def unreadable (column : String) : Fault :=
  .other s!"column {column} cannot be read"

/-- The value of a column; of several with one name the last. -/
def cell? (row : Row) (column : String) : Option Cell :=
  (row.reverse.find? fun cell => cell.1 = column).map Prod.snd

/-- A value that must be there. -/
def required {α : Type} (row : Row) (column : String) (read : Cell → Option α) :
    Except Fault α :=
  match (row.cell? column).bind read with
  | some value => .ok value
  | none => .error (unreadable column)

/-- A value that may be null. -/
def nullable {α : Type} (row : Row) (column : String) (read : Cell → Option α) :
    Except Fault (Option α) :=
  match row.cell? column with
  | some .null => .ok none
  | _ => (row.required column read).map some

/-- The value of a query for a single value, which stands in the first column. -/
def single {α : Type} (row : Row) (read : Cell → Option α) : Except Fault α :=
  match row.head?.bind fun cell => read cell.2 with
  | some value => .ok value
  | none => .error (unreadable "1")

end Row

end CardInventory.Database
