/-!
# JSON values

A JSON value as a tree. Whole numbers and other numbers are kept apart, because
a quantity is only ever read from the first kind, and an object keeps its
members in the order in which they were written, repeated names included.
-/

namespace CardInventory

/-- A JSON value. -/
inductive Json where
  | null
  | flag (value : Bool)
  | integer (value : Int)
  | real (value : Float)
  | text (value : String)
  | array (items : List Json)
  | object (members : List (String × Json))

namespace Json

/-- The members of an object; any other value has none. -/
def members : Json → List (String × Json)
  | object members => members
  | _ => []

/-- The items of an array; any other value has none. -/
def items : Json → List Json
  | array items => items
  | _ => []

/-- The last member of an object under a name. -/
def member? (value : Json) (name : String) : Option Json :=
  (value.members.reverse.find? fun member => member.1 = name).map Prod.snd

/-- The text of a JSON string. -/
def text? : Json → Option String
  | text value => some value
  | _ => none

/-- The value of a whole number. -/
def integer? : Json → Option Int
  | integer value => some value
  | _ => none

/-- A text, or null where there is none. -/
def ofText? (value : Option String) : Json :=
  value.elim null text

/-- A whole number, or null where there is none. -/
def ofInteger? (value : Option Int) : Json :=
  value.elim null integer

end Json

end CardInventory
