import CardInventory.Json.Basic

/-!
# Values of settings

Settings come from several sources as trees. A table keeps its entries in the
order of their names, each name once. Where two sources set the same thing the
later one wins; tables are joined entry by entry.
-/

namespace CardInventory

/-- A value of a setting before its type is known. -/
inductive Setting where
  | absent
  | flag (value : Bool)
  | integer (value : Int)
  | real (value : Float)
  | letter (value : Char)
  | text (value : String)
  | list (items : List Setting)
  | table (entries : List (String × Setting))

namespace Setting

/-- The value under a name among the entries of a table. -/
def lookup? (name : String) (entries : List (String × Setting)) : Option Setting :=
  (entries.find? fun entry => entry.1 = name).map Prod.snd

/-- Put a value in its place among the entries of a table, where it takes the place of
another one of its name. -/
def putEntry (name : String) (value : Setting) :
    List (String × Setting) → List (String × Setting)
  | [] => [(name, value)]
  | (other, kept) :: rest =>
      if name < other then (name, value) :: (other, kept) :: rest
      else if name = other then (name, value) :: rest
      else (other, kept) :: putEntry name value rest

/-- A table without entries. -/
def empty : Setting :=
  table []

mutual

/-- Lay a value over another one. -/
def overlay (base : Setting) : Setting → Setting
  | table entries =>
      match base with
      | table kept => table (overlayEntries kept entries)
      | _ => table entries
  | value => value

/-- Lay entries over those of a table. -/
def overlayEntries (kept : List (String × Setting)) :
    List (String × Setting) → List (String × Setting)
  | [] => kept
  | (name, value) :: rest =>
      let joined :=
        match lookup? name kept with
        | some base => overlay base value
        | none => value
      overlayEntries (putEntry name joined kept) rest

end

/-- A value under the names that lead to it. -/
def nested : List String → Setting → Setting
  | [], value => value
  | name :: rest, value => table [(name, nested rest value)]

mutual

/-- The setting a JSON value stands for. -/
def ofJson : Json → Setting
  | .null => absent
  | .flag value => flag value
  | .integer value => integer value
  | .real value => real value
  | .text value => text value
  | .array items => list (ofItems items)
  | .object members => table (ofMembers [] members)

/-- The settings the items of an array stand for. -/
def ofItems : List Json → List Setting
  | [] => []
  | item :: rest => ofJson item :: ofItems rest

/-- The entries the members of an object stand for, put among others. -/
def ofMembers (kept : List (String × Setting)) :
    List (String × Json) → List (String × Setting)
  | [] => kept
  | (name, value) :: rest => ofMembers (putEntry name (ofJson value) kept) rest

end

end Setting

end CardInventory
