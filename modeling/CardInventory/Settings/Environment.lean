import CardInventory.Settings.Literal

/-!
# Settings from the environment

A variable whose name begins with the name of the service sets the value that
the rest of its name leads to; two underscores stand between the names of nested
tables. One variable of the database is known under its own name. Letter case
does not matter in names.
-/

namespace CardInventory.Settings

open CardInventory.Text

/-- The variables of a process, with their values. -/
abbrev Environment := List (String × String)

/-- What the names of the variables of the service begin with. -/
def variableStem : List Char :=
  "binderctl_".toList

/-- The variable of the database. -/
def databaseVariable : String :=
  "database_url"

/-- The names between separators of two underscores, or of a full stop. -/
def pathOf : List Char → List (List Char)
  | '_' :: '_' :: rest => [] :: pathOf rest
  | '.' :: rest => [] :: pathOf rest
  | c :: rest =>
      match pathOf rest with
      | part :: parts => (c :: part) :: parts
      | [] => [[c]]
  | [] => [[]]

/-- The value of a variable under the names that lead to it; a variable whose name has
an empty part sets nothing. -/
def settingOf? (path : List (List Char)) (value : String) : Option Setting :=
  if path.any List.isEmpty then none
  else some (.nested (path.map String.ofList) (Literal.parse value))

/-- The setting of a variable of the service. -/
def ofServiceVariable? (name value : String) : Option Setting :=
  let lower := (trimChars name.toList).map Char.toLower
  if variableStem.isPrefixOf lower then
    settingOf? (pathOf (trimChars (lower.drop variableStem.length))) value
  else
    none

/-- The setting of the variable of the database. -/
def ofDatabaseVariable? (name value : String) : Option Setting :=
  if String.ofList ((trimChars name.toList).map Char.toLower) = databaseVariable then
    settingOf? [databaseVariable.toList] value
  else
    none

/-- The settings of an environment: the variable of the database wins over those of
the service, and of two variables the later one. -/
def ofEnvironment (environment : Environment) : Setting :=
  (environment.filterMap (fun (name, value) => ofServiceVariable? name value) ++
    environment.filterMap (fun (name, value) => ofDatabaseVariable? name value)).foldl
    Setting.overlay .empty

end CardInventory.Settings
