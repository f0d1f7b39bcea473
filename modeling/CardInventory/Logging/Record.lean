/-!
# Log records

A record says what has happened, where in the program, and how grave it is. It
may carry named values.
-/

namespace CardInventory.Logging

/-- How grave a record is. -/
inductive Level where
  | error
  | warn
  | info
  | debug
  | trace
  deriving DecidableEq, Repr

namespace Level

/-- All levels, the gravest first. -/
def all : List Level :=
  [error, warn, info, debug, trace]

/-- The position of a level, from 1 for the gravest. -/
def rank : Level → Nat
  | error => 1
  | warn => 2
  | info => 3
  | debug => 4
  | trace => 5

/-- The name of a level, in upper case. -/
def name : Level → String
  | error => "ERROR"
  | warn => "WARN"
  | info => "INFO"
  | debug => "DEBUG"
  | trace => "TRACE"

end Level

/-- The value of a field. -/
inductive FieldValue where
  | text (value : String)
  | integer (value : Int)
  deriving DecidableEq, Repr

/-- The text of a field value; texts stand between quotes. -/
def FieldValue.shown : FieldValue → String
  | text value => "\"" ++ value ++ "\""
  | integer value => toString value

/-- A log record. -/
structure Record where
  level : Level
  target : String
  message : String
  fields : List (String × FieldValue)
  deriving DecidableEq, Repr

namespace Record

/-- The names under which a record carries something; its message counts. -/
def fieldNames (record : Record) : List String :=
  "message" :: record.fields.map Prod.fst

/-- The line of a record. -/
def line (record : Record) : String :=
  s!"{record.level.name} {record.target}: {record.message}" ++
    String.join (record.fields.map fun (name, value) => s!" {name}={value.shown}")

end Record

end CardInventory.Logging
