import CardInventory.Database.Row
import CardInventory.Database.Statement
import CardInventory.Procedure

/-!
# Exchanges with a database server

What a client sends to a server is a command: one that begins or ends a
transaction or a savepoint in it, or a statement. The server replies with rows
or with the number of rows it has changed, or it refuses. A procedure over
commands is what a storage request comes down to.
-/

namespace CardInventory.Database

open CardInventory.Storage

/-- A command about a transaction. -/
inductive Control where
  | begin
  | commit
  | rollback
  | savepoint
  | release
  | rollbackToSavepoint
  deriving DecidableEq, Repr

/-- The savepoint inside a transaction; there is never more than one. -/
def savepointName : String :=
  "_sqlx_savepoint_1"

/-- What is written for a command about a transaction. -/
def Control.text : Control → String
  | begin => "BEGIN"
  | commit => "COMMIT"
  | rollback => "ROLLBACK"
  | savepoint => s!"SAVEPOINT {savepointName}"
  | release => s!"RELEASE SAVEPOINT {savepointName}"
  | rollbackToSavepoint => s!"ROLLBACK TO SAVEPOINT {savepointName}"

/-- A command to a server. -/
inductive Command where
  | control (step : Control)
  | statement (asked : Statement)

/-- What is written for a command. -/
def Command.written : Command → Written
  | control step => ⟨step.text, []⟩
  | statement asked => asked.written

/-- What a server sends for a command it has carried out. -/
inductive Outcome where
  | rows (found : List Row)
  | affected (number : Nat)

namespace Outcome

/-- The rows of an outcome. -/
def rowList : Outcome → List Row
  | rows found => found
  | affected _ => []

/-- The number of rows an outcome is about. -/
def count : Outcome → Nat
  | rows found => found.length
  | affected number => number

/-- All rows, read one after another. -/
def all {α : Type} (outcome : Outcome) (read : Row → Except Fault α) : Except Fault (List α) :=
  outcome.rowList.mapM read

/-- The first row, if there is any; further rows are ignored. -/
def first? {α : Type} (outcome : Outcome) (read : Row → Except Fault α) :
    Except Fault (Option α) :=
  outcome.rowList.head?.mapM read

/-- The first row, which must be there. -/
def first {α : Type} (outcome : Outcome) (read : Row → Except Fault α) : Except Fault α :=
  match outcome.rowList with
  | row :: _ => read row
  | [] => .error .notFound

end Outcome

/-- An error a server reports. -/
structure ServerError where
  code : String
  message : String
  detail : Option String
  table : Option String
  constraint : Option String
  deriving DecidableEq, Repr

namespace ServerError

/-- The constraint an error is about. -/
def violation (error : ServerError) : Violation :=
  ⟨error.constraint, error.table, error.message⟩

/-- The storage fault an error amounts to, which its code tells. -/
def fault (error : ServerError) : Fault :=
  match error.code with
  | "23505" => .notUnique error.violation (error.detail.bind Fault.conflictingValue?)
  | "23503" => .dangling error.violation
  | "23514" => .checkFailed error.violation
  | _ => .other error.message

end ServerError

/-- A procedure over commands. -/
abbrev Exchange (α : Type) : Type :=
  Procedure Command (fun _ => Outcome) Fault α

namespace Exchange

/-- Send a command about the transaction. -/
def control (step : Control) : Exchange Unit :=
  (Procedure.request (.control step)).bind fun _ => .done ()

/-- Send a statement and read its outcome. -/
def query {α : Type} (statement : Statement) (read : Outcome → Except Fault α) : Exchange α :=
  (Procedure.request (.statement statement)).bind fun outcome => .ofExcept (read outcome)

/-- Send a statement of which only the number of changed rows matters. -/
def execute (statement : Statement) : Exchange Nat :=
  query statement fun outcome => .ok outcome.count

/-- Ask for all rows. -/
def queryAll {α : Type} (statement : Statement) (read : Row → Except Fault α) :
    Exchange (List α) :=
  query statement (Outcome.all · read)

/-- Ask for a row that may be missing. -/
def queryFirst? {α : Type} (statement : Statement) (read : Row → Except Fault α) :
    Exchange (Option α) :=
  query statement (Outcome.first? · read)

/-- Ask for a row that must be there. -/
def queryFirst {α : Type} (statement : Statement) (read : Row → Except Fault α) : Exchange α :=
  query statement (Outcome.first · read)

/-- Ask for a single value. -/
def queryValue {α : Type} (statement : Statement) (read : Cell → Option α) : Exchange α :=
  queryFirst statement (Row.single · read)

end Exchange

end CardInventory.Database
