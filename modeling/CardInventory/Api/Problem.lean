import CardInventory.Json.Basic
import CardInventory.Ledger.Failure
import CardInventory.Text.LowerCase

/-!
# Problems

What a client learns about a failure: a status, a kind that a program can tell
apart, a text, and the numbers or names of the failure. The details of a storage
fault are not among them.
-/

namespace CardInventory.Api

open CardInventory.Ledger CardInventory.Storage

/-- Why a request could not be served. -/
inductive Problem where
  | internal (operation : String)
  | ledger (failure : Failure)
  deriving DecidableEq

/-- The status of a storage fault. -/
def faultStatus : Fault → Nat
  | .notFound => 404
  | .notUnique _ _ => 409
  | .dangling _ => 400
  | .checkFailed _ => 400
  | .other _ => 500

/-- The kind of a storage fault. -/
def faultKind : Fault → String
  | .notFound => "not_found"
  | .notUnique _ _ => "conflict"
  | .dangling _ => "invalid_argument"
  | .checkFailed _ => "invalid_argument"
  | .other _ => "storage"

/-- Whether a text contains another. -/
def mentions (text part : String) : Bool :=
  Text.occursIn part.toList text.toList

/-- The text of a violated unique constraint. -/
def duplicateMessage (violation : Violation) : String :=
  match violation.table, violation.constraint with
  | some "users", some constraint =>
      if mentions constraint "username" then "This username is already taken"
      else "Resource already exists"
  | some "cards", _ => "A card with this ID is already registered"
  | _, _ => "Resource already exists"

/-- The text of a storage fault. -/
def faultMessage : Fault → String
  | .notFound => "Resource not found"
  | .notUnique violation _ => duplicateMessage violation
  | .dangling _ => "Invalid reference to related resource"
  | .checkFailed _ => "Invalid data provided"
  | .other _ => "Database error occurred"

namespace Problem

/-- The status of a response. -/
def status : Problem → Nat
  | internal _ => 500
  | ledger (.notFound _ _) => 404
  | ledger (.invalid _) => 400
  | ledger (.insufficient _ _) => 409
  | ledger (.overCapacity _ _ _) => 409
  | ledger (.storage fault) => faultStatus fault

/-- The kind of a problem. -/
def kind : Problem → String
  | internal _ => "internal"
  | ledger (.notFound _ _) => "not_found"
  | ledger (.invalid _) => "invalid_argument"
  | ledger (.insufficient _ _) => "insufficient_quantity"
  | ledger (.overCapacity _ _ _) => "capacity_exceeded"
  | ledger (.storage fault) => faultKind fault

/-- The text for the log. -/
def message : Problem → String
  | internal operation => s!"Failed to {operation}"
  | ledger failure => failure.message

/-- The text for the client. -/
def clientMessage : Problem → String
  | internal _ => "Internal server error"
  | ledger (.storage fault) => faultMessage fault
  | ledger failure => failure.message

/-- The numbers and names of a problem. -/
def details : Problem → List (String × Json)
  | ledger (.notFound subject key) => [("entity", .text subject.name), ("id", .text key)]
  | ledger (.insufficient held wanted) => [("have", .integer held), ("want", .integer wanted)]
  | ledger (.overCapacity current limit attempted) =>
      [("current", .integer current), ("limit", .integer limit),
        ("attempted", .integer attempted)]
  | _ => []

/-- The body of a response. -/
def body (problem : Problem) : Json :=
  .object <|
    [("kind", .text problem.kind), ("message", .text problem.clientMessage)] ++ problem.details

end Problem

end CardInventory.Api
