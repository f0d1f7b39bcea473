import CardInventory.Text.Offset

/-!
# Storage faults

What can go wrong in the storage of the inventory. A violated constraint names
itself and its table where the storage tells them; the details are for the log
and are never shown to a client.
-/

namespace CardInventory.Storage

open CardInventory.Text

/-- A violated constraint. -/
structure Violation where
  constraint : Option String
  table : Option String
  detail : String
  deriving DecidableEq, Repr

/-- A fault of the storage. -/
inductive Fault where
  | notFound
  | notUnique (violation : Violation) (conflicting : Option String)
  | dangling (violation : Violation)
  | checkFailed (violation : Violation)
  | other (detail : String)
  deriving DecidableEq, Repr

namespace Fault

/-- What a fault is called where its details do not matter. -/
def message : Fault → String
  | notFound => "Entity not found"
  | notUnique _ _ => "Unique constraint violation"
  | dangling _ => "Foreign key constraint violation"
  | checkFailed _ => "Check constraint violation"
  | other detail => detail

/-- The offset at which the value begins in the detail of a violated unique constraint:
behind the first `=(`. -/
def valueStart? (detail : String) : Option Nat :=
  (offset? (bytesOf "=(") (bytesOf detail)).map (· + 2)

/-- The offset at which a value ends that begins at another one: in front of the next
closing parenthesis. -/
def valueStop? (detail : String) (start : Nat) : Option Nat :=
  (offset? (bytesOf ")") ((bytesOf detail).drop start)).map (start + ·)

/-- The value in the detail of a violated unique constraint, which is the one that was
there already. -/
def conflictingValue? (detail : String) : Option String := do
  let start ← valueStart? detail
  let stop ← valueStop? detail start
  between? detail start stop

end Fault

end CardInventory.Storage
