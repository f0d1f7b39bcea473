import CardInventory.Settings.Value
import CardInventory.Width

/-!
# Reading settings

A value is read as what a setting needs. The first fault ends the reading: it
tells its cause and the names that lead to the value at fault. A record is read
from a table, whose entries are looked at in the order of their names, or from a
list of its fields; fields that are left out keep what they were.
-/

namespace CardInventory.Settings

/-- Why a value is no use. -/
inductive Cause where
  | unknownField
  | wrongType
  | outOfRange
  | missingField
  | unknownVariant
  | wrongLength
  /-- What is given as an origin is none. -/
  | badOrigin
  /-- The document as a whole is no table. -/
  | badDocument
  deriving DecidableEq, Repr

/-- A value that is no use, and the names that lead to it. -/
structure Fault where
  cause : Cause
  path : List String
  deriving DecidableEq, Repr

/-- A reading of a setting. -/
abbrev Reading (α : Type) := Setting → Except Fault α

/-- The fault of the value that is being read. -/
def fail {α : Type} (cause : Cause) : Except Fault α :=
  .error ⟨cause, []⟩

/-- A reading of the value under a name. -/
def within {α : Type} (name : String) (outcome : Except Fault α) : Except Fault α :=
  outcome.mapError fun fault => { fault with path := name :: fault.path }

/-- A reading whose faults do not tell where inside the value they are. -/
def sealed {α : Type} (outcome : Except Fault α) : Except Fault α :=
  outcome.mapError fun fault => { fault with path := [] }

/-- A text; a single letter is one. -/
def readText : Reading String
  | .text value => .ok value
  | .letter value => .ok value.toString
  | _ => fail .wrongType

/-- A text that was written as a text. -/
def readPlainText : Reading String
  | .text value => .ok value
  | _ => fail .wrongType

/-- A truth value. -/
def readFlag : Reading Bool
  | .flag value => .ok value
  | _ => fail .wrongType

/-- A whole number in a range. -/
def readWhole (low high : Int) : Reading Int
  | .integer value => if low ≤ value ∧ value ≤ high then .ok value else fail .outOfRange
  | _ => fail .wrongType

/-- A number that counts something, in so many bits. -/
def readCount (bits : Nat) (value : Setting) : Except Fault Nat :=
  (readWhole 0 (Width.greatestUnsigned bits) value).map Int.toNat

/-- A value that may be absent. -/
def readOptional {α : Type} (read : Reading α) : Reading (Option α)
  | .absent => .ok none
  | value => (read value).map some

/-- A list, whose items are found under their positions. -/
def readList {α : Type} (read : Reading α) : Reading (List α)
  | .list items => items.zipIdx.mapM fun (item, index) => within (toString index) (read item)
  | _ => fail .wrongType

/-- A field of a record and how a value for it changes the record. -/
structure Field (σ : Type) where
  name : String
  set : σ → Reading σ

/-- The field that a value read by `read` is put into by `put`. -/
def Field.of {σ α : Type} (name : String) (read : Reading α) (put : σ → α → σ) : Field σ :=
  ⟨name, fun record value => (read value).map (put record)⟩

/-- A record, of which `start` gives the fields that are left out. If it is given as a
list, `exact` says whether surplus items are refused. -/
def readRecord {σ : Type} (fields : List (Field σ)) (exact : Bool) (start : σ) : Reading σ
  | .table entries =>
      entries.foldlM (fun record (name, value) =>
        match fields.find? fun field => field.name = name with
        | some field => within name (field.set record value)
        | none => within name (fail .unknownField)) start
  | .list items => do
      let record ← (fields.zip items).zipIdx.foldlM (fun record ((field, value), index) =>
        within (toString index) (field.set record value)) start
      if exact && fields.length < items.length then fail .wrongLength else return record
  | _ => fail .wrongType

end CardInventory.Settings
