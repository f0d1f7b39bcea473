import CardInventory.Database.Exchange
import CardInventory.Database.Schema

/-!
# Bringing a schema up to date

A database records which migrations it has been through, with the script as it
was then, and whether the script ran to its end. A migration that it has not
been through is applied in a transaction of its own. Nothing is applied to a
database with a migration that did not end or that the program does not know,
and nothing further after one whose script has changed.
-/

namespace CardInventory.Database

open CardInventory.Storage

namespace Migration

/-- What a database has recorded of a migration. -/
structure Applied where
  version : Nat
  script : String
  succeeded : Bool
  deriving DecidableEq, Repr

/-- Why a schema cannot be brought up to date. -/
inductive Failure where
  /-- A migration did not run to its end. -/
  | dirty (version : Nat)
  /-- The database has been through a migration that the program does not know. -/
  | unknown (version : Nat)
  /-- The script of a migration has changed since. -/
  | changed (version : Nat)
  /-- The server refused. -/
  | refused (fault : Fault)

/-- A command that is sent to apply a migration. -/
inductive Step where
  | control (step : Control)
  | run (migration : Migration)
  | record (migration : Migration)

/-- A database whose schema is to be brought up to date: the migrations it has been
through, and the errors with which it answers commands about the transaction. -/
structure Peer where
  applied : List Applied
  refusal? : Control → Option ServerError

/-- The migration that did not run to its end, the oldest of them. -/
def dirty? (applied : List Applied) : Option Nat :=
  ((applied.filter fun record => !record.succeeded).map Applied.version).min?

/-- The migration that the program does not know. -/
def unknown? (known : List Migration) (applied : List Applied) : Option Nat :=
  (applied.find? fun record => known.all fun migration => migration.version ≠ record.version).map
    Applied.version

/-- What has to be true of a record before any migration is applied. -/
def check (known : List Migration) (applied : List Applied) : Except Failure Unit :=
  match dirty? applied, unknown? known applied with
  | some version, _ => .error (.dirty version)
  | none, some version => .error (.unknown version)
  | none, none => .ok ()

/-- Apply a migration in a transaction of its own. -/
def apply (peer : Peer) (migration : Migration) : Except Failure Unit × List Step :=
  match peer.refusal? .begin with
  | some error => (.error (.refused error.fault), [.control .begin])
  | none =>
      let steps := [.control .begin, .run migration, .record migration, .control .commit]
      match peer.refusal? .commit with
      | some error => (.error (.refused error.fault), steps)
      | none => (.ok (), steps)

/-- Apply the migrations that a database has not been through, one after another. -/
def applyAll (peer : Peer) : List Migration → Except Failure Unit × List Step
  | [] => (.ok (), [])
  | migration :: rest =>
      match peer.applied.find? fun record => record.version = migration.version with
      | some record =>
          if record.script = migration.script then applyAll peer rest
          else (.error (.changed migration.version), [])
      | none =>
          match apply peer migration with
          | (.error failure, steps) => (.error failure, steps)
          | (.ok (), steps) =>
              let (outcome, later) := applyAll peer rest
              (outcome, steps ++ later)

/-- Bring the schema of a database up to date, and the commands that are sent for it. -/
def upgrade (known : List Migration) (peer : Peer) : Except Failure Unit × List Step :=
  match check known peer.applied with
  | .error failure => (.error failure, [])
  | .ok () => applyAll peer known

end Migration

end CardInventory.Database
