import CardInventory.Database.Answer

/-!
# Connections

A connection to a server whose replies are given. It records what has been sent
and what was said to it. After an error inside a transaction the server bars
every further command until the transaction is rolled back or ends; a savepoint
that is given up is rolled back before the next command is sent.
-/

namespace CardInventory.Database

open CardInventory.Storage

/-- What was said to a command. -/
inductive Verdict where
  /-- It was carried out. -/
  | accepted (outcome : Outcome)
  /-- It was answered with an error. -/
  | refused (error : ServerError)
  /-- It was not looked at, because the transaction had failed before. -/
  | barred
  /-- There was no reply to it. -/
  | unanswered

/-- A command that was sent, and what was said to it. -/
structure Exchanged where
  command : Command
  verdict : Verdict

/-- What has become of the savepoint inside a transaction. -/
inductive Savepoint where
  | none
  | active
  | abandoned
  deriving DecidableEq, Repr

/-- A reply of the server to a statement. -/
abbrev Reply := Except ServerError Outcome

/-- A connection: the replies still to come, the errors with which commands about the
transaction are answered, the state of the transaction and of its savepoint, the
commands sent so far, and the number of identifiers that have been drawn. -/
structure Connection where
  replies : List Reply
  refusal? : Control → Option ServerError
  inTransaction : Bool
  aborted : Bool
  savepoint : Savepoint
  sent : List Exchanged
  drawn : Nat

namespace Connection

/-- A connection over which nothing has been sent. -/
def idle : Connection :=
  ⟨[], fun _ => .none, false, false, .none, [], 0⟩

/-- Give a connection the replies to come. -/
def expecting (connection : Connection) (replies : List Reply)
    (refusal? : Control → Option ServerError) : Connection :=
  { connection with replies := replies, refusal? := refusal?, sent := [] }

/-- Record a command. -/
def note (connection : Connection) (command : Command) (verdict : Verdict) : Connection :=
  { connection with sent := connection.sent ++ [⟨command, verdict⟩] }

/-- The state after a command about the transaction has been carried out. -/
def advance (connection : Connection) : Control → Connection
  | .begin => { connection with inTransaction := true, aborted := false, savepoint := .none }
  | .commit => { connection with inTransaction := false, aborted := false, savepoint := .none }
  | .rollback => { connection with inTransaction := false, aborted := false, savepoint := .none }
  | .savepoint => { connection with savepoint := .active }
  | .release => { connection with savepoint := .none }
  | .rollbackToSavepoint => { connection with aborted := false, savepoint := .none }

/-- The state after an error: a transaction that is under way has failed. -/
def spoil (connection : Connection) : Connection :=
  { connection with aborted := connection.inTransaction }

/-- Whether a failed transaction bars a command. Only its end and a return to its
savepoint are let through. -/
def bars (connection : Connection) : Command → Bool
  | .control .savepoint | .control .release | .statement _ => connection.aborted
  | _ => false

/-- Roll back to a savepoint that was given up. -/
def flush (connection : Connection) : Connection :=
  match connection.savepoint with
  | .abandoned =>
      (connection.note (.control .rollbackToSavepoint) (.accepted (.affected 0))).advance
        .rollbackToSavepoint
  | _ => connection

/-- The fault of a command in a transaction that has failed. -/
def barredFault : Fault :=
  .other "current transaction is aborted, commands ignored until end of transaction block"

/-- The fault of a statement to which there is no reply. -/
def unansweredFault : Fault :=
  .other "no reply"

/-- Let the server carry out a command it does not bar. -/
def carryOut (connection : Connection) (command : Command) : Except Fault Outcome × Connection :=
  match command with
  | .control step =>
      match connection.refusal? step with
      | some error => (.error error.fault, (connection.note command (.refused error)).spoil)
      | none =>
          (.ok (.affected 0), (connection.note command (.accepted (.affected 0))).advance step)
  | .statement _ =>
      match connection.replies with
      | [] => (.error unansweredFault, (connection.note command .unanswered).spoil)
      | .error error :: rest =>
          (.error error.fault,
            ({ connection with replies := rest }.note command (.refused error)).spoil)
      | .ok outcome :: rest =>
          (.ok outcome, { connection with replies := rest }.note command (.accepted outcome))

/-- Send a command. -/
def send : Procedure.Answerer Command (fun _ => Outcome) Fault Connection :=
  fun command connection =>
    let connection := connection.flush
    if connection.bars command then (.error barredFault, connection.note command .barred)
    else connection.carryOut command

/-- Give up a savepoint that was not released. -/
def abandon (connection : Connection) : Connection :=
  match connection.savepoint with
  | .active => { connection with savepoint := .abandoned }
  | _ => connection

/-- Run an exchange; a savepoint that it leaves behind is given up. -/
def converse {α : Type} (connection : Connection) (exchange : Exchange α) :
    Except Fault α × Connection :=
  let (outcome, connection) := exchange.run send id connection
  (outcome, connection.abandon)

/-- Answer a storage request; `fresh` are the identifiers that are drawn one by one. -/
def answer (fresh : Nat → Uuid) :
    Procedure.Answerer Request Request.Reply Fault Connection :=
  fun request connection =>
    let (reply, connection) := connection.converse (exchange (fresh connection.drawn) request)
    (reply, { connection with drawn := connection.drawn + 1 })

end Connection

end CardInventory.Database
