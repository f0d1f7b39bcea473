import CardInventory.Database.Service

/-!
# Texts of errors

A server tells of an error by its code, by the table and the constraint it is about,
and in words. The words are left out here, of the errors that are to come, of those
that have been, and of the faults and failures they amount to. What is done over a
connection comes to the same whatever they are: the same is sent, and it succeeds
with the same value or fails for the same reason.
-/

namespace CardInventory

open Inventory Ledger Storage

namespace Storage

/-- A violation without the text that tells of it. -/
def Violation.wordless (violation : Violation) : Violation :=
  { violation with detail := "" }

/-- A fault without its texts, and without the value that was found in one. -/
def Fault.wordless : Fault → Fault
  | .notFound => .notFound
  | .notUnique violation _ => .notUnique violation.wordless none
  | .dangling violation => .dangling violation.wordless
  | .checkFailed violation => .checkFailed violation.wordless
  | .other _ => .other ""

end Storage

/-- A failure without the texts of a fault. -/
def Ledger.Failure.wordless : Failure → Failure
  | .storage fault => .storage fault.wordless
  | failure => failure

/-! ## Runs that cannot be told apart -/

section Indistinct

variable {ε δ α β σ : Type}

/-- Two runs end with the same value, or with errors that are one but for what is left out of
them, in states that are coupled. -/
inductive Indistinct (shown : ε → δ) (coupled : σ → σ → Prop) :
    Except ε α × σ → Except ε α × σ → Prop where
  | ok (value : α) {state state' : σ} (couple : coupled state state') :
      Indistinct shown coupled (.ok value, state) (.ok value, state')
  | error {failure failure' : ε} (same : shown failure = shown failure') {state state' : σ}
      (couple : coupled state state') :
      Indistinct shown coupled (.error failure, state) (.error failure', state')

namespace Indistinct

variable {shown : ε → δ} {coupled : σ → σ → Prop} {first second : Except ε α × σ}

/-- What is shown of an outcome does not tell two such runs apart. -/
theorem outcome (same : Indistinct shown coupled first second) :
    first.1.mapError shown = second.1.mapError shown := by
  cases same with
  | ok value => rfl
  | error same => exact congrArg Except.error same

theorem state (same : Indistinct shown coupled first second) : coupled first.2 second.2 := by
  cases same with
  | ok _ couple => exact couple
  | error _ couple => exact couple

theorem map (same : Indistinct shown coupled first second) (part : α → β) :
    Indistinct shown coupled (first.1.map part, first.2) (second.1.map part, second.2) := by
  cases same with
  | ok value couple => exact .ok (part value) couple
  | error same couple => exact .error same couple

/-- What is done to both states in the end does not tell the runs apart if it keeps states
coupled. -/
theorem andThen {next : σ → σ} (same : Indistinct shown coupled first second)
    (keeps : ∀ ⦃state state'⦄, coupled state state' → coupled (next state) (next state')) :
    Indistinct shown coupled (first.1, next first.2) (second.1, next second.2) := by
  cases same with
  | ok value couple => exact .ok value (keeps couple)
  | error same couple => exact .error same (keeps couple)

end Indistinct

/-- A procedure does not look at faults, so that its runs are as much alike as the answers to its
requests. -/
theorem Procedure.run_indistinct {Request : Type} {Reply : Request → Type} {Failure Fault : Type}
    {answer : Answerer Request Reply Fault σ} {lift : Fault → Failure} {shown : Fault → δ}
    {shown' : Failure → ε} {coupled : σ → σ → Prop}
    (answers : ∀ question ⦃state state'⦄, coupled state state' →
      Indistinct shown coupled (answer question state) (answer question state'))
    (lifts : ∀ ⦃fault fault'⦄, shown fault = shown fault' →
      shown' (lift fault) = shown' (lift fault'))
    (procedure : Procedure Request Reply Failure α) {state state' : σ}
    (couple : coupled state state') :
    Indistinct shown' coupled (procedure.run answer lift state)
      (procedure.run answer lift state') := by
  induction procedure generalizing state state' with
  | done value => exact .ok value couple
  | fail failure => exact .error rfl couple
  | ask question next ih =>
      have answered := answers question couple
      simp only [Procedure.run]
      generalize answer question state = first, answer question state' = second at answered
      cases answered with
      | ok reply couple => exact ih reply couple
      | error same couple => exact .error (lifts same) couple

end Indistinct

namespace Database

/-- An error without its texts. -/
def ServerError.wordless (error : ServerError) : ServerError :=
  { error with message := "", detail := none }

/-- Which fault an error amounts to is not told by its texts. -/
theorem ServerError.fault_wordless (error : ServerError) :
    error.wordless.fault = error.fault.wordless := by
  unfold fault
  simp only [wordless]
  split <;> rfl

theorem ServerError.fault_alike {error error' : ServerError}
    (same : error.wordless = error'.wordless) : error.fault.wordless = error'.fault.wordless := by
  rw [← fault_wordless, same, fault_wordless]

/-- What was said to a command, without the texts of an error. -/
def Verdict.wordless : Verdict → Verdict
  | .refused error => .refused error.wordless
  | verdict => verdict

namespace Connection

/-- A connection without the texts of the errors that are to come and of those that have been. -/
def wordless (connection : Connection) : Connection :=
  { connection with
    replies := connection.replies.map (Except.mapError ServerError.wordless)
    refusal? := fun step => (connection.refusal? step).map ServerError.wordless
    sent := connection.sent.map fun exchanged => ⟨exchanged.command, exchanged.verdict.wordless⟩ }

/-- Two connections are one but for the texts of errors. -/
def Alike (first second : Connection) : Prop :=
  first.wordless = second.wordless

section Steps

variable (connection : Connection)

theorem wordless_note (command : Command) (verdict : Verdict) :
    (connection.note command verdict).wordless =
      connection.wordless.note command verdict.wordless := by
  simp [note, wordless]

theorem wordless_advance (step : Control) :
    (connection.advance step).wordless = connection.wordless.advance step := by
  cases step <;> rfl

theorem wordless_flush : connection.flush.wordless = connection.wordless.flush := by
  have same : connection.wordless.savepoint = connection.savepoint := rfl
  cases saved : connection.savepoint with
  | abandoned => simp only [flush, same, saved, wordless_advance, wordless_note, Verdict.wordless]
  | none => simp only [flush, same, saved]
  | active => simp only [flush, same, saved]

theorem wordless_abandon : connection.abandon.wordless = connection.wordless.abandon := by
  have same : connection.wordless.savepoint = connection.savepoint := rfl
  cases saved : connection.savepoint with
  | active =>
      simp only [abandon, same, saved]
      rfl
  | none => simp only [abandon, same, saved]
  | abandoned => simp only [abandon, same, saved]

theorem wordless_spoil : connection.spoil.wordless = connection.wordless.spoil :=
  rfl

theorem bars_wordless (command : Command) :
    connection.wordless.bars command = connection.bars command :=
  rfl

end Steps

variable {connection connection' : Connection}

theorem Alike.note (alike : Alike connection connection') (command : Command)
    {verdict verdict' : Verdict} (same : verdict.wordless = verdict'.wordless) :
    Alike (connection.note command verdict) (connection'.note command verdict') := by
  unfold Alike
  rw [wordless_note, wordless_note, alike, same]

theorem Alike.spoil (alike : Alike connection connection') :
    Alike connection.spoil connection'.spoil := by
  unfold Alike
  rw [wordless_spoil, wordless_spoil, alike]

theorem Alike.advance (alike : Alike connection connection') (step : Control) :
    Alike (connection.advance step) (connection'.advance step) := by
  unfold Alike
  rw [wordless_advance, wordless_advance, alike]

theorem Alike.flush (alike : Alike connection connection') :
    Alike connection.flush connection'.flush := by
  unfold Alike
  rw [wordless_flush, wordless_flush, alike]

theorem Alike.abandon (alike : Alike connection connection') :
    Alike connection.abandon connection'.abandon := by
  unfold Alike
  rw [wordless_abandon, wordless_abandon, alike]

/-- Connections that are alike bar the same commands. -/
theorem Alike.bars (alike : Alike connection connection') (command : Command) :
    connection.bars command = connection'.bars command := by
  rw [← bars_wordless, alike, bars_wordless]

/-- Connections that are alike and have had a reply are alike without it. -/
theorem Alike.rest (alike : Alike connection connection') {rest rest' : List Reply}
    (same : rest.map (Except.mapError ServerError.wordless) =
      rest'.map (Except.mapError ServerError.wordless)) :
    Alike { connection with replies := rest } { connection' with replies := rest' } := by
  have replaced := congrArg (fun wordless : Connection =>
    { wordless with replies := rest.map (Except.mapError ServerError.wordless) }) alike
  unfold Alike wordless
  rw [← same]
  exact replaced

theorem Alike.replies (alike : Alike connection connection') :
    connection.replies.map (Except.mapError ServerError.wordless) =
      connection'.replies.map (Except.mapError ServerError.wordless) :=
  congrArg Connection.replies alike

theorem Alike.refusals (alike : Alike connection connection') (step : Control) :
    (connection.refusal? step).map ServerError.wordless =
      (connection'.refusal? step).map ServerError.wordless :=
  congrFun (congrArg Connection.refusal? alike) step

/-- Connections that are alike draw the same identifier next. -/
theorem Alike.drawn (alike : Alike connection connection') : connection.drawn = connection'.drawn :=
  show connection.wordless.drawn = connection'.wordless.drawn from congrArg Connection.drawn alike

theorem Alike.draw (alike : Alike connection connection') :
    Alike { connection with drawn := connection.drawn + 1 }
      { connection' with drawn := connection'.drawn + 1 } := by
  have counted := congrArg
    (fun wordless : Connection => { wordless with drawn := wordless.drawn + 1 }) alike
  exact counted

/-- Over connections that are alike the same commands have been sent. -/
theorem Alike.commands (alike : Alike connection connection') :
    connection.sent.map Exchanged.command = connection'.sent.map Exchanged.command := by
  have sent (connection : Connection) : connection.wordless.sent.map Exchanged.command =
      connection.sent.map Exchanged.command := by
    simp [wordless, Function.comp_def]
  rw [← sent, alike, sent]

/-- What has come of an exchange over two connections, where only texts tell it apart. -/
abbrev Ended {α : Type} (first second : Except Fault α × Connection) : Prop :=
  Indistinct Fault.wordless Alike first second

/-- An error with which a command is answered spoils both transactions alike. -/
theorem Alike.refused {α : Type} (alike : Alike connection connection') (command : Command)
    {error error' : ServerError} (same : error.wordless = error'.wordless) :
    Ended ((.error error.fault, (connection.note command (.refused error)).spoil) :
        Except Fault α × Connection)
      (.error error'.fault, (connection'.note command (.refused error')).spoil) := by
  have verdicts : (Verdict.refused error).wordless = (Verdict.refused error').wordless :=
    congrArg Verdict.refused same
  exact .error (ServerError.fault_alike same) (alike.note command verdicts).spoil

theorem carryOut_ended (alike : Alike connection connection') (command : Command) :
    Ended (connection.carryOut command) (connection'.carryOut command) := by
  cases command with
  | control step =>
      have refusals := alike.refusals step
      simp only [carryOut]
      generalize connection.refusal? step = refusal,
        connection'.refusal? step = refusal' at refusals
      match refusal, refusal', refusals with
      | none, none, _ => exact .ok _ ((alike.note _ rfl).advance step)
      | some error, some error', same => exact alike.refused _ (Option.some.inj same)
  | statement asked =>
      have replies := alike.replies
      simp only [carryOut]
      generalize connection.replies = given, connection'.replies = given' at replies
      match given, given', replies with
      | [], [], _ => exact .error rfl (alike.note _ rfl).spoil
      | .ok outcome :: rest, .ok outcome' :: rest', same =>
          obtain ⟨first, others⟩ := List.cons.inj same
          obtain rfl := Except.ok.inj first
          exact .ok outcome ((alike.rest others).note _ rfl)
      | .error error :: rest, .error error' :: rest', same =>
          obtain ⟨first, others⟩ := List.cons.inj same
          exact (alike.rest others).refused _ (Except.error.inj first)

theorem send_ended (command : Command) ⦃connection connection' : Connection⦄
    (alike : Alike connection connection') :
    Ended (send command connection) (send command connection') := by
  simp only [send, alike.flush.bars command]
  split
  · exact .error rfl (alike.flush.note _ rfl)
  · exact carryOut_ended alike.flush command

theorem converse_ended {α : Type} (alike : Alike connection connection')
    (exchange : Exchange α) :
    Ended (connection.converse exchange) (connection'.converse exchange) := by
  have ended : Ended (exchange.run send id connection) (exchange.run send id connection') :=
    Procedure.run_indistinct send_ended (fun _ _ same => same) exchange alike
  exact ended.andThen fun _ _ after => after.abandon

theorem answer_ended (fresh : Nat → Uuid) (request : Request)
    ⦃connection connection' : Connection⦄ (alike : Alike connection connection') :
    Ended (answer fresh request connection) (answer fresh request connection') := by
  have ended := converse_ended alike (exchange (fresh connection.drawn) request)
  rw [answer, answer, ← alike.drawn]
  exact ended.andThen fun _ _ after => after.draw

theorem Alike.rollback (alike : Alike connection connection') :
    Alike connection.rollback connection'.rollback :=
  (send_ended (.control .rollback) alike).state

theorem begin_ended (alike : Alike connection connection') :
    Ended connection.begin connection'.begin :=
  (send_ended (.control .begin) alike).map fun _ => ()

theorem commit_ended (alike : Alike connection connection') :
    Ended connection.commit connection'.commit := by
  have ended := send_ended (.control .commit) alike
  simp only [commit]
  generalize send (.control .commit) connection = first,
    send (.control .commit) connection' = second at ended
  cases ended with
  | ok value after => exact .ok () after
  | error same after => exact .error same after.rollback

/-- Faults that only texts tell apart are failures that only texts tell apart. -/
theorem storage_wordless ⦃fault fault' : Fault⦄ (same : fault.wordless = fault'.wordless) :
    (Failure.storage fault).wordless = (Failure.storage fault').wordless :=
  congrArg Failure.storage same

theorem runUnit_ended {α : Type} (fresh : Nat → Uuid) (commits : Bool) (rule : Ledger α)
    (alike : Alike connection connection') :
    Indistinct Failure.wordless Alike (connection.runUnit fresh commits rule)
      (connection'.runUnit fresh commits rule) := by
  have begun := begin_ended alike
  simp only [runUnit]
  generalize connection.begin = first, connection'.begin = second at begun
  cases begun with
  | error same after => exact .error (storage_wordless same) after
  | @ok _ between between' after =>
      have ran := Procedure.run_indistinct (answer_ended fresh) storage_wordless rule after
      simp only
      generalize rule.run (answer fresh) Failure.storage between = first,
        rule.run (answer fresh) Failure.storage between' = second at ran
      cases ran with
      | error same after => exact .error same after.rollback
      | @ok value between between' after =>
          cases commits with
          | false => exact .ok value after.rollback
          | true =>
              have committed := commit_ended after
              simp only [if_true]
              generalize between.commit = first, between'.commit = second at committed
              cases committed with
              | ok _ after => exact .ok value after
              | error same after => exact .error (storage_wordless same) after

theorem perform_ended (fresh : Nat → Uuid) (defaultCapacity : Int) (operation : Operation)
    (alike : Alike connection connection') :
    Indistinct Failure.wordless Alike (connection.perform fresh defaultCapacity operation)
      (connection'.perform fresh defaultCapacity operation) := by
  simp only [perform]
  split
  · exact .error rfl alike
  · exact runUnit_ended fresh operation.mutates _ alike

end Connection

end Database

/-! ## Responses -/

namespace Api

/-- The response to a failure does not show the texts of a fault. -/
theorem Problem.response_wordless (failure : Failure) :
    (Problem.ledger failure.wordless).status = (Problem.ledger failure).status ∧
      (Problem.ledger failure.wordless).body = (Problem.ledger failure).body := by
  cases failure with
  | storage fault => cases fault <;> exact ⟨rfl, rfl⟩
  | _ => exact ⟨rfl, rfl⟩

theorem Task.complete_mapError (task : Task) (outcome : Except Failure task.operation.Result) :
    task.complete (outcome.mapError Failure.wordless) = task.complete outcome := by
  cases outcome with
  | ok result => rfl
  | error failure =>
      obtain ⟨status, body⟩ := Problem.response_wordless failure
      change Response.of (Problem.ledger failure.wordless).status
        (.json (Problem.ledger failure.wordless).body) = _
      rw [status, body]
      rfl

/-- Failures that only texts tell apart are answered in the same way. -/
theorem Task.complete_eq (task : Task) {outcome outcome' : Except Failure task.operation.Result}
    (same : outcome.mapError Failure.wordless = outcome'.mapError Failure.wordless) :
    task.complete outcome = task.complete outcome' := by
  rw [← complete_mapError, same, complete_mapError]

theorem serve_finish_eq {cors : Cors} {request : Request} {operation : Operation}
    {finish : Except Failure operation.Result → Response}
    (served : serve cors request = .pending operation finish)
    {outcome outcome' : Except Failure operation.Result}
    (same : outcome.mapError Failure.wordless = outcome'.mapError Failure.wordless) :
    finish outcome = finish outcome' := by
  unfold serve at served
  split at served
  · cases served
  · split at served
    · cases served
    · cases served
      simp only [Task.complete_eq _ same]

end Api

namespace Database.Connection

theorem respond_alike (fresh : Nat → Uuid) (defaultCapacity : Int) (cors : Api.Cors)
    (request : Api.Request) {connection connection' : Connection}
    (alike : Alike connection connection') :
    (connection.respond fresh defaultCapacity cors request).1 =
        (connection'.respond fresh defaultCapacity cors request).1 ∧
      Alike (connection.respond fresh defaultCapacity cors request).2
        (connection'.respond fresh defaultCapacity cors request).2 := by
  simp only [respond]
  cases served : Api.serve cors request with
  | answered response => exact ⟨rfl, alike⟩
  | pending operation finish =>
      have ended := perform_ended fresh defaultCapacity operation alike
      exact ⟨Api.serve_finish_eq served ended.outcome, ended.state⟩

/-- Over a connection the texts of errors, of those with which statements are answered and of
those with which a transaction is, change nothing in the response to a request, and nothing in
what is sent for it. -/
theorem error_texts_concealed (fresh : Nat → Uuid) (defaultCapacity : Int) (cors : Api.Cors)
    (request : Api.Request) (connection : Connection) {replies replies' : List Reply}
    {refusal? refusal?' : Control → Option ServerError}
    (sameReplies : replies.map (Except.mapError ServerError.wordless) =
      replies'.map (Except.mapError ServerError.wordless))
    (sameRefusals : ∀ step,
      (refusal? step).map ServerError.wordless = (refusal?' step).map ServerError.wordless) :
    let first := (connection.expecting replies refusal?).respond fresh defaultCapacity cors request
    let second :=
      (connection.expecting replies' refusal?').respond fresh defaultCapacity cors request
    first.1 = second.1 ∧
      first.2.sent.map Exchanged.command = second.2.sent.map Exchanged.command := by
  intro first second
  have alike : Alike (connection.expecting replies refusal?)
      (connection.expecting replies' refusal?') := by
    unfold Alike wordless
    simp only [expecting, sameReplies, funext sameRefusals, List.map_nil]
  obtain ⟨response, after⟩ := respond_alike fresh defaultCapacity cors request alike
  exact ⟨response, after.commands⟩

/-- A name that is taken is told in the same way, however the server words it. -/
theorem taken_name_wording_concealed :
    let fresh : Nat → Uuid := Uuid.ofNat
    let cors : Api.Cors := ⟨[], none⟩
    let request := Api.Request.mk "POST" "/api/v1/users" none
      [("content-type", "application/json")] (Text.bytesOf "\x7b\"username\":\"ada\"\x7d")
    let replies (message : String) (detail : Option String) : List Reply :=
      [.error ⟨"23505", message, detail, some "users", some "users_username_key"⟩]
    let plain := replies "duplicate key" none
    let worded := replies "duplicate key value violates unique constraint"
      (some "Key (username)=(ada) already exists.")
    let respond (replies : List Reply) :=
      (idle.expecting replies fun _ => none).respond fresh 60 cors request
    plain.map (Except.mapError ServerError.wordless) =
        worded.map (Except.mapError ServerError.wordless) ∧
      (respond plain).1.status = 409 ∧ (respond plain).1 = (respond worded).1 ∧
      (respond plain).2.sent.map Exchanged.command =
        (respond worded).2.sent.map Exchanged.command := by
  intro fresh cors request replies plain worded respond
  have same : plain.map (Except.mapError ServerError.wordless) =
    worded.map (Except.mapError ServerError.wordless) := rfl
  have status : (respond plain).1.status = 409 := by decide +kernel
  exact ⟨same, status, error_texts_concealed fresh 60 cors request idle same fun _ => rfl⟩

end Database.Connection

end CardInventory
