import CardInventory.Proofs.Database.Trace
import CardInventory.Proofs.Inventory.Arguments

/-!
# Units of work over a connection

A contract that a rule keeps whatever is replied is kept over a connection, whose
replies are given. A unit of work is committed only after its rule has come to its
end, and what begins and ends the unit is no statement of its trace.
-/

namespace CardInventory.Database

open Storage Ledger Inventory

namespace Connection

/-! ## Recorded commands -/

@[simp]
theorem trace_note_control (connection : Connection) (step : Control) (verdict : Verdict) :
    (connection.note (.control step) verdict).trace = connection.trace := by
  simp [trace, note, Exchanged.told?]

@[simp]
theorem trace_note_statement (connection : Connection) (asked : Statement) (verdict : Verdict) :
    (connection.note (.statement asked) verdict).trace =
      connection.trace ++ [⟨asked, verdict⟩] := by
  simp [trace, note, Exchanged.told?]

@[simp]
theorem committed_note (connection : Connection) (command : Command) (verdict : Verdict) :
    (connection.note command verdict).Committed ↔
      connection.Committed ∨
        command = .control .commit ∧ ∃ outcome, verdict = .accepted outcome := by
  simp [Committed, note, or_and_right, exists_or, commits_iff]

@[simp]
theorem sent_advance (connection : Connection) (step : Control) :
    (connection.advance step).sent = connection.sent := by
  cases step <;> rfl

@[simp]
theorem trace_advance (connection : Connection) (step : Control) :
    (connection.advance step).trace = connection.trace := by
  rw [trace, sent_advance, trace]

@[simp]
theorem committed_advance (connection : Connection) (step : Control) :
    (connection.advance step).Committed ↔ connection.Committed := by
  rw [Committed, sent_advance, Committed]

theorem aborted_advance {connection : Connection} (healthy : connection.aborted = false)
    (step : Control) : (connection.advance step).aborted = false := by
  cases step <;> first | rfl | exact healthy

@[simp]
theorem trace_spoil (connection : Connection) : connection.spoil.trace = connection.trace :=
  rfl

@[simp]
theorem committed_spoil (connection : Connection) :
    connection.spoil.Committed ↔ connection.Committed :=
  Iff.rfl

@[simp]
theorem trace_flush (connection : Connection) : connection.flush.trace = connection.trace := by
  unfold flush
  split
  · rw [trace_advance, trace_note_control]
  · rfl

@[simp]
theorem committed_flush (connection : Connection) :
    connection.flush.Committed ↔ connection.Committed := by
  unfold flush
  split
  · simp
  · rfl

theorem aborted_flush {connection : Connection} (healthy : connection.aborted = false) :
    connection.flush.aborted = false := by
  unfold flush
  split
  · exact aborted_advance healthy .rollbackToSavepoint
  · exact healthy

theorem abandon_eq (connection : Connection) :
    ∃ savepoint, connection.abandon = { connection with savepoint := savepoint } := by
  unfold abandon
  split
  · exact ⟨_, rfl⟩
  · exact ⟨_, rfl⟩

@[simp]
theorem trace_send_control (connection : Connection) (step : Control) :
    (send (.control step) connection).2.trace = connection.trace := by
  simp only [send]
  split
  · simp
  · simp only [carryOut]
    split <;> simp

theorem committed_send_control {connection : Connection} {step : Control} (other : step ≠ .commit)
    (committed : (send (.control step) connection).2.Committed) : connection.Committed := by
  simp only [send] at committed
  split at committed
  · simpa using committed
  · simp only [carryOut] at committed
    split at committed <;> simpa [other] using committed

/-- Once a transaction has begun, its statements are looked at. -/
theorem aborted_of_begin {connection after : Connection} {outcome : Outcome}
    (begun : send (.control .begin) connection = (.ok outcome, after)) : after.aborted = false := by
  simp only [send, bars, Bool.false_eq_true, if_false, carryOut] at begun
  split at begun
  · cases begun
  · obtain ⟨-, rfl⟩ := Prod.mk.inj begun
    rfl

end Connection

/-! ## Contracts over a connection -/

namespace Contract

/-- The contract has been kept so far, and nothing has been committed, unless the server has
broken the assumption. -/
structure Open (contract : Contract) (connection : Connection) : Prop where
  guards : contract.Guards connection.trace
  uncommitted : contract.Admits connection.trace → ¬ connection.Committed

/-- The next statement will be looked at, and a condition holds of the trace unless the server
has broken the assumption. -/
structure Going (contract : Contract) (condition : Trace → Prop) (connection : Connection) : Prop
    extends contract.Open connection where
  healthy : connection.aborted = false
  reached : contract.Admits connection.trace → condition connection.trace

/-- An answer leads on from the state after it, or ends what was going on. -/
def Follows {ρ : Type} (contract : Contract) (good : ρ → Trace → Prop) :
    Except Storage.Fault ρ × Connection → Prop
  | (.ok reply, after) => contract.Going (good reply) after
  | (.error _, after) => contract.Open after

/-- What answers requests over a connection leads where a specification says. -/
def Serves {Question : Type} {Answer : Question → Type} (contract : Contract)
    (answer : Procedure.Answerer Question Answer Storage.Fault Connection)
    (specified : Procedure.Specification Question Answer Trace) : Prop :=
  ∀ ⦃question connection⦄ ⦃good : Answer question → Trace → Prop⦄,
    contract.Going (specified question good) connection →
      contract.Follows good (answer question connection)

variable {contract : Contract} {connection : Connection} {condition : Trace → Prop} {α : Type}

/-- A procedure ends as it assures. -/
theorem Serves.ends {Question Refusal : Type} {Answer : Question → Type}
    {answer : Procedure.Answerer Question Answer Storage.Fault Connection}
    {specified : Procedure.Specification Question Answer Trace}
    (serves : contract.Serves answer specified) (lift : Storage.Fault → Refusal)
    {procedure : Procedure Question Answer Refusal α} {good : α → Trace → Prop}
    (going : contract.Going (procedure.Assures specified good) connection) :
    procedure.Ends answer lift connection (fun value after => contract.Going (good value) after)
      (fun _ after => contract.Open after) := by
  refine Procedure.Assures.ends ?_ (fun condition failure connection going => going.toOpen) going
  intro question good connection going
  have served := serves going
  rcases outcome : answer question connection with ⟨fault | reply, after⟩
  · rw [outcome] at served
    exact served
  · rw [outcome] at served
    exact served

/-- What a contract says of a connection, it says of the trace and of whether the unit is
committed. -/
theorem Open.congr {other : Connection} (opened : contract.Open connection)
    (trace : other.trace = connection.trace)
    (committed : other.Committed → connection.Committed) : contract.Open other where
  guards := trace ▸ opened.guards
  uncommitted admits did := opened.uncommitted (trace ▸ admits) (committed did)

theorem Going.congr {other : Connection} (going : contract.Going condition connection)
    (trace : other.trace = connection.trace)
    (committed : other.Committed → connection.Committed) (healthy : other.aborted = false) :
    contract.Going condition other where
  toOpen := going.toOpen.congr trace committed
  healthy := healthy
  reached admits := trace ▸ going.reached (trace ▸ admits)

theorem Going.flush (going : contract.Going condition connection) :
    contract.Going condition connection.flush :=
  going.congr connection.trace_flush connection.committed_flush.mp
    (Connection.aborted_flush going.healthy)

theorem Going.abandon (going : contract.Going condition connection) :
    contract.Going condition connection.abandon := by
  obtain ⟨savepoint, same⟩ := connection.abandon_eq
  rw [same]
  exact going.congr rfl id going.healthy

theorem Open.abandon (opened : contract.Open connection) :
    contract.Open connection.abandon := by
  obtain ⟨savepoint, same⟩ := connection.abandon_eq
  rw [same]
  exact opened.congr rfl id

/-- A command about the transaction, other than its end, changes nothing about a contract. -/
theorem carryOut_control {step : Control} {good : Outcome → Trace → Prop}
    (going : contract.Going (contract.ofCommand (.control step) good) connection) :
    contract.Follows good (connection.carryOut (.control step)) := by
  have opened (verdict : Verdict) : contract.Open (connection.note (.control step) verdict) := by
    refine ⟨by simpa using going.guards, fun admits committed => ?_⟩
    rw [Connection.trace_note_control] at admits
    rw [Connection.committed_note] at committed
    rcases committed with before | ⟨same, -⟩
    · exact going.uncommitted admits before
    · exact (going.reached admits).1 (Command.control.inj same)
  simp only [Connection.carryOut]
  split
  · exact (opened _).congr rfl id
  · have accepted := opened (.accepted (.affected 0))
    have healthy : (connection.note (.control step) (.accepted (.affected 0))).aborted = false :=
      going.healthy
    refine ⟨accepted.congr (by simp) (Connection.committed_advance _ _).mp, ?_, ?_⟩
    · exact Connection.aborted_advance healthy step
    · intro admits
      simp only [Connection.trace_advance, Connection.trace_note_control] at admits ⊢
      exact (going.reached admits).2

/-- A statement is added to the trace, and what its outcome leads to holds where it is
accepted. -/
theorem carryOut_statement {asked : Statement} {good : Outcome → Trace → Prop}
    (going : contract.Going (contract.ofCommand (.statement asked) good) connection) :
    contract.Follows good (connection.carryOut (.statement asked)) := by
  have opened (replies : List Reply) (verdict : Verdict) :
      contract.Open ({ connection with replies := replies }.note (.statement asked) verdict) := by
    constructor
    · rw [Connection.trace_note_statement, guards_append_singleton]
      exact ⟨going.guards, fun admits => (going.reached admits).1⟩
    · intro admits committed
      rw [Connection.trace_note_statement, admits_append] at admits
      rw [Connection.committed_note] at committed
      rcases committed with before | ⟨same, -⟩
      · exact going.uncommitted admits.1 before
      · cases same
  simp only [Connection.carryOut]
  split
  · exact (opened connection.replies _).congr rfl id
  · exact (opened _ _).congr rfl id
  · rename_i outcome rest _
    refine ⟨opened rest _, going.healthy, fun admits => ?_⟩
    rw [Connection.trace_note_statement] at admits ⊢
    obtain ⟨before, last⟩ := admits_append.mp admits
    exact (going.reached before).2 outcome (admits_accepted.mp last)

theorem send_serves : contract.Serves Connection.send contract.ofCommand := by
  intro command connection good going
  have flushed := going.flush
  have heard : connection.flush.bars command = false := by
    unfold Connection.bars
    split
    · exact flushed.healthy
    · exact flushed.healthy
    · exact flushed.healthy
    · rfl
  simp only [Connection.send, heard, Bool.false_eq_true, if_false]
  cases command with
  | control step => exact carryOut_control flushed
  | statement asked => exact carryOut_statement flushed

theorem answer_serves (fresh : Nat → Uuid) :
    contract.Serves (Connection.answer fresh) contract.ofRequest := by
  intro request connection good going
  have leads : contract.Going ((exchange (fresh connection.drawn) request).Assures
      contract.ofCommand good) connection :=
    { going with reached := fun admits => going.reached admits (fresh connection.drawn) }
  have ends := Procedure.ends_iff.mp (send_serves.ends id leads)
  unfold Connection.answer Connection.converse
  split at ends
  · rename_i reply after ran
    rw [ran]
    exact ends.abandon.congr rfl id ends.abandon.healthy
  · rename_i fault after ran
    rw [ran]
    exact ends.abandon.congr rfl id

/-! ## Units of work -/

/-- Unless the server has broken the assumption, a contract has been kept, and a condition holds of
the trace if the unit is committed. -/
structure Holds (contract : Contract) (condition : Trace → Prop) (connection : Connection) :
    Prop where
  guards : contract.Guards connection.trace
  committed : contract.Admits connection.trace → connection.Committed → condition connection.trace

theorem Open.holds (opened : contract.Open connection) : contract.Holds condition connection where
  guards := opened.guards
  committed admits did := absurd did (opened.uncommitted admits)

theorem Open.rollback (opened : contract.Open connection) :
    contract.Holds condition connection.rollback :=
  Open.holds <| opened.congr (connection.trace_send_control .rollback)
    (Connection.committed_send_control (by decide))

/-- What holds of the trace of a rule holds of its unit, whether or not the commit succeeds. -/
theorem Going.commit (going : contract.Going condition connection) :
    contract.Holds condition connection.commit.2 := by
  have same : connection.commit.2.trace = connection.trace := by
    have sent := connection.trace_send_control .commit
    unfold Connection.commit
    split
    · rename_i ended
      rw [ended] at sent
      exact sent
    · rename_i ended
      rw [ended] at sent
      exact (Connection.trace_send_control _ .rollback).trans sent
  refine ⟨same ▸ going.guards, fun admits _ => ?_⟩
  rw [same] at admits ⊢
  exact going.reached admits

/-- A unit of work of a rule that keeps a contract. -/
theorem runUnit_holds {rule : Ledger α} {good : α → Trace → Prop}
    (keeps : contract.Keeps rule [] good) (fresh : Nat → Uuid) (commits : Bool)
    (connection : Connection) (replies : List Reply)
    (refusal? : Control → Option ServerError) :
    contract.Holds (fun trace => ∃ value, good value trace)
      ((connection.expecting replies refusal?).runUnit fresh commits rule).2 := by
  have start : contract.Open (connection.expecting replies refusal?) :=
    ⟨guards_nil, fun _ ⟨_, member, _⟩ => by cases member⟩
  have opened : contract.Open (Connection.send (.control .begin)
      (connection.expecting replies refusal?)).2 :=
    start.congr (Connection.trace_send_control _ .begin)
      (Connection.committed_send_control (by decide))
  have sent : (Connection.send (.control .begin) (connection.expecting replies refusal?)).2.trace =
    [] := Connection.trace_send_control _ .begin
  unfold Connection.runUnit Connection.begin
  rcases begun : Connection.send (.control .begin) (connection.expecting replies refusal?) with
    ⟨fault | outcome, between⟩
  -- A transaction that cannot begin is not even rolled back.
  · rw [begun] at opened
    exact opened.holds
  · rw [begun] at opened sent
    have going : contract.Going (fun trace => contract.Keeps rule trace good) between :=
      ⟨opened, Connection.aborted_of_begin begun, fun _ => sent ▸ keeps⟩
    have ends := Procedure.ends_iff.mp ((answer_serves fresh).ends .storage going)
    rcases ran : rule.run (Connection.answer fresh) .storage between with ⟨failure | value, after⟩
    · rw [ran] at ends
      simp only [Except.map, ran]
      exact ends.rollback
    · rw [ran] at ends
      simp only [Except.map, ran]
      have ended : contract.Going (fun trace => ∃ value, good value trace) after :=
        { ends with reached := fun admits => ⟨value, ends.reached admits⟩ }
      cases commits with
      | false => exact ended.toOpen.rollback
      | true =>
          have committed := ended.commit
          simp only [if_true]
          rcases outcome : after.commit with ⟨fault | _, last⟩
          · rw [outcome] at committed
            exact committed
          · rw [outcome] at committed
            exact committed

/-- An operation whose rule keeps a contract. Where its arguments are refused nothing is sent. -/
theorem perform_holds {operation : Operation} {defaultCapacity : Int}
    {good : operation.Result → Trace → Prop}
    (keeps : ∀ rule, operation.rule defaultCapacity = .ok rule → contract.Keeps rule [] good)
    (fresh : Nat → Uuid) (connection : Connection) (replies : List Reply)
    (refusal? : Control → Option ServerError) :
    contract.Holds (fun trace => ∃ result, good result trace)
      ((connection.expecting replies refusal?).perform fresh defaultCapacity operation).2 := by
  unfold Connection.perform
  cases checked : operation.rule defaultCapacity with
  | error failure => exact ⟨guards_nil, fun _ ⟨_, member, _⟩ => by cases member⟩
  | ok rule =>
      exact runUnit_holds (keeps rule checked) fresh operation.mutates connection replies refusal?

end Contract

end CardInventory.Database
