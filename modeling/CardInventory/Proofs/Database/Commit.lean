import CardInventory.Proofs.Database.Policy

/-!
# The commit of a unit of work

Whatever the server replies, a unit of work sends a commit only after its rule has
succeeded with every command before carried out, and then nothing but a rollback if
the commit itself fails. An operation that changes something has succeeded exactly
when its commit was acknowledged, and the first error is what it reports. The
savepoint of a printing is released only when all its rows are in.
-/

namespace CardInventory.Database

open Storage Ledger Inventory

/-! ## How a unit of work ends -/

/-- Commands that give up a unit of work. -/
def RollsBack (sent : List Exchanged) : Prop :=
  ∀ exchanged ∈ sent, exchanged.command = .control .rollback ∨ exchanged = returned

/-- How a unit of work ends after its course, which may have been broken off: what is sent then,
and the outcome. -/
inductive Ending {α : Type} (commits : Bool) :
    Option Fault → List Exchanged → Except Failure α → Prop where
  /-- Its commit was acknowledged. -/
  | committed {outcome : Outcome} {value : α} : commits = true →
      Ending commits none [⟨.control .commit, .accepted outcome⟩] (.ok value)
  /-- There was nothing to commit. -/
  | read {rest : List Exchanged} {value : α} : commits = false → RollsBack rest →
      Ending commits none rest (.ok value)
  /-- It was refused, though every command was carried out. -/
  | refused {rest : List Exchanged} {failure : Failure} : RollsBack rest →
      Ending commits none rest (.error failure)
  /-- A command was not carried out. -/
  | broken {rest : List Exchanged} {fault : Fault} : RollsBack rest →
      Ending commits (some fault) rest (.error (.storage fault))
  /-- Its commit was not acknowledged. -/
  | uncommitted {rest : List Exchanged} {verdict : Verdict} {fault : Fault} : commits = true →
      verdict.outcome = .error fault → RollsBack rest →
        Ending commits none (⟨.control .commit, verdict⟩ :: rest) (.error (.storage fault))

/-- All that a unit of work has sent is its course and its end. -/
def Concluded {α : Type} (policy : Policy) (commits : Bool) (sent : List Exchanged)
    (outcome : Except Failure α) : Prop :=
  ∃ course broken ending, sent = course ++ ending ∧ Course policy course broken ∧
    Ending commits broken ending outcome

theorem rollsBack_nil : RollsBack [] :=
  fun _ member => by cases member

namespace Connection

/-- A rollback adds nothing else to what was sent. -/
theorem sent_rollback (connection : Connection) :
    ∃ rest, connection.rollback.sent = connection.sent ++ rest ∧ RollsBack rest := by
  obtain ⟨verdict, -, recorded⟩ := send_recorded (.control .rollback) connection
  rcases connection.flushed_flush with same | same
  · refine ⟨[⟨.control .rollback, verdict⟩], by rw [rollback, recorded, same], ?_⟩
    simp [RollsBack]
  · refine ⟨[returned, ⟨.control .rollback, verdict⟩], by rw [rollback, recorded, same]; simp, ?_⟩
    simp [RollsBack]

end Connection

section Conclusion

variable {α : Type} {policy : Policy} {connection : Connection} {rule : Ledger α}

/-- A unit of work whose course is over is committed, or its commit fails. -/
theorem Course.commit (returns : policy.Returns) (course : Course policy connection.sent none)
    (value : α) :
    match connection.commit with
    | (.ok _, after) => Concluded policy true after.sent (.ok value : Except Failure α)
    | (.error fault, after) =>
        Concluded policy true after.sent (.error (.storage fault) : Except Failure α) := by
  obtain ⟨verdict, came, recorded⟩ := Connection.send_recorded (.control .commit) connection
  have before := returns.flushed course connection.flushed_flush
  unfold Connection.commit
  rcases ended : Connection.send (.control .commit) connection with ⟨fault | outcome, after⟩
  · rw [ended] at came recorded
    obtain ⟨rest, same, rollsBack⟩ := after.sent_rollback
    refine ⟨_, _, ⟨.control .commit, verdict⟩ :: rest, ?_, before,
      .uncommitted rfl came.symm rollsBack⟩
    rw [same, recorded, List.append_assoc, List.singleton_append]
  · rw [ended] at came recorded
    obtain rfl := Verdict.outcome_eq_ok_iff.mp came.symm
    exact ⟨_, _, _, recorded, before, .committed rfl⟩

end Conclusion

/-- What the commands of an operation show next to its outcome. -/
structure CommitDiscipline (operation : Operation) (sent : List Exchanged)
    (outcome : Except Failure operation.Result) : Prop where
  /-- A commit is sent by an operation that changes something, and once. All commands before it
  were carried out, only a rollback comes after it, and nothing if it was acknowledged. -/
  commits : ∀ ⦃before verdict after⦄, sent = before ++ ⟨.control .commit, verdict⟩ :: after →
    operation.mutates = true ∧ Unbroken before ∧
      (∀ exchanged ∈ before ++ after, exchanged.command ≠ .control .commit) ∧
      RollsBack after ∧ ((∃ reply, verdict = .accepted reply) → after = [])
  /-- An operation that changes something has succeeded if and only if its commit was
  acknowledged. -/
  succeeds : operation.mutates = true →
    ((∃ result, outcome = .ok result) ↔ ∃ exchanged ∈ sent, exchanged.commits = true)
  /-- An operation fails without a commit, or because the commit failed. -/
  fails : ∀ ⦃failure⦄, outcome = .error failure →
    ∀ exchanged ∈ sent, exchanged.command = .control .commit →
      ∃ fault, exchanged.verdict.outcome = .error fault ∧ failure = .storage fault
  /-- The first error is what the operation fails with, unless it is that of a rollback, and only
  a rollback is sent after it. -/
  breaks : ∀ ⦃before exchanged after fault⦄, sent = before ++ exchanged :: after →
    Unbroken before → exchanged.verdict.outcome = .error fault →
      RollsBack after ∧
        (exchanged.command ≠ .control .rollback → outcome = .error (.storage fault))
  /-- The savepoint of a printing is released once the printing and each of its faces have been
  inserted. -/
  releases : ∀ ⦃draft before verdict after⦄, operation = .registerCard draft →
    sent = before ++ ⟨.control .release, verdict⟩ :: after →
      Unbroken before ∧ Registered draft before

/-! ### The end of a unit -/

section Ending

variable {α : Type} {policy : Policy} {commits : Bool} {broken : Option Fault}
  {ending mid after rest : List Exchanged} {exchanged : Exchanged} {outcome : Except Failure α}

theorem RollsBack.of_append (rollsBack : RollsBack (mid ++ rest)) : RollsBack rest :=
  (List.forall_mem_append.mp rollsBack).2

theorem RollsBack.of_cons (rollsBack : RollsBack (exchanged :: rest)) : RollsBack rest :=
  (List.forall_mem_cons.mp rollsBack).2

/-- What gives up a unit of work neither commits it nor releases a savepoint. -/
theorem RollsBack.command_ne (rollsBack : RollsBack rest) (member : exchanged ∈ rest)
    {step : Control} (commits : step = .commit ∨ step = .release) :
    exchanged.command ≠ .control step := by
  rcases rollsBack exchanged member with same | rfl
  · rw [same]
    rcases commits with rfl | rfl <;> simp
  · rcases commits with rfl | rfl <;> simp [returned]

/-- An error while a unit of work is given up is that of the rollback itself. -/
theorem RollsBack.rollback_of_error (rollsBack : RollsBack rest) (member : exchanged ∈ rest)
    {fault : Fault} (failed : exchanged.verdict.outcome = .error fault) :
    exchanged.command = .control .rollback := by
  rcases rollsBack exchanged member with same | rfl
  · exact same
  · cases failed

/-- A commit is sent right after a course that was not broken off, and decides the outcome. -/
theorem Ending.of_commit {verdict : Verdict} (ended : Ending commits broken ending outcome)
    (mid : List Exchanged) (split : ending = mid ++ ⟨.control .commit, verdict⟩ :: after) :
    (commits = true ∧ broken = none ∧ mid = [] ∧ RollsBack after) ∧
      (∀ reply, verdict = .accepted reply → after = [] ∧ ∃ value, outcome = .ok value) ∧
      ∀ fault, verdict.outcome = .error fault → outcome = .error (.storage fault) := by
  have gone (rest : List Exchanged) (rollsBack : RollsBack rest) :
      ⟨.control .commit, verdict⟩ ∉ rest :=
    fun member => rollsBack.command_ne member (.inl rfl) rfl
  cases ended with
  | committed changes =>
      obtain ⟨rfl, rfl, rfl⟩ : mid = [] ∧ verdict = _ ∧ after = [] := by
        simpa [List.singleton_eq_append_iff] using split
      exact ⟨⟨changes, rfl, rfl, rollsBack_nil⟩, fun _ _ => ⟨rfl, _, rfl⟩, fun _ failed => by
        cases failed⟩
  | read _ rollsBack => exact absurd (split ▸ by simp) (gone _ rollsBack)
  | refused rollsBack => exact absurd (split ▸ by simp) (gone _ rollsBack)
  | broken rollsBack => exact absurd (split ▸ by simp) (gone _ rollsBack)
  | uncommitted changes failed rollsBack =>
      cases mid with
      | nil =>
          obtain ⟨same, rfl⟩ := List.cons_eq_cons.mp split
          obtain ⟨-, rfl⟩ := Exchanged.mk.inj same
          refine ⟨⟨changes, rfl, rfl, rollsBack⟩, ?_, fun fault same => ?_⟩
          · rintro reply rfl
            cases failed
          · rw [Except.error.inj (failed.symm.trans same)]
      | cons head init =>
          obtain ⟨-, rfl⟩ := List.cons_eq_cons.mp split
          exact absurd (by simp) (gone _ rollsBack)

/-- A first error after a course that was not broken off is that of the commit, or it comes when
the outcome is known. -/
theorem Ending.of_error {fault : Fault} (ended : Ending commits none ending outcome)
    (split : ending = mid ++ exchanged :: after) (unbroken : Unbroken mid)
    (failed : exchanged.verdict.outcome = .error fault) :
    RollsBack after ∧
      (exchanged.command ≠ .control .rollback → outcome = .error (.storage fault)) := by
  have givesUp (rest : List Exchanged) (rollsBack : RollsBack rest)
      (split : rest = mid ++ exchanged :: after) : RollsBack after ∧
        (exchanged.command ≠ .control .rollback → outcome = .error (.storage fault)) := by
    subst split
    exact ⟨rollsBack.of_append.of_cons,
      fun other => absurd (rollsBack.rollback_of_error (by simp) failed) other⟩
  cases ended with
  | committed changes =>
      obtain ⟨rfl, rfl, rfl⟩ : mid = [] ∧ exchanged = _ ∧ after = [] := by
        simpa [List.singleton_eq_append_iff] using split
      cases failed
  | read _ rollsBack => exact givesUp _ rollsBack split
  | refused rollsBack => exact givesUp _ rollsBack split
  | uncommitted changes refused rollsBack =>
      cases mid with
      | nil =>
          obtain ⟨rfl, rfl⟩ := List.cons_eq_cons.mp split
          exact ⟨rollsBack, fun _ => by rw [Except.error.inj (refused.symm.trans failed)]⟩
      | cons head init =>
          obtain ⟨rfl, -⟩ := List.cons_eq_cons.mp split
          obtain ⟨reply, rfl⟩ := (List.forall_mem_cons.mp unbroken).1
          cases refused

theorem Ending.release_notMem (ended : Ending commits broken ending outcome) (verdict : Verdict) :
    ⟨.control .release, verdict⟩ ∉ ending := by
  have gone (rest : List Exchanged) (rollsBack : RollsBack rest) :
      ⟨.control .release, verdict⟩ ∉ rest :=
    fun member => rollsBack.command_ne member (.inr rfl) rfl
  cases ended with
  | committed => simp
  | read _ rollsBack => exact gone _ rollsBack
  | refused rollsBack => exact gone _ rollsBack
  | broken rollsBack => exact gone _ rollsBack
  | uncommitted _ _ rollsBack => simpa using gone _ rollsBack

end Ending

/-- A unit of work that has ended in one of the ways told has kept to the discipline. -/
theorem Concluded.disciplined {operation : Operation} {sent : List Exchanged}
    {outcome : Except Failure operation.Result}
    (concluded : Concluded (policyOf operation) operation.mutates sent outcome) :
    CommitDiscipline operation sent outcome := by
  obtain ⟨course, broken, ending, rfl, went, ended⟩ := concluded
  -- A commit is no part of the course, and the first command of the end.
  have commit ⦃before verdict after⦄
      (split : course ++ ending = before ++ ⟨.control .commit, verdict⟩ :: after) :
      before = course ∧ ending = ⟨.control .commit, verdict⟩ :: after := by
    rcases split_append split with ⟨_, within, -⟩ | ⟨mid, rfl, within⟩
    · exact absurd rfl (policyOf_uncommitting (went.allowed within).1)
    · obtain ⟨⟨-, -, rfl, -⟩, -⟩ := ended.of_commit _ within
      exact ⟨List.append_nil course, within⟩
  have decides ⦃exchanged : Exchanged⦄ (member : exchanged ∈ course ++ ending)
      (commits : exchanged.command = .control .commit) :
      (∀ reply, exchanged.verdict = .accepted reply → ∃ value, outcome = .ok value) ∧
        ∀ fault, exchanged.verdict.outcome = .error fault →
          outcome = .error (.storage fault) := by
    obtain ⟨before, after, split⟩ := List.append_of_mem member
    obtain ⟨command, verdict⟩ := exchanged
    obtain rfl : command = .control .commit := commits
    obtain ⟨-, accepted, failed⟩ := ended.of_commit [] (commit split).2
    exact ⟨fun reply same => (accepted reply same).2, failed⟩
  constructor
  case commits =>
    intro before verdict after split
    obtain ⟨rfl, within⟩ := commit split
    obtain ⟨⟨mutates, rfl, -, rollsBack⟩, accepted, -⟩ := ended.of_commit [] within
    refine ⟨mutates, went.unbroken, fun exchanged member => ?_, rollsBack,
      fun ⟨reply, same⟩ => (accepted reply same).1⟩
    rcases List.mem_append.mp member with earlier | later
    · obtain ⟨_, _, split⟩ := List.append_of_mem earlier
      exact policyOf_uncommitting (went.allowed split).1
    · exact rollsBack.command_ne later (.inl rfl)
  case succeeds =>
    intro mutates
    constructor
    · rintro ⟨result, rfl⟩
      cases ended with
      | committed => exact ⟨_, List.mem_append_right _ List.mem_cons_self, rfl⟩
      | read reads => rw [mutates] at reads; cases reads
    · rintro ⟨⟨command, verdict⟩, member, commits⟩
      obtain ⟨rfl, reply, rfl⟩ := commits_iff.mp commits
      exact (decides member rfl).1 reply rfl
  case fails =>
    rintro failure rfl exchanged member commits
    obtain ⟨accepted, failed⟩ := decides member commits
    rcases exchanged.verdict.accepted_or_error with ⟨reply, same⟩ | ⟨fault, same⟩
    · cases (accepted reply same).choose_spec
    · exact ⟨fault, same, Except.error.inj (failed fault same)⟩
  case breaks =>
    intro before exchanged after fault split unbroken failed
    rcases split_append split with ⟨_, within, rfl⟩ | ⟨mid, rfl, within⟩
    · obtain ⟨rfl, rfl⟩ := went.broken_of_error within failed
      cases ended with
      | broken rollsBack => exact ⟨rollsBack, fun _ => rfl⟩
    · obtain ⟨earlier, later⟩ := unbroken_append.mp unbroken
      obtain rfl := went.eq_none_of_unbroken earlier
      exact ended.of_error within later failed
  case releases =>
    rintro draft before verdict after rfl split
    rcases split_append split with ⟨_, within, -⟩ | ⟨mid, rfl, rfl⟩
    · obtain ⟨allowed, unbroken⟩ := went.allowed within
      exact ⟨unbroken, allowed.2 rfl⟩
    · exact absurd (List.mem_append_right _ List.mem_cons_self) (ended.release_notMem verdict)

end CardInventory.Database
