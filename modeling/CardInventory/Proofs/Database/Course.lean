import CardInventory.Proofs.Database.Unit

/-!
# The course of a unit of work

The commands of a unit of work are sent one after another until one of them is not
carried out. What may be sent is told by a policy, which looks at everything that was
sent before: a procedure that assures a policy, whatever is replied, follows it over
every connection, and its first fault is what it fails with.
-/

namespace CardInventory.Database

open Storage

/-- What a command comes to. -/
def Verdict.outcome : Verdict → Except Fault Outcome
  | .accepted outcome => .ok outcome
  | .refused error => .error error.fault
  | .barred => .error Connection.barredFault
  | .unanswered => .error Connection.unansweredFault

theorem Verdict.outcome_eq_ok_iff {verdict : Verdict} {outcome : Outcome} :
    verdict.outcome = .ok outcome ↔ verdict = .accepted outcome := by
  cases verdict <;> simp [Verdict.outcome]

theorem Verdict.accepted_or_error (verdict : Verdict) :
    (∃ outcome, verdict = .accepted outcome) ∨ ∃ fault, verdict.outcome = .error fault := by
  cases verdict <;> simp [Verdict.outcome]

/-- All commands were carried out. -/
def Unbroken (sent : List Exchanged) : Prop :=
  ∀ exchanged ∈ sent, ∃ outcome, exchanged.verdict = .accepted outcome

/-- What may be sent after what was sent before. -/
abbrev Policy := List Exchanged → Command → Prop

/-- What is sent to return to a savepoint that was given up. -/
def returned : Exchanged :=
  ⟨.control .rollbackToSavepoint, .accepted (.affected 0)⟩

/-- What a connection has sent by the time it sends the next command: it may first have to return
to a savepoint. -/
def Flushed (sent flushed : List Exchanged) : Prop :=
  flushed = sent ∨ flushed = sent ++ [returned]

/-- What was sent over a connection, each command as a policy has it, and the fault at which it
was broken off. -/
inductive Course (policy : Policy) : List Exchanged → Option Fault → Prop where
  | start : Course policy [] none
  | goOn {sent : List Exchanged} {command : Command} {outcome : Outcome} :
      Course policy sent none → policy sent command →
        Course policy (sent ++ [⟨command, .accepted outcome⟩]) none
  | breakOff {sent : List Exchanged} {command : Command} {verdict : Verdict} {fault : Fault} :
      Course policy sent none → policy sent command → verdict.outcome = .error fault →
        Course policy (sent ++ [⟨command, verdict⟩]) (some fault)

namespace Policy

/-- What a command leads to. -/
def ofCommand (policy : Policy) :
    Procedure.Specification Command (fun _ => Outcome) (List Exchanged) :=
  fun command next sent =>
    ∀ flushed, Flushed sent flushed →
      policy flushed command ∧ ∀ outcome, next outcome (flushed ++ [⟨command, .accepted outcome⟩])

/-- What a request leads to, whatever identifier is drawn for it. -/
def ofRequest (policy : Policy) : Procedure.Specification Request Request.Reply (List Exchanged) :=
  fun request next sent =>
    ∀ fresh, (exchange fresh request).Assures policy.ofCommand next sent

theorem monotone_ofCommand (policy : Policy) : Procedure.Monotone policy.ofCommand := by
  intro command sent good better weaker leads flushed ready
  obtain ⟨allowed, next⟩ := leads flushed ready
  exact ⟨allowed, fun outcome => weaker outcome _ (next outcome)⟩

end Policy

/-! ## What a course tells -/

theorem unbroken_nil : Unbroken [] :=
  fun _ member => by cases member

theorem unbroken_append {sent rest : List Exchanged} :
    Unbroken (sent ++ rest) ↔ Unbroken sent ∧ Unbroken rest :=
  List.forall_mem_append

theorem unbroken_accepted (command : Command) (outcome : Outcome) :
    Unbroken [⟨command, .accepted outcome⟩] := by
  simp [Unbroken]

namespace Course

variable {policy : Policy} {sent : List Exchanged} {broken : Option Fault}

theorem unbroken (course : Course policy sent none) : Unbroken sent := by
  generalize going : (none : Option Fault) = broken at course
  induction course with
  | start => exact unbroken_nil
  | goOn _ _ ih => exact unbroken_append.mpr ⟨ih going, unbroken_accepted _ _⟩
  | breakOff => cases going

/-- Each command was sent as the policy has it, and all before it were carried out. -/
theorem allowed (course : Course policy sent broken) {before after : List Exchanged}
    {exchanged : Exchanged} (split : sent = before ++ exchanged :: after) :
    policy before exchanged.command ∧ Unbroken before := by
  induction course generalizing after with
  | start => simp at split
  | goOn course sends ih =>
      rcases split_append_singleton split with ⟨rfl, rfl, -⟩ | ⟨init, split, -⟩
      · exact ⟨sends, course.unbroken⟩
      · exact ih split
  | breakOff course sends _ ih =>
      rcases split_append_singleton split with ⟨rfl, rfl, -⟩ | ⟨init, split, -⟩
      · exact ⟨sends, course.unbroken⟩
      · exact ih split

/-- Where a command was not carried out, it was the last, and the course was broken off at its
fault. -/
theorem broken_of_error (course : Course policy sent broken) {before after : List Exchanged}
    {exchanged : Exchanged} {fault : Fault} (split : sent = before ++ exchanged :: after)
    (failed : exchanged.verdict.outcome = .error fault) : broken = some fault ∧ after = [] := by
  have breaks (rest : List Exchanged) : ¬ Unbroken (before ++ exchanged :: rest) := by
    intro unbroken
    obtain ⟨outcome, accepted⟩ := unbroken exchanged (by simp)
    rw [accepted] at failed
    cases failed
  cases course with
  | start => simp at split
  | goOn course sends => exact absurd (split ▸ (course.goOn sends).unbroken) (breaks after)
  | breakOff course sends stopped =>
      rcases split_append_singleton split with ⟨-, rfl, rfl⟩ | ⟨init, rfl, -⟩
      · rw [stopped] at failed
        exact ⟨congrArg some (Except.error.inj failed), rfl⟩
      · exact absurd course.unbroken (breaks init)

/-- A course of commands that were all carried out was not broken off. -/
theorem eq_none_of_unbroken (course : Course policy sent broken) (unbroken : Unbroken sent) :
    broken = none := by
  cases course with
  | start => rfl
  | goOn => rfl
  | breakOff _ _ failed =>
      obtain ⟨outcome, rfl⟩ := unbroken _ (List.mem_append_right _ List.mem_cons_self)
      cases failed

end Course

/-! ## Connections -/

namespace Connection

theorem flushed_flush (connection : Connection) :
    Flushed connection.sent connection.flush.sent := by
  unfold flush
  split
  · exact .inr rfl
  · exact .inl rfl

/-- What is sent is recorded with what it comes to. -/
theorem send_recorded (command : Command) (connection : Connection) :
    ∃ verdict, (send command connection).1 = verdict.outcome ∧
      (send command connection).2.sent = connection.flush.sent ++ [⟨command, verdict⟩] := by
  simp only [send]
  split
  · exact ⟨.barred, rfl, rfl⟩
  · unfold carryOut
    split
    · split
      · rename_i error _
        exact ⟨.refused error, rfl, rfl⟩
      · exact ⟨.accepted (.affected 0), rfl, sent_advance _ _⟩
    · split
      · exact ⟨.unanswered, rfl, rfl⟩
      · rename_i error _ _
        exact ⟨.refused error, rfl, rfl⟩
      · rename_i outcome _ _
        exact ⟨.accepted outcome, rfl, rfl⟩

end Connection

namespace Policy

variable {policy : Policy} {connection : Connection}

/-- What was sent so far is a course, and a condition holds of it. -/
def Going (policy : Policy) (condition : List Exchanged → Prop) (connection : Connection) : Prop :=
  Course policy connection.sent none ∧ condition connection.sent

/-- A policy that does not mind a return to a savepoint. -/
def Returns (policy : Policy) : Prop :=
  ∀ sent, policy sent (.control .rollbackToSavepoint)

theorem Returns.flushed (returns : policy.Returns) {sent flushed : List Exchanged}
    (course : Course policy sent none) (ready : Flushed sent flushed) :
    Course policy flushed none := by
  rcases ready with rfl | rfl
  · exact course
  · exact course.goOn (returns sent)

/-- A command that is sent as the policy has it goes on with the course or breaks it off. -/
theorem Returns.send (returns : policy.Returns) {command : Command}
    (course : Course policy connection.sent none)
    (sends : policy connection.flush.sent command) :
    match Connection.send command connection with
    | (.ok outcome, after) => Course policy after.sent none ∧
        after.sent = connection.flush.sent ++ [⟨command, .accepted outcome⟩]
    | (.error fault, after) => Course policy after.sent (some fault) := by
  obtain ⟨verdict, came, recorded⟩ := Connection.send_recorded command connection
  have before := returns.flushed course connection.flushed_flush
  split
  · rename_i outcome after sent
    rw [sent] at came recorded
    obtain rfl := Verdict.outcome_eq_ok_iff.mp came.symm
    exact ⟨recorded ▸ before.goOn sends, recorded⟩
  · rename_i fault after sent
    rw [sent] at came recorded
    exact recorded ▸ before.breakOff sends came.symm

end Policy

end CardInventory.Database
