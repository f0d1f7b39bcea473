/-!
# Procedures

A procedure asks one request after another and computes with the replies, until
it is done or fails. What answers the requests is left open: the same rules run
against tables in memory and against a database. A request that is answered by
a fault ends the procedure with this fault.
-/

namespace CardInventory

/-- A computation that asks requests. -/
inductive Procedure (Request : Type) (Reply : Request → Type) (Failure α : Type) : Type where
  | done (value : α)
  | fail (failure : Failure)
  | ask (request : Request) (next : Reply request → Procedure Request Reply Failure α)

namespace Procedure

variable {Request : Type} {Reply : Request → Type} {Failure Fault α β σ : Type}

/-- Continue a procedure with another one that depends on its value. -/
def bind (first : Procedure Request Reply Failure α)
    (second : α → Procedure Request Reply Failure β) : Procedure Request Reply Failure β :=
  match first with
  | done value => second value
  | fail failure => fail failure
  | ask request next => ask request fun reply => (next reply).bind second

instance : Monad (Procedure Request Reply Failure) where
  pure := done
  bind := bind

/-- The procedure of a single request. -/
def request (question : Request) : Procedure Request Reply Failure (Reply question) :=
  ask question done

/-- The procedure that ends at once with the outcome of a check. -/
def ofExcept : Except Failure α → Procedure Request Reply Failure α
  | .ok value => done value
  | .error failure => fail failure

/-- What answers requests: it replies, or reports a fault, and goes on to another state. -/
abbrev Answerer (Request : Type) (Reply : Request → Type) (Fault σ : Type) :=
  (question : Request) → σ → Except Fault (Reply question) × σ

/-- Run a procedure. The state reached so far is kept when it fails. -/
def run (answer : Answerer Request Reply Fault σ) (lift : Fault → Failure) :
    Procedure Request Reply Failure α → σ → Except Failure α × σ
  | done value, state => (.ok value, state)
  | fail failure, state => (.error failure, state)
  | ask question next, state =>
      match answer question state with
      | (.ok reply, state) => (next reply).run answer lift state
      | (.error fault, state) => (.error (lift fault), state)

@[simp]
theorem bind_done (value : α) (second : α → Procedure Request Reply Failure β) :
    (done value : Procedure Request Reply Failure α).bind second = second value :=
  rfl

@[simp]
theorem bind_fail (failure : Failure) (second : α → Procedure Request Reply Failure β) :
    (fail failure : Procedure Request Reply Failure α).bind second = fail failure :=
  rfl

theorem bind_done_right (procedure : Procedure Request Reply Failure α) :
    (procedure.bind fun value => done value) = procedure := by
  induction procedure with
  | done _ => rfl
  | fail _ => rfl
  | ask question next ih => exact congrArg (ask question) (funext ih)

theorem bind_assoc {γ : Type} (procedure : Procedure Request Reply Failure α)
    (second : α → Procedure Request Reply Failure β)
    (third : β → Procedure Request Reply Failure γ) :
    (procedure.bind second).bind third = procedure.bind fun value => (second value).bind third := by
  induction procedure with
  | done _ => rfl
  | fail _ => rfl
  | ask question next ih => exact congrArg (ask question) (funext ih)

instance : LawfulMonad (Procedure Request Reply Failure) :=
  LawfulMonad.mk' _ bind_done_right (fun _ _ => rfl) bind_assoc

/-- A procedure followed by another runs the second from where the first ended. -/
theorem run_bind (answer : Answerer Request Reply Fault σ) (lift : Fault → Failure)
    (first : Procedure Request Reply Failure α) (second : α → Procedure Request Reply Failure β)
    (state : σ) :
    (first >>= second).run answer lift state =
      match first.run answer lift state with
      | (.ok value, state) => (second value).run answer lift state
      | (.error failure, state) => (.error failure, state) := by
  change (first.bind second).run answer lift state = _
  induction first generalizing state with
  | done _ => rfl
  | fail _ => rfl
  | ask question next ih =>
      simp only [bind, run]
      rcases answer question state with ⟨_ | reply, rest⟩
      · rfl
      · exact ih reply rest

end Procedure

end CardInventory
