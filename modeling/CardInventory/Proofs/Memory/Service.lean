import CardInventory.Memory.Service
import CardInventory.Proofs.Api.Endpoint
import CardInventory.Proofs.Inventory.Reachable

/-!
# What requests leave unchanged

The tables of a depot change only when a unit of work is committed, and a unit is
committed only when a rule that changes something has succeeded. A client therefore
sees a response of success to a request other than GET wherever the tables have
changed.
-/

namespace CardInventory

open Ledger Inventory

namespace Api

variable {request : Request} {cors : Cors}

theorem succeeded_forMethod (method : String) (response : Response) :
    (response.forMethod method).succeeded = response.succeeded := by
  unfold Response.forMethod
  split <;> rfl

theorem succeeded_decorate (response : Response) :
    (cors.decorate request response).succeeded = response.succeeded := by
  unfold Cors.decorate
  split <;> rfl

/-- A request is answered at once, or by the outcome of a task that fits its method. -/
theorem serve_cases (cors : Cors) (request : Request) :
    (∃ response, serve cors request = .answered response) ∨
      ∃ task : Task, task.Fits (servedMethod request.method) ∧
        serve cors request = .pending task.operation fun outcome =>
          cors.decorate request ((task.complete outcome).forMethod request.method) := by
  simp only [serve]
  split
  · exact .inl ⟨_, rfl⟩
  · cases routed : route request with
    | answer response => exact .inl ⟨_, rfl⟩
    | perform task => exact .inr ⟨task, fits_of_route routed, rfl⟩

end Api

namespace Memory.Depot

variable {moments : Nat → Moment} {defaultCapacity : Int} {depot : Depot}

/-- An operation that only reads is not committed. -/
theorem perform_store_of_not_mutates {operation : Operation}
    (reading : operation.mutates = false) :
    (depot.perform moments defaultCapacity operation).2.store = depot.store := by
  rcases outcome : depot.perform moments defaultCapacity operation with ⟨failure | result, after⟩
  · exact (perform_eq_error outcome).1
  · obtain ⟨staged, -, same⟩ := perform_eq_ok outcome
    rw [same, reading]
    rfl

theorem servedMethod_of_reading {method : String} (reading : method = "GET" ∨ method = "HEAD") :
    Api.servedMethod method = "GET" := by
  rcases reading with rfl | rfl <;> rfl

/-- The response to a request that changes the tables is one of success, and the request is not
one that only reads. -/
theorem respond_store {cors : Api.Cors} {request : Api.Request}
    (unsuccessful : (depot.respond moments defaultCapacity cors request).1.succeeded = false ∨
      Api.servedMethod request.method = "GET") :
    (depot.respond moments defaultCapacity cors request).2.store = depot.store := by
  unfold respond at unsuccessful ⊢
  rcases Api.serve_cases cors request with ⟨response, served⟩ | ⟨task, fits, served⟩
  · rw [served]
  · rw [served] at unsuccessful ⊢
    rcases outcome : depot.perform moments defaultCapacity task.operation with
      ⟨failure | result, after⟩
    · simp only [outcome]
      exact (perform_eq_error outcome).1
    · simp only [outcome, Api.succeeded_decorate, Api.succeeded_forMethod, Api.Task.complete,
        fits.succeeds result, Bool.true_eq_false, false_or] at unsuccessful ⊢
      have kept : (depot.perform moments defaultCapacity task.operation).2.store = depot.store :=
        perform_store_of_not_mutates (fits.reads unsuccessful)
      rw [outcome] at kept
      exact kept

/-- Whatever the depot, its tables are left as they are by a request that is not answered with
success, by a GET or a HEAD request, by an operation or a whole unit of work that fails, however
much it has staged, and by an operation that only reads. -/
theorem failures_and_readings_keep_tables (moments : Nat → Moment) (defaultCapacity : Int)
    (depot : Depot) :
    (∀ cors request,
        (depot.respond moments defaultCapacity cors request).1.succeeded = false ∨
            request.method = "GET" ∨ request.method = "HEAD" →
          (depot.respond moments defaultCapacity cors request).2.store = depot.store) ∧
      (∀ operation failure after,
        depot.perform moments defaultCapacity operation = (.error failure, after) →
          after.store = depot.store) ∧
      (∀ operation, operation.mutates = false →
        (depot.perform moments defaultCapacity operation).2.store = depot.store) ∧
      ∀ (α : Type) (commits : Bool) (rule : Ledger α) (failure : Failure) (after : Depot),
        depot.runUnit moments commits rule = (.error failure, after) →
          after.store = depot.store := by
  refine ⟨?requests, ?failures, ?readings, ?units⟩
  case requests =>
    rintro cors request (failed | reading)
    · exact respond_store (.inl failed)
    · exact respond_store (.inr (servedMethod_of_reading reading))
  case failures =>
    intro operation failure after failed
    exact (perform_eq_error failed).1
  case readings =>
    intro operation reading
    exact perform_store_of_not_mutates reading
  case units =>
    intro α commits rule failure after failed
    exact (runUnit_eq_error failed).1

/-- Copies that no longer fit in the binder stay in their deck, although they have left it by
the time the binder refuses them. -/
theorem failed_deallocation_keeps_tables :
    let moments : Nat → Moment := fun n => ⟨⟨n, 0⟩, .ofNat n⟩
    let user : Uuid := .ofNat 0
    let card : Uuid := .ofNat 7
    let deck : Uuid := .ofNat 3
    let operations : List Operation :=
      [.createUser ⟨"ada", none⟩, .registerCard ⟨card, "Forest", none, none, none, none, [default]⟩,
        .createDeck ⟨user, "Elves", "modern", none, false, none⟩,
        .creditBinder user card 2147483647, .allocate deck card 2 .main,
        .creditBinder user card 2]
    let depot := (Depot.empty.runUnit moments true (inTurn 60 operations)).2
    let body := "\x7b\"card_id\":\"00000000-0000-0000-0000-000000000007\",\"quantity\":2\x7d"
    let request : Api.Request :=
      ⟨"POST", "/api/v1/decks/00000000-0000-0000-0000-000000000003/deallocations", none,
        [("content-type", "application/json")], Text.bytesOf body⟩
    (depot.respond moments 60 ⟨[], none⟩ request).1.succeeded = false ∧
      depot.store.copiesIn deck = 2 ∧
      (depot.respond moments 60 ⟨[], none⟩ request).2.store = depot.store := by
  intro moments user card deck operations depot body request
  have refused : (depot.respond moments 60 ⟨[], none⟩ request).1.succeeded = false := by
    decide +kernel
  have present : depot.store.copiesIn deck = 2 := by decide +kernel
  clear_value depot
  exact ⟨refused, present,
    (failures_and_readings_keep_tables moments 60 depot).1 _ request (.inl refused)⟩

end Memory.Depot

end CardInventory
