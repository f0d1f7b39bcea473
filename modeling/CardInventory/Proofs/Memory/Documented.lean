import CardInventory.Memory.Service
import CardInventory.Proofs.Api.Documented

/-!
# Statuses of served requests

A service over tables answers requests from the empty tables on. Whatever it has
been asked before, a request that an endpoint accepts is answered with a status that
the endpoint lists. The one exception is a deck that is to be deleted while its
owner's binder has no room for its copies: this is refused as invalid, which the
documentation does not say of a deletion.
-/

namespace CardInventory

open Ledger Inventory

namespace Memory

variable {moments : Nat → Moment} {defaultCapacity : Int} {cors : Api.Cors} {depot : Depot}

/-- The depots that requests lead to. -/
inductive Served (moments : Nat → Moment) (defaultCapacity : Int) (cors : Api.Cors) :
    Depot → Prop where
  | empty : Served moments defaultCapacity cors .empty
  | respond {depot : Depot} (before : Served moments defaultCapacity cors depot)
      (request : Api.Request) :
      Served moments defaultCapacity cors (depot.respond moments defaultCapacity cors request).2

theorem Served.attainable (served : Served moments defaultCapacity cors depot) :
    Attainable moments defaultCapacity depot := by
  induction served with
  | empty => exact .empty
  | respond before request ih =>
      unfold Depot.respond
      split
      · exact ih
      · exact .perform ih _

/-- Requests one after another lead from a depot they have led to on to another. -/
theorem Served.run (served : Served moments defaultCapacity cors depot)
    (requests : List Api.Request) :
    Served moments defaultCapacity cors
      (requests.foldl (fun depot request => (depot.respond moments defaultCapacity cors request).2)
        depot) := by
  induction requests generalizing depot with
  | nil => exact served
  | cons request rest ih => exact ih (served.respond request)

/-- The status of the response to a request that an endpoint accepts is that of the outcome of
its task. -/
theorem Depot.respond_status {endpoint : Api.Endpoint} {request : Api.Request} {task : Api.Task}
    (accepts : endpoint.Accepts request task) :
    (depot.respond moments defaultCapacity cors request).1.status =
      (task.complete (depot.perform moments defaultCapacity task.operation).1).status := by
  have shown : ∀ response : Api.Response,
      (cors.decorate request (response.forMethod request.method)).status = response.status := by
    intro response
    unfold Api.Cors.decorate Api.Response.forMethod
    split <;> split <;> rfl
  unfold Depot.respond
  rw [accepts.serve_eq cors]
  exact shown _

theorem status_of_cannotGrow {failure : Failure} (large : failure.cannotGrow = true) :
    (Api.Problem.ledger failure).status = 400 := by
  unfold Failure.cannotGrow at large
  split at large
  · rfl
  · rfl
  · cases large

section Deletion

variable {operation : Operation} {deck : Uuid}

/-- A deletion that is performed has found room for the copies of the deck. -/
theorem room_of_deletion (attainable : Attainable moments defaultCapacity depot)
    (deletes : operation = .deleteDeck deck) {result : operation.Result}
    (performed : (depot.perform moments defaultCapacity operation).1 = .ok result) :
    ¬ depot.store.Overfills deck := by
  subst deletes
  rw [Depot.perform_fst attainable.refusal] at performed
  exact ((releaseDeck_ends attainable.valid deck).ok (Prod.ext performed rfl)).2.2

/-- A deletion that fails is refused as invalid just where there is no room for the copies. -/
theorem invalid_deletion_iff (attainable : Attainable moments defaultCapacity depot)
    (deletes : operation = .deleteDeck deck) {failure : Failure}
    (failed : (depot.perform moments defaultCapacity operation).1 = .error failure) :
    (Api.Problem.ledger failure).status = 400 ↔ depot.store.Overfills deck := by
  subst deletes
  rw [Depot.perform_fst attainable.refusal] at failed
  rcases (releaseDeck_ends attainable.valid deck).error (Prod.ext failed rfl) with
    ⟨large, overfills⟩ | ⟨rfl, missing, -⟩
  · exact ⟨fun _ => overfills, fun _ => status_of_cannotGrow large⟩
  · constructor
    · intro (invalid : 404 = 400)
      exact absurd invalid (by decide)
    · rintro ⟨row, card, found, -⟩
      cases missing.symm.trans found

end Deletion

/-- A request that an endpoint accepts is answered with a status the endpoint lists, except that
a deletion is refused as invalid where the binder has no room for the copies of the deck. -/
theorem served_status_listed_iff (positive : 1 ≤ defaultCapacity)
    (served : Served moments defaultCapacity cors depot) {endpoint : Api.Endpoint}
    {request : Api.Request} {task : Api.Task} (accepts : endpoint.Accepts request task) :
    let status := (depot.respond moments defaultCapacity cors request).1.status
    let overfills := ∃ deck, task.operation = .deleteDeck deck ∧ depot.store.Overfills deck
    (status ∉ endpoint.statuses ↔ overfills) ∧ (overfills → status = 400) := by
  intro status overfills
  have same : status = (task.complete _).status := Depot.respond_status accepts
  have attainable := served.attainable
  have documented := accepts.documented
  cases outcome : (depot.perform moments defaultCapacity task.operation).1 with
  | ok result =>
      rw [outcome] at same
      have listed : status ∈ endpoint.statuses := same ▸ documented.succeeds result
      have room : ¬ overfills := by
        rintro ⟨deck, deletes, beyond⟩
        exact room_of_deletion attainable deletes outcome beyond
      exact ⟨⟨fun missing => absurd listed missing, fun beyond => absurd beyond room⟩,
        fun beyond => absurd beyond room⟩
  | error failure =>
      rw [outcome] at same
      change status = (Api.Problem.ledger failure).status at same
      have invalid : overfills ↔ status = 400 ∧ ∃ deck, task.operation = .deleteDeck deck := by
        rw [same]
        constructor
        · rintro ⟨deck, deletes, beyond⟩
          exact ⟨(invalid_deletion_iff attainable deletes outcome).mpr beyond, deck, deletes⟩
        · rintro ⟨bad, deck, deletes⟩
          exact ⟨deck, deletes, (invalid_deletion_iff attainable deletes outcome).mp bad⟩
      have unlisted := documented.refused status (same ▸ attainable.refused positive outcome)
      exact ⟨unlisted.trans invalid.symm, fun beyond => (invalid.mp beyond).1⟩

/-- Copies that have been credited meanwhile keep a deck of two more from being deleted. -/
theorem crowded_deletion_unlisted :
    let moments : Nat → Moment := fun n => ⟨⟨n, 0⟩, .ofNat n⟩
    let cors : Api.Cors := ⟨[], none⟩
    let send := fun method path body =>
      Api.Request.mk method path none [("content-type", "application/json")] (Text.bytesOf body)
    let binder := "/api/v1/users/00000000-0000-0000-0000-000000000000/binder/" ++
      "00000000-0000-0000-0000-000000000007/credit"
    let deck := "/api/v1/decks/00000000-0000-0000-0000-000000000003"
    let requests :=
      [send "POST" "/api/v1/users" "\x7b\"username\":\"ada\"\x7d",
        send "POST" "/api/v1/cards" ("\x7b\"id\":\"00000000-0000-0000-0000-000000000007\"," ++
          "\"name\":\"Forest\",\"faces\":[\x7b\"name\":\"Forest\"\x7d]\x7d"),
        send "POST" "/api/v1/decks"
          ("\x7b\"owner_id\":\"00000000-0000-0000-0000-000000000000\"," ++
            "\"name\":\"Elves\",\"format\":\"modern\"\x7d"),
        send "POST" binder "\x7b\"quantity\":2147483647\x7d",
        send "POST" (deck ++ "/allocations")
          "\x7b\"card_id\":\"00000000-0000-0000-0000-000000000007\",\"quantity\":2\x7d",
        send "POST" binder "\x7b\"quantity\":2\x7d"]
    let depot := requests.foldl
      (fun depot request => (depot.respond moments 60 cors request).2) Depot.empty
    let deletion := send "DELETE" deck ""
    (1 : Int) ≤ 60 ∧ Served moments 60 cors depot ∧
      (∃ task, Api.Endpoint.deleteDeck.Accepts deletion task) ∧
      (depot.respond moments 60 cors deletion).1.status = 400 ∧
      400 ∉ Api.Endpoint.deleteDeck.statuses := by
  intro moments cors send binder deck requests depot deletion
  have served : Served moments 60 cors depot := Served.empty.run requests
  have counts : ((depot.store.decks.get? (.ofNat 3)).map fun row => row.owner,
        depot.store.held (.ofNat 0) (.ofNat 7), depot.store.inDeck (.ofNat 3) (.ofNat 7)) =
      (some (.ofNat 0), 2147483647, 2) := by
    -- Under its name the depot would be run a second time to see that it is this one.
    rw [show depot = requests.foldl _ Depot.empty from rfl]
    decide +kernel
  have parts : Api.pathParts deletion.path =
      Api.basePath ++ ["decks", "00000000-0000-0000-0000-000000000003"] := by
    decide +kernel
  have candidate := Api.mem_candidates
    (show Api.Endpoint.deleteDeck ∈ Api.endpoints by simp [Api.endpoints]) parts rfl
  have identified : Api.pathId "00000000-0000-0000-0000-000000000003" = .ok (.ofNat 3) := by
    decide +kernel
  let task : Api.Task :=
    ⟨.deleteDeck (.ofNat 3), fun released => Api.respondWith 200 (Api.releasedDeck released)⟩
  have accepts : Api.Endpoint.deleteDeck.Accepts deletion task :=
    ⟨_, candidate, rfl, by simp only [Api.Endpoint.deleteDeck, Api.withId, identified]; rfl⟩
  clear_value depot
  obtain ⟨owned, holding, placed⟩ : _ ∧ _ ∧ _ := by simpa using counts
  obtain ⟨row, found, owner⟩ := owned
  have beyond : depot.store.Overfills (.ofNat 3) := by
    refine ⟨row, .ofNat 7, found, ?_⟩
    rw [owner, holding, placed]
    decide
  obtain ⟨-, invalid⟩ := served_status_listed_iff (by decide) served accepts
  exact ⟨by decide, served, ⟨task, accepts⟩, invalid ⟨_, rfl, beyond⟩, by decide⟩

end Memory

end CardInventory
