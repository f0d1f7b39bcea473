import CardInventory.Proofs.Api.Route
import CardInventory.Proofs.Inventory.Statuses

/-!
# Documented statuses

Each endpoint lists the statuses of its responses. The list covers what an endpoint's
operation results in and all that the operation may be refused with, except that a
deck is deleted without a word on deletions that are refused as invalid.
-/

namespace CardInventory.Api

open Inventory

/-- The statuses the documentation lists for an endpoint. -/
def Endpoint.statuses (endpoint : Endpoint) : List Nat :=
  endpoint.responses.map Prod.fst

/-- Listed statuses are those a task may be completed with, but for a deletion that is refused
as invalid. -/
structure Task.Documented (statuses : List Nat) (task : Task) : Prop where
  succeeds : ∀ result, (task.respond result).status ∈ statuses
  refused : ∀ status ∈ task.operation.refusals,
    status ∉ statuses ↔ status = 400 ∧ ∃ deck, task.operation = .deleteDeck deck

/-- A task other than a deletion is documented where all its statuses are listed. -/
theorem Gives.listing {statuses : List Nat} {task : Task} (status : Nat) (refusals : List Nat)
    (shown : ∀ result, (task.respond result).status = status)
    (same : task.operation.refusals = refusals)
    (other : ∀ deck, task.operation ≠ .deleteDeck deck)
    (listed : status :: refusals ⊆ statuses) : Gives (Task.Documented statuses) (.ok task) := by
  refine .ok ⟨fun result => shown result ▸ listed List.mem_cons_self, fun refusal member => ?_⟩
  have covered := listed (List.mem_cons_of_mem _ (same ▸ member))
  exact ⟨fun missing => absurd covered missing, fun ⟨_, deck, deletes⟩ => (other deck deletes).elim⟩

/-- An endpoint gives tasks whose statuses are those it lists. -/
def Endpoint.Documents (endpoint : Endpoint) : Prop :=
  ∀ parts request, Gives (Task.Documented endpoint.statuses) (endpoint.handle parts request)

theorem debitBinder_documents : Endpoint.debitBinder.Documents := by
  refine Gives.withIds fun _ _ _ => .bind fun _ =>
    .listing 200 [400, 404, 409] (fun entry => ?_) rfl (by simp) (by decide)
  cases entry <;> rfl

/-- A deletion that is refused as invalid is not listed, and nothing else is missing. -/
theorem deleteDeck_documents : Endpoint.deleteDeck.Documents :=
  Gives.withId fun deck _ => .ok
    { succeeds := fun _ => show 200 ∈ Endpoint.deleteDeck.statuses by decide
      refused := by
        intro status member
        have either : status = 400 ∨ status = 404 := by simpa [Operation.refusals] using member
        rcases either with rfl | rfl
        · exact ⟨fun _ => ⟨rfl, deck, rfl⟩, fun _ => by decide⟩
        · exact ⟨fun missing => absurd (by decide) missing, fun invalid => nomatch invalid.1⟩ }

/-- Every endpoint gives tasks whose statuses are those it lists. -/
theorem endpoints_document : ∀ endpoint ∈ endpoints, endpoint.Documents := by
  simp only [endpoints, List.forall_mem_cons]
  refine ⟨?createUser, ?getUser, ?listUserDecks, ?listCards, ?registerCard, ?getCard, ?listBinder,
    ?showQuantity, ?creditBinder, debitBinder_documents, ?createDeck, ?getDeck, ?updateDeck,
    deleteDeck_documents, ?showTotals, ?exportDeck, ?allocate, ?deallocate, ?moveZone, ?transfer,
    List.forall_mem_nil _⟩
  -- What is only read.
  case getUser | listUserDecks | getCard | getDeck | showTotals | exportDeck =>
    exact Gives.withId fun _ _ => .listing 200 [404] (fun _ => rfl) rfl (by simp) (by decide)
  case listBinder =>
    exact Gives.withId fun _ _ => .bind fun _ =>
      .listing 200 [404] (fun _ => rfl) rfl (by simp) (by decide)
  case listCards =>
    exact fun _ _ => Gives.bind fun _ => .listing 200 [] (fun _ => rfl) rfl (by simp) (by decide)
  case showQuantity =>
    exact Gives.withIds fun _ _ _ => .listing 200 [] (fun _ => rfl) rfl (by simp) (by decide)
  -- What is created.
  case createUser | registerCard =>
    exact fun _ _ => Gives.bind fun _ =>
      .listing 201 [400, 409] (fun _ => rfl) rfl (by simp) (by decide)
  case createDeck =>
    exact fun _ _ => Gives.bind fun _ =>
      .listing 201 [400, 404] (fun _ => rfl) rfl (by simp) (by decide)
  -- What is changed or moved.
  case creditBinder =>
    exact Gives.withIds fun _ _ _ => .bind fun _ =>
      .listing 200 [400, 404] (fun _ => rfl) rfl (by simp) (by decide)
  case updateDeck | allocate | deallocate | moveZone =>
    exact Gives.withId fun _ _ => .bind fun _ =>
      .listing 200 [400, 404, 409] (fun _ => rfl) rfl (by simp) (by decide)
  case transfer =>
    exact fun _ _ => Gives.bind fun _ =>
      .listing 200 [400, 404, 409] (fun _ => rfl) rfl (by simp) (by decide)

/-- A request is accepted as a task whose statuses are those the endpoint lists. -/
theorem Endpoint.Accepts.documented {endpoint : Endpoint} {request : Request} {task : Task}
    (accepts : endpoint.Accepts request task) : task.Documented endpoint.statuses := by
  obtain ⟨places, candidate, -, handled⟩ := accepts
  exact endpoints_document endpoint (mem_endpoints_of_candidates candidate) places request handled

end CardInventory.Api
