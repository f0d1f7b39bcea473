import CardInventory.Api.Router

/-!
# Tasks of endpoints

What is common to all endpoints: one that is reached by GET gives tasks that only
read, and whatever an operation results in is shown with a status of success.
-/

namespace CardInventory.Api

/-- Whether a response has a status of success. -/
def Response.succeeded (response : Response) : Bool :=
  200 ≤ response.status && response.status < 300

/-- Whatever task a request is read as has a property. -/
def Gives (property : Task → Prop) (read : Except Rejection Task) : Prop :=
  ∀ ⦃task⦄, read = .ok task → property task

section Gives

variable {property : Task → Prop} {α : Type}

theorem Gives.ok {task : Task} (given : property task) : Gives property (.ok task) := by
  intro task' read
  obtain rfl := Except.ok.inj read
  exact given

theorem Gives.bind {first : Except Rejection α} {second : α → Except Rejection Task}
    (gives : ∀ value, Gives property (second value)) : Gives property (first >>= second) := by
  intro task read
  cases outcome : first with
  | error rejection =>
      rw [outcome] at read
      cases read
  | ok value =>
      rw [outcome] at read
      exact gives value read

theorem Gives.withId {next : Uuid → Request → Except Rejection Task}
    (gives : ∀ id request, Gives property (next id request)) (parts : List String)
    (request : Request) : Gives property (withId next parts request) := by
  unfold Api.withId
  split
  · exact .bind fun id => gives id request
  · exact fun _ read => nomatch read

theorem Gives.withIds {next : Uuid → Uuid → Request → Except Rejection Task}
    (gives : ∀ first second request, Gives property (next first second request))
    (parts : List String) (request : Request) : Gives property (withIds next parts request) := by
  unfold Api.withIds
  split
  · exact .bind fun first => .bind fun second => gives first second request
  · exact fun _ read => nomatch read

end Gives

/-- A task that a request with a method may become. -/
structure Task.Fits (method : String) (task : Task) : Prop where
  reads : method = "GET" → task.operation.mutates = false
  succeeds : ∀ result, (task.respond result).succeeded = true

/-- Whatever task a request is read as may become of a request with a method. -/
def Yields (method : String) (read : Except Rejection Task) : Prop :=
  ∀ ⦃task⦄, read = .ok task → task.Fits method

section Yields

variable {method : String} {α : Type}

/-- A task that only reads may become of a request with any method. -/
theorem Yields.reading {task : Task} (reads : task.operation.mutates = false)
    (succeeds : ∀ result, (task.respond result).succeeded = true) : Yields method (.ok task) :=
  Gives.ok ⟨fun _ => reads, succeeds⟩

/-- Any task may become of a request with a method other than GET. -/
theorem Yields.writing {task : Task} (other : method ≠ "GET")
    (succeeds : ∀ result, (task.respond result).succeeded = true) : Yields method (.ok task) :=
  Gives.ok ⟨fun get => absurd get other, succeeds⟩

theorem Yields.bind {first : Except Rejection α} {second : α → Except Rejection Task}
    (yields : ∀ value, Yields method (second value)) : Yields method (first >>= second) :=
  Gives.bind yields

theorem Yields.withId {next : Uuid → Request → Except Rejection Task}
    (yields : ∀ id request, Yields method (next id request)) (parts : List String)
    (request : Request) : Yields method (withId next parts request) :=
  Gives.withId yields parts request

theorem Yields.withIds {next : Uuid → Uuid → Request → Except Rejection Task}
    (yields : ∀ first second request, Yields method (next first second request))
    (parts : List String) (request : Request) : Yields method (withIds next parts request) :=
  Gives.withIds yields parts request

end Yields

/-- An endpoint gives tasks that fit its method. -/
def Endpoint.Tame (endpoint : Endpoint) : Prop :=
  ∀ parts request, Yields endpoint.method (endpoint.handle parts request)

/-- The entry that is left of a debit is shown, and so is that there is none. -/
theorem debitBinder_tame : Endpoint.debitBinder.Tame := by
  refine .withIds fun _ _ _ => .bind fun _ => .writing (by decide) fun entry => ?_
  cases entry <;> rfl

/-- Every endpoint gives tasks that fit its method. -/
theorem endpoints_tame : ∀ endpoint ∈ endpoints, endpoint.Tame := by
  simp only [endpoints, List.forall_mem_cons]
  refine ⟨?createUser, ?getUser, ?listUserDecks, ?listCards, ?registerCard, ?getCard, ?listBinder,
    ?showQuantity, ?creditBinder, debitBinder_tame, ?createDeck, ?getDeck, ?updateDeck,
    ?deleteDeck, ?showTotals, ?exportDeck, ?allocate, ?deallocate, ?moveZone, ?transfer, nofun⟩
  -- What is read by its identifiers alone, and what is read with a query.
  case getUser | listUserDecks | getCard | getDeck | showTotals | exportDeck =>
    exact .withId fun _ _ => .reading rfl fun _ => rfl
  case showQuantity => exact .withIds fun _ _ _ => .reading rfl fun _ => rfl
  case listCards => exact fun _ _ => .bind fun _ => .reading rfl fun _ => rfl
  case listBinder => exact .withId fun _ _ => .bind fun _ => .reading rfl fun _ => rfl
  -- What is changed, all but a deletion with a body.
  case deleteDeck => exact .withId fun _ _ => .writing (by decide) fun _ => rfl
  case createUser | registerCard | createDeck | transfer =>
    exact fun _ _ => .bind fun _ => .writing (by decide) fun _ => rfl
  case updateDeck | allocate | deallocate | moveZone =>
    exact .withId fun _ _ => .bind fun _ => .writing (by decide) fun _ => rfl
  case creditBinder => exact .withIds fun _ _ _ => .bind fun _ => .writing (by decide) fun _ => rfl

/-! ## Routes -/

theorem mem_endpoints_of_candidates {path : String} {candidate : Endpoint × List String}
    (member : candidate ∈ candidates path) : candidate.1 ∈ endpoints := by
  simp only [candidates] at member
  split at member
  · obtain ⟨endpoint, listed, matched⟩ := List.mem_filterMap.mp member
    obtain ⟨parts, -, rfl⟩ := Option.map_eq_some_iff.mp matched
    exact listed
  · cases member

/-- A request becomes a task that fits the method by which it is served. -/
theorem fits_of_route {request : Request} {task : Task} (routed : route request = .perform task) :
    task.Fits (servedMethod request.method) := by
  simp only [route] at routed
  split at routed
  · cases routed
  · split at routed
    · rename_i endpoint parts chosen
      split at routed
      · rename_i given handled
        obtain rfl : given = task := Reaction.perform.inj routed
        have listed := mem_endpoints_of_candidates (List.mem_of_find?_eq_some chosen)
        have served : endpoint.method = servedMethod request.method := by
          simpa using List.find?_some chosen
        exact served ▸ endpoints_tame endpoint listed parts request handled
      · cases routed
    · cases routed

end CardInventory.Api
