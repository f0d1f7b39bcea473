import CardInventory.Api.Problem
import CardInventory.Proofs.Inventory.Attainable

/-!
# Statuses of refusals

The statuses with which an operation may be refused. What a rule refuses of itself
is read off its checks alone, whatever it is answered; what storage refuses is known
from the conflicts of the operation.
-/

namespace CardInventory

open Memory Storage Ledger

namespace Ledger

/-- What a rule refuses of itself has one of the given statuses. -/
def Refuses {α : Type} (statuses : List Nat) (rule : Ledger α) : Prop :=
  rule.Raises fun failure => (Api.Problem.ledger failure).status ∈ statuses

section Refuses

variable {α β : Type} {statuses : List Nat} {failure : Failure}

theorem Refuses.pure (value : α) : Refuses statuses (pure value) :=
  Procedure.Raises.done value

theorem Refuses.bind {first : Ledger α} {second : α → Ledger β} (refuses : Refuses statuses first)
    (refuses' : ∀ value, Refuses statuses (second value)) : Refuses statuses (first >>= second) :=
  Procedure.Raises.bind refuses refuses'

theorem Refuses.ask (request : Request) : Refuses statuses (ask request) :=
  Procedure.Raises.ask request fun reply => .done reply

theorem Refuses.fail (listed : (Api.Problem.ledger failure).status ∈ statuses) :
    Refuses statuses (.fail failure : Ledger α) :=
  Procedure.Raises.fail listed

theorem Refuses.ensure {condition : Bool}
    (listed : (Api.Problem.ledger failure).status ∈ statuses) :
    Refuses statuses (ensure condition failure) := by
  cases condition with
  | true => exact .pure ()
  | false => exact .fail listed

theorem Refuses.found {value : Option α}
    (listed : (Api.Problem.ledger failure).status ∈ statuses) :
    Refuses statuses (found value failure) := by
  cases value with
  | none => exact .fail listed
  | some value => exact .pure value

theorem Refuses.ofExcept {outcome : Except Failure α}
    (listed : ∀ ⦃failure⦄, outcome = .error failure →
      (Api.Problem.ledger failure).status ∈ statuses) :
    Refuses statuses (Procedure.ofExcept outcome) := by
  cases outcome with
  | ok value => exact .pure value
  | error failure => exact .fail (listed rfl)

end Refuses

/-! ## Rules -/

section Rules

variable {statuses : List Nat} {deck card user : Uuid} {quantity : Int}

theorem refuses_credit (invalid : 400 ∈ statuses) (missing : 404 ∈ statuses) :
    Refuses statuses (credit user card quantity) :=
  .bind (.ensure invalid) fun _ => .bind (.ask _) fun _ => .bind (.ensure missing) fun _ =>
    .bind (.ask _) fun _ => .bind (.ensure missing) fun _ => .bind (.ask _) fun _ =>
      .bind (.ensure invalid) fun _ => .ask _

theorem refuses_creditAll (invalid : 400 ∈ statuses) (missing : 404 ∈ statuses)
    (entries : List DeckEntry) : Refuses statuses (creditAll user entries) := by
  induction entries with
  | nil => exact .pure ()
  | cons entry rest ih => exact .bind (refuses_credit invalid missing) fun _ => ih

theorem refuses_lockDeck (missing : 404 ∈ statuses) : Refuses statuses (lockDeck deck) :=
  .bind (.ask _) fun _ => .found missing

theorem refuses_addToZone (invalid : 400 ∈ statuses) (missing : 404 ∈ statuses) {zone : Zone} :
    Refuses statuses (addToZone deck card quantity zone) :=
  .bind (.ensure invalid) fun _ => .bind (.ask _) fun _ => .bind (.ensure missing) fun _ =>
    .bind (.ask _) fun _ => .bind (.ensure missing) fun _ => .bind (.ask _) fun _ =>
      .bind (.ensure invalid) fun _ => .ask _

theorem refuses_firstEntry (missing : 404 ∈ statuses) (zones : List Zone) :
    Refuses statuses (firstEntry deck card zones) := by
  induction zones with
  | nil => exact .fail missing
  | cons zone rest ih =>
      refine .bind (.ask _) fun entry => ?_
      cases entry with
      | none => exact ih
      | some entry => exact .pure entry

theorem refuses_checkCapacity (scarce : 409 ∈ statuses) {limit : Option Int}
    {current attempted : Int} :
    Refuses statuses (Procedure.ofExcept (checkCapacity limit current attempted)) := by
  refine .ofExcept fun failure refused => ?_
  obtain ⟨bound, -, -, rfl⟩ := checkCapacity_eq_error_iff.mp refused
  exact scarce

theorem refuses_ensureCapacity (scarce : 409 ∈ statuses) {row : Deck} :
    Refuses statuses (ensureCapacity row quantity) :=
  .bind (.ask _) fun _ => refuses_checkCapacity scarce

/-- A release makes no check of its own but that the deck exists. -/
theorem refuses_releaseDeck (invalid : 400 ∈ statuses) (missing : 404 ∈ statuses) :
    Refuses statuses (releaseDeck deck) :=
  .bind (refuses_lockDeck missing) fun _ => .bind (.ask _) fun _ =>
    .bind (refuses_creditAll invalid missing _) fun _ => .bind (.ask _) fun _ =>
      .bind (.ask _) fun _ => .bind (.ensure missing) fun _ => .pure _

variable (invalid : 400 ∈ statuses) (missing : 404 ∈ statuses) (scarce : 409 ∈ statuses)

include invalid missing scarce

theorem refuses_debit : Refuses statuses (debit user card quantity) := by
  refine .bind (.ensure invalid) fun _ => .bind (.ask _) fun _ => .bind (.found missing) fun _ =>
    .bind (.ensure scarce) fun _ => ?_
  split
  · exact .bind (.ask _) fun _ => .pure _
  · exact .bind (.ask _) fun _ => .pure _

theorem refuses_removeFromZone {zone : Option Zone} :
    Refuses statuses (removeFromZone deck card quantity zone) := by
  refine .bind (.ensure invalid) fun _ => .bind (refuses_firstEntry missing _) fun _ =>
    .bind (.ensure scarce) fun _ => ?_
  split
  · exact .bind (.ask _) fun _ => .pure _
  · exact .bind (.ask _) fun _ => .pure _

theorem refuses_allocate {zone : Zone} :
    Refuses statuses (allocate deck card quantity zone) :=
  .bind (.ensure invalid) fun _ => .bind (refuses_lockDeck missing) fun _ =>
    .bind (.ask _) fun _ => .bind (.ensure missing) fun _ =>
      .bind (refuses_ensureCapacity scarce) fun _ =>
        .bind (.bind (.ask _) fun _ => .pure _) fun _ => .bind (.ensure scarce) fun _ =>
          .bind (refuses_debit invalid missing scarce) fun _ => refuses_addToZone invalid missing

theorem refuses_deallocate {zone : Option Zone} :
    Refuses statuses (deallocate deck card quantity zone) :=
  .bind (.ensure invalid) fun _ => .bind (refuses_lockDeck missing) fun _ =>
    .bind (refuses_removeFromZone invalid missing scarce) fun _ =>
      .bind (refuses_credit invalid missing) fun _ => .pure _

theorem refuses_transfer {source destination : Uuid} {zone : Option Zone} :
    Refuses statuses (transfer source destination card quantity zone) :=
  .bind (.ensure invalid) fun _ => .bind (.ensure invalid) fun _ => .bind (.ask _) fun _ =>
    .bind (.found missing) fun _ => .bind (.found missing) fun _ =>
      .bind (.ensure invalid) fun _ => .bind (refuses_ensureCapacity scarce) fun _ =>
        .bind (refuses_deallocate invalid missing scarce) fun _ =>
          .bind (refuses_allocate invalid missing scarce) fun _ => .pure _

theorem refuses_moveZone {source target : Zone} :
    Refuses statuses (moveZone deck card quantity source target) :=
  .bind (.ensure invalid) fun _ => .bind (.ensure invalid) fun _ =>
    .bind (refuses_lockDeck missing) fun _ =>
      .bind (refuses_removeFromZone invalid missing scarce) fun _ =>
        .bind (refuses_addToZone invalid missing) fun _ => .pure _

end Rules

end Ledger

/-! ## Operations -/

namespace Inventory

variable {defaultCapacity : Int} {operation : Operation} {statuses : List Nat}

/-- The statuses with which an operation may be refused. -/
def Operation.refusals : Operation → List Nat
  | searchCards _ | binderQuantity _ _ => []
  | getUser _ | getCard _ | listBinder _ _ | getDeck _ | listUserDecks _ | deckTotals _
  | exportDeck _ => [404]
  | createUser _ | registerCard _ => [400, 409]
  | creditBinder _ _ _ | createDeck _ | deleteDeck _ => [400, 404]
  | debitBinder _ _ _ | updateDeck _ _ | allocate _ _ _ _ | deallocate _ _ _ _
  | transfer _ _ _ _ _ | moveZone _ _ _ _ _ => [400, 404, 409]

/-- An operation whose arguments may be refused is refused with the status for that, and
otherwise like its rule. -/
theorem refuses_task (invalid : 400 ∈ statuses)
    (refuses : ∀ ⦃rule⦄, operation.rule defaultCapacity = .ok rule → Refuses statuses rule) :
    Refuses statuses (operation.task defaultCapacity) := by
  cases checked : operation.rule defaultCapacity with
  | error failure =>
      obtain ⟨reason, rfl⟩ := rule_checks defaultCapacity operation checked
      rw [task_of_error checked]
      exact .fail invalid
  | ok rule =>
      rw [task_of_ok checked]
      exact refuses checked

theorem refuses_ensureUser {id : Uuid} (missing : 404 ∈ statuses) :
    Refuses statuses (ensureUser id) :=
  .bind (.ask _) fun _ => .ensure missing

theorem refuses_requireDeck {id : Uuid} (missing : 404 ∈ statuses) :
    Refuses statuses (requireDeck id) :=
  .bind (.ask _) fun _ => .found missing

theorem refuses_changeDeck {id : Uuid} {patch : DeckPatch} (missing : 404 ∈ statuses)
    (scarce : 409 ∈ statuses) : Refuses statuses (changeDeck id patch) := by
  refine .bind (refuses_lockDeck missing) fun _ => ?_
  cases patch.capacity with
  | none => exact .ask _
  | some limit =>
      exact .bind (.ask _) fun _ => .bind (refuses_checkCapacity scarce) fun _ => .ask _

theorem refuses_readDeckList {id : Uuid} (missing : 404 ∈ statuses) :
    Refuses statuses (readDeckList id) := by
  refine .bind (refuses_requireDeck missing) fun _ => .bind (.ask _) fun _ =>
    .bind (.ask _) fun _ => .bind (.ofExcept fun failure failed => ?_) fun _ => .pure _
  obtain ⟨subject, key, rfl⟩ := notFound_of_mapM_listLine failed
  exact missing

/-- What the rule of an operation refuses of itself has one of the statuses of the operation. -/
theorem task_refuses (defaultCapacity : Int) (operation : Operation) :
    Refuses operation.refusals (operation.task defaultCapacity) := by
  have invalid : 400 ∈ [400, 404] := by decide
  have missing : 404 ∈ [400, 404] := by decide
  have invalid' : 400 ∈ [400, 404, 409] := by decide
  have missing' : 404 ∈ [400, 404, 409] := by decide
  have scarce : 409 ∈ [400, 404, 409] := by decide
  cases operation with
  -- Arguments that are checked before the rule.
  | createUser draft =>
      refine refuses_task (show 400 ∈ [400, 409] by decide) fun rule accepted => ?_
      rw [Operation.rule] at accepted
      split at accepted
      · cases accepted
      · exact Except.ok.inj accepted ▸ .ask _
  | registerCard draft =>
      refine refuses_task (show 400 ∈ [400, 409] by decide) fun rule accepted => ?_
      rw [Operation.rule] at accepted
      split at accepted
      · cases accepted
      · split at accepted
        · cases accepted
        · exact Except.ok.inj accepted ▸ .ask _
  | createDeck proposal =>
      refine refuses_task invalid fun rule accepted => ?_
      obtain ⟨draft, -, accepted⟩ := bind_eq_ok_iff.mp accepted
      obtain rfl := Except.ok.inj accepted
      exact .bind (refuses_ensureUser missing) fun _ => .ask _
  | updateDeck id patch =>
      refine refuses_task invalid' fun rule accepted => ?_
      obtain ⟨patch', -, accepted⟩ := bind_eq_ok_iff.mp accepted
      obtain rfl := Except.ok.inj accepted
      exact refuses_changeDeck missing' scarce
  -- Rules that only read.
  | searchCards search => exact .ask _
  | binderQuantity user card => exact .bind (.ask _) fun _ => .pure _
  | getUser id => exact .bind (.ask _) fun _ => .found List.mem_cons_self
  | getCard id => exact .bind (.ask _) fun _ => .found List.mem_cons_self
  | listBinder user search =>
      exact .bind (refuses_ensureUser List.mem_cons_self) fun _ => .ask _
  | listUserDecks owner =>
      exact .bind (refuses_ensureUser List.mem_cons_self) fun _ => .ask _
  | getDeck id =>
      exact .bind (refuses_requireDeck List.mem_cons_self) fun _ => .bind (.ask _) fun _ => .pure _
  | deckTotals id =>
      exact .bind (refuses_requireDeck List.mem_cons_self) fun _ => .bind (.ask _) fun _ => .pure _
  | exportDeck id => exact refuses_readDeckList List.mem_cons_self
  -- Rules that move copies.
  | creditBinder user card quantity => exact refuses_credit invalid missing
  | debitBinder user card quantity => exact refuses_debit invalid' missing' scarce
  | deleteDeck id => exact refuses_releaseDeck invalid missing
  | allocate deck card quantity zone => exact refuses_allocate invalid' missing' scarce
  | deallocate deck card quantity zone => exact refuses_deallocate invalid' missing' scarce
  | transfer source destination card quantity zone =>
      exact refuses_transfer invalid' missing' scarce
  | moveZone deck card quantity source target => exact refuses_moveZone invalid' missing' scarce

theorem Conflict.status {store : Store} {fault : Storage.Fault}
    (conflict : Conflict store operation fault) :
    (Api.Problem.ledger (.storage fault)).status ∈ operation.refusals := by
  cases conflict with
  | username found taken => exact List.mem_cons_of_mem _ List.mem_cons_self
  | printing named faces taken => exact List.mem_cons_of_mem _ List.mem_cons_self

/-- At an attainable depot an operation that fails is refused with one of its statuses. -/
theorem Attainable.refused {moments : Nat → Moment} {depot : Depot} {failure : Failure}
    (positive : 1 ≤ defaultCapacity) (attainable : Attainable moments defaultCapacity depot)
    (failed : (depot.perform moments defaultCapacity operation).1 = .error failure) :
    (Api.Problem.ledger failure).status ∈ operation.refusals := by
  rw [Depot.perform_fst attainable.refusal] at failed
  obtain ⟨after, ran⟩ : ∃ after,
      (operation.task defaultCapacity).run (answerNext moments) .storage
        ⟨depot.store, depot.drawn⟩ = (.error failure, after) := ⟨_, Prod.ext failed rfl⟩
  rcases (task_refuses defaultCapacity operation).error ran with listed | ⟨fault, rfl⟩
  · exact listed
  · have settles : Settles moments depot.store operation (operation.task defaultCapacity) :=
      operation_settles positive attainable.valid operation
    exact ((settles depot.drawn).error ran rfl).status

end Inventory

end CardInventory
