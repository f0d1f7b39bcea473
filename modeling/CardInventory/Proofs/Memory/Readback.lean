import CardInventory.Proofs.Api.Path
import CardInventory.Proofs.Api.Tree
import CardInventory.Proofs.Inventory.Answers
import CardInventory.Proofs.Ledger.Return
import CardInventory.Proofs.Memory.Documented
import CardInventory.Proofs.Memory.Listing

/-!
# Readings after requests

A request that moves copies is answered with the numbers of copies it has led to.
Whoever then reads the binder or the deck is told the same numbers, and a number of
zero where there is no row. A deletion is answered with what the binder has gained of
each card.
-/

namespace CardInventory

open Ledger Inventory

namespace Api

/-- A failure is not shown with a status of success. -/
theorem Problem.status_ge (failure : Failure) : 400 ≤ (Problem.ledger failure).status := by
  cases failure with
  | storage fault => cases fault <;> simp [Problem.status, faultStatus]
  | _ => simp [Problem.status]

theorem task_of_showQuantity {request : Request} {task : Task}
    (accepts : Endpoint.showQuantity.Accepts request task) :
    ∃ user card, task = ⟨.binderQuantity user card,
      fun quantity => respondWith 200 (binderQuantity user card quantity)⟩ := by
  obtain ⟨places, -, -, handled⟩ := accepts
  have gives : Gives (fun task => ∃ user card, task = ⟨.binderQuantity user card,
      fun quantity => respondWith 200 (binderQuantity user card quantity)⟩)
      (Endpoint.showQuantity.handle places request) :=
    .withIds (fun user card _ => .ok ⟨user, card, rfl⟩) places request
  exact gives handled

theorem task_of_getDeck {request : Request} {task : Task}
    (accepts : Endpoint.getDeck.Accepts request task) :
    ∃ deck, task = ⟨.getDeck deck,
      fun detail => respondWith 200 (deckDetail.toTree (.ofDetail detail))⟩ := by
  obtain ⟨places, -, -, handled⟩ := accepts
  have gives : Gives (fun task => ∃ deck, task = ⟨.getDeck deck,
      fun detail => respondWith 200 (deckDetail.toTree (.ofDetail detail))⟩)
      (Endpoint.getDeck.handle places request) :=
    .withId (fun deck _ => .ok ⟨deck, rfl⟩) places request
  exact gives handled

end Api

namespace Memory

/-- The body of a deck has the row of a card and a zone just where the tables have it. -/
theorem Store.saysPlaced_ofDetail {store : Store} (valid : store.Valid) (row : Deck)
    (deck card : Uuid) (zone : Zone) :
    Api.SaysPlaced card zone (store.placed deck card zone)
      (Api.deckDetail.toTree (.ofDetail ⟨row, store.entriesOf deck⟩)) := by
  have rows := filter_entriesOf valid deck card zone
  simp only [slot, Prod.mk.injEq] at rows
  rw [Api.SaysPlaced, Api.copiesTold_ofDetail, rows]
  cases found : store.entries.get? ⟨deck, card, zone⟩ with
  | none => simp [placed, found]
  | some entry =>
      obtain ⟨-, placing, positive⟩ := valid.get?_entries found
      rw [placing, if_neg (by omega)]
      rfl

variable {moments : Nat → Moment} {defaultCapacity : Int} {cors : Api.Cors} {depot after : Depot}

/-- What the response to an accepted request carries is told by the outcome of its task. -/
theorem Depot.respond_content {endpoint : Api.Endpoint} {request : Api.Request} {task : Api.Task}
    (accepts : endpoint.Accepts request task) :
    (depot.respond moments defaultCapacity cors request).1.content =
      (task.complete (depot.perform moments defaultCapacity task.operation).1).content := by
  have shown : ∀ response : Api.Response,
      (cors.decorate request (response.forMethod request.method)).content = response.content := by
    intro response
    unfold Api.Cors.decorate Api.Response.forMethod
    split <;> split <;> rfl
  unfold Depot.respond
  rw [accepts.serve_eq cors]
  exact shown _

theorem Depot.respond_depot {endpoint : Api.Endpoint} {request : Api.Request} {task : Api.Task}
    (accepts : endpoint.Accepts request task) :
    (depot.respond moments defaultCapacity cors request).2 =
      (depot.perform moments defaultCapacity task.operation).2 := by
  unfold Depot.respond
  rw [accepts.serve_eq cors]

/-! ## Readings -/

section Readings

variable (moments : Nat → Moment) (defaultCapacity : Int) (cors : Api.Cors) (depot : Depot)

/-- A reading has a path of its own, and whoever asks for it, under this path or in any other way,
is answered by a body of which something holds. -/
structure Answers (endpoint : Api.Endpoint) (operation : Operation) (path : List String)
    (holds : Json → Prop) : Prop where
  asked : ∃ task, endpoint.Accepts (Api.reading path) task ∧ task.operation = operation
  told : ∀ request task, endpoint.Accepts request task → task.operation = operation →
    (depot.respond moments defaultCapacity cors request).1.status = 200 ∧
      ∃ tree, (depot.respond moments defaultCapacity cors request).1.content = .json tree ∧
        holds tree

/-- Whoever reads the copies of a card in a binder is told a number. -/
def ShowsQuantity (user card : Uuid) (quantity : Int) : Prop :=
  Answers moments defaultCapacity cors depot .showQuantity (.binderQuantity user card)
    ["users", user.text, "binder", card.text] (Api.SaysHolding user card quantity)

/-- Whoever reads a deck is shown one row of a card in a zone, with a number of copies, or
none if the number is zero. -/
def ShowsRow (deck card : Uuid) (zone : Zone) (quantity : Int) : Prop :=
  Answers moments defaultCapacity cors depot .getDeck (.getDeck deck) ["decks", deck.text]
    (Api.SaysPlaced card zone quantity)

end Readings

/-- A binder shows the copies it holds. -/
theorem showsQuantity_held (free : depot.refusal = none) (user card : Uuid) :
    ShowsQuantity moments defaultCapacity cors depot user card (depot.store.held user card) where
  asked := ⟨_, Api.showQuantity_accepts user card, rfl⟩
  told request task accepts about := by
    obtain ⟨user', card', rfl⟩ := Api.task_of_showQuantity accepts
    obtain ⟨rfl, rfl⟩ := Operation.binderQuantity.inj about
    rw [Depot.respond_status accepts, Depot.respond_content accepts,
      Depot.perform_binderQuantity free]
    exact ⟨rfl, _, rfl, Api.saysHolding_binderQuantity user' card' _⟩

/-- A deck shows the copies it has in a zone. -/
theorem showsRow_placed (free : depot.refusal = none) (valid : depot.store.Valid) {deck : Uuid}
    {row : Deck} (found : depot.store.decks.get? deck = some row) (card : Uuid) (zone : Zone) :
    ShowsRow moments defaultCapacity cors depot deck card zone
      (depot.store.placed deck card zone) where
  asked := ⟨_, Api.getDeck_accepts deck, rfl⟩
  told request task accepts about := by
    obtain ⟨deck', rfl⟩ := Api.task_of_getDeck accepts
    obtain rfl := Operation.getDeck.inj about
    rw [Depot.respond_status accepts, Depot.respond_content accepts,
      Depot.perform_getDeck free found]
    exact ⟨rfl, _, rfl, Store.saysPlaced_ofDetail valid row deck' card zone⟩

/-! ## Responses -/

section Responses

variable (moments : Nat → Moment) (defaultCapacity : Int) (cors : Api.Cors)

/-- The numbers in a response are those that are read after it, zero for an entry that is gone;
the numbers of a deletion are what readings of the binder before and after it differ by, and
nothing is read of another card but what was read before. -/
def Reported (depot after : Depot) (content : Api.Content) : Operation → Prop
  | .creditBinder user card _ | .debitBinder user card _ =>
      ∃ tree quantity, content = .json tree ∧ Api.SaysHolding user card quantity tree ∧
        (quantity = 0 ↔ after.store.binder.get? ⟨user, card⟩ = none) ∧
        ShowsQuantity moments defaultCapacity cors after user card quantity
  | .allocate deck card _ zone =>
      ∃ tree quantity, content = .json tree ∧ Api.SaysEntry card zone quantity tree ∧
        quantity ≠ 0 ∧ ShowsRow moments defaultCapacity cors after deck card zone quantity
  | .deallocate deck card _ _ =>
      ∃ tree zone remaining, content = .json tree ∧ Api.SaysRemaining zone remaining tree ∧
        ShowsRow moments defaultCapacity cors after deck card zone remaining
  | .moveZone deck card _ source target =>
      ∃ tree taken put remaining quantity, content = .json tree ∧
        tree.member? "from" = some taken ∧ Api.SaysRemaining source remaining taken ∧
        tree.member? "to" = some put ∧ Api.SaysEntry card target quantity put ∧
        ShowsRow moments defaultCapacity cors after deck card source remaining ∧ quantity ≠ 0 ∧
        ShowsRow moments defaultCapacity cors after deck card target quantity
  | .transfer source destination card _ _ =>
      ∃ tree taken put zone remaining quantity, content = .json tree ∧
        tree.member? "source" = some taken ∧ Api.SaysRemaining zone remaining taken ∧
        tree.member? "destination" = some put ∧ Api.SaysEntry card .main quantity put ∧
        ShowsRow moments defaultCapacity cors after source card zone remaining ∧ quantity ≠ 0 ∧
        ShowsRow moments defaultCapacity cors after destination card .main quantity
  | .deleteDeck deck =>
      ∃ tree row returned, content = .json tree ∧ Api.SaysReturned deck returned tree ∧
        depot.store.decks.get? deck = some row ∧ (returned.map Prod.fst).Nodup ∧
        ∀ card, ∃ quantity,
          ShowsQuantity moments defaultCapacity cors depot row.owner card quantity ∧
          ShowsQuantity moments defaultCapacity cors after row.owner card
            (quantity + (returned.lookup card).getD 0)
  | _ => False

end Responses

/-- What a rule reports holds of the result of an operation that is performed. -/
theorem Depot.perform_reports {operation : Operation} {result : operation.Result}
    {shown : operation.Result → Store → Prop} (mutates : operation.mutates = true)
    (reports : Reports moments depot.store (operation.task defaultCapacity) shown)
    (performed : depot.perform moments defaultCapacity operation = (.ok result, after)) :
    shown result after.store := by
  obtain ⟨staged, ran, same⟩ := Depot.perform_eq_ok performed
  rw [same, if_pos mutates]
  exact (reports depot.drawn).ok ran

section Performed

variable {deck card : Uuid} {zone : Zone}

/-- An entry the tables hold is shown as it is. -/
theorem shown_of_found (attainable : Attainable moments defaultCapacity after) {entry : DeckEntry}
    (found : after.store.entries.get? ⟨deck, card, zone⟩ = some entry) :
    Api.SaysEntry card zone entry.quantity (Api.filledEntry entry) ∧ entry.quantity ≠ 0 ∧
      ShowsRow moments defaultCapacity cors after deck card zone entry.quantity := by
  have valid := attainable.valid
  obtain ⟨-, cards, zones⟩ := EntryKey.mk.inj (valid.entries found).keyed
  obtain ⟨-, placing, positive⟩ := valid.get?_entries found
  obtain ⟨row, stored⟩ := Table.contains_iff.mp (valid.entries found).deck
  refine ⟨?_, by omega, placing ▸ showsRow_placed attainable.refusal valid stored card zone⟩
  exact cards ▸ zones ▸ Api.saysEntry_filledEntry entry

/-- What is left of a removal is shown where the tables hold it. -/
theorem shown_of_removal (attainable : Attainable moments defaultCapacity after)
    {removal : Removal} {row : Deck} (stored : after.store.decks.get? deck = some row)
    (found : after.store.entries.get? ⟨deck, card, removal.zone⟩ = removal.entry?) :
    ShowsRow moments defaultCapacity cors after deck card removal.zone removal.quantity := by
  have placing : after.store.placed deck card removal.zone = removal.quantity := by
    rw [Store.placed, found, removal.elim_entry?]
  exact placing ▸ showsRow_placed attainable.refusal attainable.valid stored card removal.zone

end Performed

/-- Whatever a task results in at a depot that can be attained is reported. -/
def TaskReported (moments : Nat → Moment) (defaultCapacity : Int) (cors : Api.Cors)
    (task : Api.Task) : Prop :=
  ∀ ⦃depot after : Depot⦄ ⦃result⦄, Attainable moments defaultCapacity depot →
    Attainable moments defaultCapacity after →
    depot.perform moments defaultCapacity task.operation = (.ok result, after) →
      Reported moments defaultCapacity cors depot after (task.respond result).content task.operation

section Tasks

variable (user card deck : Uuid) (quantity : Int)

theorem creditBinder_reported :
    TaskReported moments defaultCapacity cors ⟨.creditBinder user card quantity, fun entry =>
      Api.respondWith 200 (Api.binderQuantity entry.user entry.card entry.quantity)⟩ := by
  intro depot after entry _ attainable performed
  obtain ⟨-, same⟩ := Depot.perform_reports rfl (credit_reports user card quantity) performed
  have found : after.store.binder.get? ⟨user, card⟩ = some entry := by
    rw [same, Store.withHolding, Table.get?_put_self]
  obtain ⟨users, cards⟩ := BinderKey.mk.inj (attainable.valid.binder found).keyed
  obtain ⟨holding, -⟩ := attainable.valid.get?_binder found
  refine ⟨_, entry.quantity, rfl, ?_, holding ▸ attainable.valid.held_eq_zero_iff,
    holding ▸ showsQuantity_held attainable.refusal user card⟩
  rw [← users, ← cards]
  exact Api.saysHolding_binderQuantity entry.user entry.card entry.quantity

theorem debitBinder_reported {respond : Option BinderEntry → Api.Response}
    (remaining : ∀ entry, respond (some entry) =
      Api.respondWith 200 (Api.binderQuantity entry.user entry.card entry.quantity))
    (none : respond none = Api.respondWith 200 (Api.binderQuantity user card 0)) :
    TaskReported moments defaultCapacity cors ⟨.debitBinder user card quantity, respond⟩ := by
  intro depot after left _ attainable performed
  have same := Depot.perform_reports rfl (debit_reports user card quantity) performed
  have found : after.store.binder.get? ⟨user, card⟩ = left := by
    rw [same, Store.withHolding, Table.get?_put_self]
  have holding : after.store.held user card = left.elim 0 BinderEntry.quantity := by
    rw [Store.held, found]
  refine ⟨Api.binderQuantity user card (left.elim 0 BinderEntry.quantity), _, ?_,
    Api.saysHolding_binderQuantity user card _, holding ▸ attainable.valid.held_eq_zero_iff,
    holding ▸ showsQuantity_held attainable.refusal user card⟩
  cases left with
  | none => exact congrArg Api.Response.content none
  | some entry =>
      obtain ⟨users, cards⟩ := BinderKey.mk.inj (attainable.valid.binder found).keyed
      rw [← users, ← cards]
      exact congrArg Api.Response.content (remaining entry)

theorem allocate_reported (zone : Zone) :
    TaskReported moments defaultCapacity cors ⟨.allocate deck card quantity zone, fun entry =>
      Api.respondWith 200 (Api.filledEntry entry)⟩ := by
  intro depot after entry _ attainable performed
  obtain ⟨row, left, -, same⟩ :=
    Depot.perform_reports rfl (allocate_reports card deck quantity zone) performed
  have found : after.store.entries.get? ⟨deck, card, zone⟩ = some entry := by
    rw [same, Store.get?_withEntry_self]
  exact ⟨_, entry.quantity, rfl, shown_of_found attainable found⟩

theorem deallocate_reported (zone : Option Zone) :
    TaskReported moments defaultCapacity cors ⟨.deallocate deck card quantity zone,
      fun removal => Api.respondWith 200 (Api.removal removal)⟩ := by
  intro depot after removal before attainable performed
  obtain ⟨row, holding, stored, same⟩ :=
    Depot.perform_reports rfl (deallocate_reports card deck quantity before.valid zone) performed
  have found : after.store.entries.get? ⟨deck, card, removal.zone⟩ = removal.entry? := by
    rw [same]
    exact Store.get?_withEntry_self ..
  have kept : after.store.decks.get? deck = some row := by
    rw [same]
    exact stored
  exact ⟨_, removal.zone, removal.quantity, rfl, Api.saysRemaining_removal removal,
    shown_of_removal attainable kept found⟩

theorem moveZone_reported (source target : Zone) :
    TaskReported moments defaultCapacity cors ⟨.moveZone deck card quantity source target,
      fun moved => Api.respondWith 200 (Api.zoneMoveOutcome moved)⟩ := by
  intro depot after moved before attainable performed
  obtain ⟨different, own, ⟨row, stored⟩, same⟩ := Depot.perform_reports rfl
    (moveZone_reports card deck quantity before.valid source target) performed
  have found : after.store.entries.get? ⟨deck, card, target⟩ = some moved.target := by
    rw [same, Store.get?_withEntry_self]
  have elsewhere : EntryKey.mk deck card source ≠ ⟨deck, card, target⟩ := by simpa using different
  have left : after.store.entries.get? ⟨deck, card, moved.source.zone⟩ = moved.source.entry? := by
    rw [own, same, Store.get?_withEntry_of_ne _ _ _ _ _ elsewhere, Store.get?_withEntry_self]
  have kept : after.store.decks.get? deck = some row := by
    rw [same]
    exact stored
  obtain ⟨put, present, shown⟩ := shown_of_found attainable found
  exact ⟨_, _, _, moved.source.quantity, moved.target.quantity, rfl, rfl,
    own ▸ Api.saysRemaining_removal moved.source, rfl, put,
    own ▸ shown_of_removal attainable kept left, present, shown⟩

theorem transfer_reported (source destination : Uuid) (zone : Option Zone) :
    TaskReported moments defaultCapacity cors ⟨.transfer source destination card quantity zone,
      fun outcome => Api.respondWith 200 (Api.transferOutcome outcome)⟩ := by
  intro depot after outcome before attainable performed
  obtain ⟨different, sourceRow, row, taken, left, stored, -, same⟩ := Depot.perform_reports rfl
    (transfer_reports card quantity before.valid source destination zone) performed
  have found : after.store.entries.get? ⟨destination, card, .main⟩ = some outcome.destination := by
    rw [same, Store.get?_withEntry_self]
  have elsewhere : EntryKey.mk source card outcome.source.zone ≠ ⟨destination, card, .main⟩ := by
    simp [different]
  have left : after.store.entries.get? ⟨source, card, outcome.source.zone⟩ =
      outcome.source.entry? := by
    rw [same, Store.get?_withEntry_of_ne _ _ _ _ _ elsewhere]
    exact Store.get?_withEntry_self ..
  have kept : after.store.decks.get? source = some sourceRow := by
    rw [same]
    exact stored
  obtain ⟨put, present, shown⟩ := shown_of_found attainable found
  exact ⟨_, _, _, outcome.source.zone, outcome.source.quantity, outcome.destination.quantity, rfl,
    rfl, Api.saysRemaining_removal outcome.source, rfl, put,
    shown_of_removal attainable kept left, present, shown⟩

theorem deleteDeck_reported :
    TaskReported moments defaultCapacity cors ⟨.deleteDeck deck, fun released =>
      Api.respondWith 200 (Api.releasedDeck released)⟩ := by
  intro depot after released before attainable performed
  have done := Depot.perform_reports rfl (releaseDeck_returns before.valid deck) performed
  have own : released.deck.id = deck := (before.valid.decks done.row).keyed
  refine ⟨_, released.deck, released.returned, rfl, ?_, done.row,
    nodup_of_ordered done.ordered, fun card => ?_⟩
  · exact own ▸ Api.saysReturned_releasedDeck released
  · refine ⟨depot.store.held released.deck.owner card, showsQuantity_held before.refusal _ card, ?_⟩
    rw [← done.held_eq card]
    exact showsQuantity_held attainable.refusal _ card

end Tasks

/-- The endpoints that move copies. -/
def movingEndpoints : List Api.Endpoint :=
  [.creditBinder, .debitBinder, .allocate, .deallocate, .moveZone, .transfer, .deleteDeck]

theorem movingEndpoints_reported : ∀ endpoint ∈ movingEndpoints, ∀ places request,
    Api.Gives (TaskReported moments defaultCapacity cors) (endpoint.handle places request) := by
  simp only [movingEndpoints, List.forall_mem_cons]
  refine ⟨?creditBinder, ?debitBinder, ?allocate, ?deallocate, ?moveZone, ?transfer, ?deleteDeck,
    List.forall_mem_nil _⟩
  case creditBinder =>
    exact Api.Gives.withIds fun user card _ => .bind fun change =>
      .ok (creditBinder_reported user card change.quantity)
  case debitBinder =>
    exact Api.Gives.withIds fun user card _ => .bind fun change =>
      .ok (debitBinder_reported user card change.quantity (fun _ => rfl) rfl)
  case allocate =>
    exact Api.Gives.withId fun deck _ => .bind fun body =>
      .ok (allocate_reported body.card deck body.quantity body.zone)
  case deallocate =>
    exact Api.Gives.withId fun deck _ => .bind fun body =>
      .ok (deallocate_reported body.card deck body.quantity body.zone)
  case moveZone =>
    exact Api.Gives.withId fun deck _ => .bind fun body =>
      .ok (moveZone_reported body.card deck body.quantity body.source body.target)
  case transfer =>
    exact fun _ _ => Api.Gives.bind fun body =>
      .ok (transfer_reported body.card body.quantity body.source body.destination body.zone)
  case deleteDeck => exact Api.Gives.withId fun deck _ => .ok (deleteDeck_reported deck)

/-- The numbers in the response to a request that has moved copies, at whatever depot can be
attained, are those that are read right after it. -/
theorem responses_report_tables (attainable : Attainable moments defaultCapacity depot)
    {endpoint : Api.Endpoint} (moving : endpoint ∈ movingEndpoints) {request : Api.Request}
    {task : Api.Task} (accepts : endpoint.Accepts request task)
    (succeeded : (depot.respond moments defaultCapacity cors request).1.succeeded = true) :
    Reported moments defaultCapacity cors depot
      (depot.respond moments defaultCapacity cors request).2
      (depot.respond moments defaultCapacity cors request).1.content task.operation := by
  obtain ⟨places, -, -, handled⟩ := id accepts
  have reported : TaskReported moments defaultCapacity cors task :=
    movingEndpoints_reported endpoint moving places request handled
  have next := attainable.perform task.operation
  have status : (depot.respond moments defaultCapacity cors request).1.status = _ :=
    Depot.respond_status accepts
  rw [Depot.respond_content accepts, Depot.respond_depot accepts]
  rcases outcome : depot.perform moments defaultCapacity task.operation with
    ⟨failure | result, after⟩
  · have refused := Api.Problem.status_ge failure
    rw [outcome] at status
    change _ = (Api.Problem.ledger failure).status at status
    simp only [Api.Response.succeeded, Bool.and_eq_true, decide_eq_true_eq] at succeeded
    omega
  · rw [outcome] at next
    exact reported attainable next outcome

/-- A copy is moved into a sideboard of which nothing has been stored yet, and whoever then reads
the deck finds both rows the response has told of. -/
theorem zone_move_reports_rows :
    let moments : Nat → Moment := fun n => ⟨⟨n, 0⟩, .ofNat n⟩
    let cors : Api.Cors := ⟨[], none⟩
    let send := fun method path body =>
      Api.Request.mk method path none [("content-type", "application/json")] (Text.bytesOf body)
    let path := "/api/v1/decks/00000000-0000-0000-0000-000000000003"
    let requests :=
      [send "POST" "/api/v1/users" "\x7b\"username\":\"ada\"\x7d",
        send "POST" "/api/v1/cards" ("\x7b\"id\":\"00000000-0000-0000-0000-000000000007\"," ++
          "\"name\":\"Forest\",\"faces\":[\x7b\"name\":\"Forest\"\x7d]\x7d"),
        send "POST" "/api/v1/decks"
          ("\x7b\"owner_id\":\"00000000-0000-0000-0000-000000000000\"," ++
            "\"name\":\"Elves\",\"format\":\"modern\"\x7d"),
        send "POST" ("/api/v1/users/00000000-0000-0000-0000-000000000000/binder/" ++
          "00000000-0000-0000-0000-000000000007/credit") "\x7b\"quantity\":5\x7d",
        send "POST" (path ++ "/allocations")
          "\x7b\"card_id\":\"00000000-0000-0000-0000-000000000007\",\"quantity\":3\x7d"]
    let depot := requests.foldl
      (fun depot request => (depot.respond moments 60 cors request).2) Depot.empty
    let request := send "POST" (path ++ "/zone-moves")
      ("\x7b\"card_id\":\"00000000-0000-0000-0000-000000000007\",\"quantity\":1," ++
        "\"from\":\"main\",\"to\":\"sideboard\"\x7d")
    Attainable moments 60 depot ∧
      (∃ task, Api.Endpoint.moveZone.Accepts request task ∧
        Reported moments 60 cors depot (depot.respond moments 60 cors request).2
          (depot.respond moments 60 cors request).1.content task.operation) ∧
      (depot.respond moments 60 cors request).1.succeeded = true := by
  intro moments cors send path requests depot request
  have attainable : Attainable moments 60 depot := (Served.empty.run requests).attainable
  have succeeded : (depot.respond moments 60 cors request).1.succeeded = true := by
    rw [show depot = requests.foldl _ Depot.empty from rfl]
    decide +kernel
  have identified : Api.pathId "00000000-0000-0000-0000-000000000003" = .ok (.ofNat 3) := by
    decide +kernel
  have body : Api.bodyAs Api.zoneMove request = .ok ⟨.ofNat 7, 1, .main, .sideboard⟩ := by
    decide +kernel
  have moves : ∃ task, Api.Endpoint.moveZone.Accepts request task := by
    have parts : Api.pathParts request.path =
        Api.basePath ++ ["decks", "00000000-0000-0000-0000-000000000003", "zone-moves"] := by
      decide +kernel
    have candidate := Api.mem_candidates
      (show Api.Endpoint.moveZone ∈ Api.endpoints by simp [Api.endpoints]) parts rfl
    exact ⟨_, _, candidate, rfl,
      by simp only [Api.Endpoint.moveZone, Api.withId, identified, bind, Except.bind, body]; rfl⟩
  obtain ⟨task, accepts⟩ := moves
  clear_value depot
  exact ⟨attainable, ⟨task, accepts,
    responses_report_tables attainable (by simp [movingEndpoints]) accepts succeeded⟩, succeeded⟩

end Memory

end CardInventory
