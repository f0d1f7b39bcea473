import CardInventory.Proofs.Inventory.Carriage

/-!
# Movements undone

The way back is open to copies that have just been moved. Their row has as many of them at
least, the row they have come from had them before, and the deck they have left was within
its limit with them. So the opposite movement succeeds at once, and what was a row is one again,
with as many copies as before. This takes tables in which no deck is over its limit, as those
are that operations lead to.
-/

namespace CardInventory

open Memory Storage Ledger Inventory

namespace Ledger

variable {moments : Nat → Moment} {store : Store}

/-- What a removal results in names the zone it has taken from. -/
theorem removeFromZone_reports_zone (valid : store.Valid) (deck card : Uuid) (quantity : Int)
    (zone : Option Zone) :
    Reports moments store (removeFromZone deck card quantity zone) fun removal _ =>
      removal.zone = store.sourceZone deck card zone := by
  intro drawn
  apply (removeFromZone_ends valid deck card quantity zone).mono_ok
  rintro removal after ⟨-, entry, time, listed, own, -⟩
  rw [Store.removalEntry?_eq] at listed
  exact own.trans (valid.get?_entries listed).1

theorem deallocate_reports_zone (valid : store.Valid) (deck card : Uuid) (quantity : Int)
    (zone : Option Zone) :
    Reports moments store (deallocate deck card quantity zone) fun removal _ =>
      removal.zone = store.sourceZone deck card zone :=
  .ensuring fun _ => .lockingDeck fun row _ =>
    .bind (removeFromZone_reports_zone valid deck card quantity zone) fun _ _ own =>
      .bind (credit_reports row.owner card quantity) fun _ _ _ => .pure own

theorem transfer_reports_zone (valid : store.Valid) (source destination card : Uuid)
    (quantity : Int) (zone : Option Zone) :
    Reports moments store (transfer source destination card quantity zone) fun outcome _ =>
      outcome.source.zone = store.sourceZone source card zone :=
  .ensuring fun _ => .ensuring fun _ => .reading (fun _ => rfl) <| .finding fun _ _ =>
    .finding fun _ _ => .ensuring fun _ => .ensuringCapacity <|
      .bind (deallocate_reports_zone valid source card quantity zone) fun _ _ own =>
        .bind (allocate_reports card destination quantity .main) fun _ _ _ => .pure own

end Ledger

namespace Inventory

/-- An operation that takes back what another has done, given what that one has resulted in: a
removal tells the zone its copies are to go back to. Only a transfer out of a main zone can be
taken back by a transfer. -/
inductive Undoes : (operation : Operation) → operation.Result → Operation → Prop where
  | credit (user card : Uuid) (quantity : Int) (entry : BinderEntry) :
      Undoes (.creditBinder user card quantity) entry (.debitBinder user card quantity)
  | debit (user card : Uuid) (quantity : Int) (left : Option BinderEntry) :
      Undoes (.debitBinder user card quantity) left (.creditBinder user card quantity)
  | allocate (deck card : Uuid) (quantity : Int) (zone : Zone) (entry : DeckEntry) :
      Undoes (.allocate deck card quantity zone) entry
        (.deallocate deck card quantity (some zone))
  | deallocate (deck card : Uuid) (quantity : Int) (zone : Option Zone) (removal : Removal) :
      Undoes (.deallocate deck card quantity zone) removal
        (.allocate deck card quantity removal.zone)
  | moveZone (deck card : Uuid) (quantity : Int) (source target : Zone) (moved : ZoneMove) :
      Undoes (.moveZone deck card quantity source target) moved
        (.moveZone deck card quantity target source)
  | transfer (source destination card : Uuid) (quantity : Int) (zone : Option Zone)
      (outcome : TransferOutcome) (fromMain : outcome.source.zone = .main) :
      Undoes (.transfer source destination card quantity zone) outcome
        (.transfer destination source card quantity (some .main))

variable {moments : Nat → Moment} {defaultCapacity : Int} {depot : Depot}

/-- No fault is pending where an operation succeeds. -/
theorem refusal_of_perform {operation : Operation} {result : operation.Result} {after : Depot}
    (performed : depot.perform moments defaultCapacity operation = (.ok result, after)) :
    depot.refusal = none := by
  rcases depot with ⟨store, drawn, _ | fault⟩
  · rfl
  · unfold Depot.perform at performed
    split at performed
    · cases performed
    · simp [Depot.runUnit, Depot.begin] at performed

/-- An operation has succeeded, and the tables are as they were up to times. -/
def Restores {α : Type} (before : Store) (outcome : Except Failure α × Depot) : Prop :=
  outcome.1.isOk = true ∧ outcome.2.store.untimed = before.untimed

/-- Copies sent along a route may be sent back. -/
theorem Carried.restores {α β : Type} {before : Store} {first : Except Failure α × Depot}
    {back : Except Failure β × Depot} {known known' : Prop} {route : Route} {quantity : Int}
    (carried : Carried before first known route quantity) (sound : before.Sound)
    (succeeded : first.1.isOk = true)
    (returned : Carried first.2.store back known' route.reverse quantity) (knows : known') :
    Restores before back := by
  have shifted := carried.shifted succeeded
  have admits := (carried.succeeds.mp succeeded).2
  have succeeded' : back.1.isOk = true :=
    returned.succeeds.mpr ⟨knows, shifted.admits_reverse sound.valid sound.limits admits⟩
  exact ⟨succeeded', shifted.untimed_eq_of_reverse sound.valid (returned.shifted succeeded')⟩

section Pairs

variable (sound : depot.store.Sound) (free : depot.refusal = none)
include sound free

theorem credit_undone (user card : Uuid) (quantity : Int) :
    let credited := depot.perform moments defaultCapacity (.creditBinder user card quantity)
    let back := credited.2.perform moments defaultCapacity (.debitBinder user card quantity)
    credited.1.isOk = true → Restores depot.store back := by
  intro credited back succeeded
  have carried : Carried depot.store credited _ _ quantity :=
    credit_carried sound.valid free user card quantity
  have shifted := carried.shifted succeeded
  have free' : credited.2.refusal = none := Depot.perform_refusal free _
  have returned : Carried credited.2.store back _ _ quantity :=
    debit_carried shifted.valid free' user card quantity
  exact carried.restores sound succeeded returned trivial

theorem debit_undone (user card : Uuid) (quantity : Int) :
    let debited := depot.perform moments defaultCapacity (.debitBinder user card quantity)
    let back := debited.2.perform moments defaultCapacity (.creditBinder user card quantity)
    debited.1.isOk = true → Restores depot.store back := by
  intro debited back succeeded
  have carried : Carried depot.store debited _ _ quantity :=
    debit_carried sound.valid free user card quantity
  have shifted := carried.shifted succeeded
  have free' : debited.2.refusal = none := Depot.perform_refusal free _
  obtain ⟨-, admits⟩ := carried.succeeds.mp succeeded
  have enough : quantity ≤ depot.store.held user card := admits.enough rfl nofun
  have known := sound.valid.of_held_pos (Int.lt_of_lt_of_le admits.positive enough)
  have returned : Carried debited.2.store back _ _ quantity :=
    credit_carried shifted.valid free' user card quantity
  rw [shifted.users, shifted.cards] at returned
  exact carried.restores sound succeeded returned known

theorem allocation_undone (deck card : Uuid) (quantity : Int) (zone : Zone) :
    let allocated := depot.perform moments defaultCapacity (.allocate deck card quantity zone)
    let back := allocated.2.perform moments defaultCapacity
      (.deallocate deck card quantity (some zone))
    allocated.1.isOk = true → Restores depot.store back := by
  intro allocated back succeeded
  have carried : Carried depot.store allocated _ _ quantity :=
    allocate_carried sound.valid free deck card quantity zone
  have shifted := carried.shifted succeeded
  have free' : allocated.2.refusal = none := Depot.perform_refusal free _
  obtain ⟨⟨deckExists, -⟩, -⟩ := carried.succeeds.mp succeeded
  have returned : Carried allocated.2.store back _ _ quantity :=
    deallocate_carried shifted.valid free' deck card quantity (some zone)
  rw [shifted.binderOf?_eq, shifted.decks] at returned
  exact carried.restores sound succeeded returned deckExists

/-- A deallocation is undone by an allocation to the zone it has taken from. -/
theorem deallocation_undone (deck card : Uuid) (quantity : Int) (zone : Option Zone) :
    let deallocated := depot.perform moments defaultCapacity (.deallocate deck card quantity zone)
    let back := deallocated.2.perform moments defaultCapacity
      (.allocate deck card quantity (depot.store.sourceZone deck card zone))
    deallocated.1.isOk = true → Restores depot.store back := by
  intro deallocated back succeeded
  have carried : Carried depot.store deallocated _ _ quantity :=
    deallocate_carried sound.valid free deck card quantity zone
  have shifted := carried.shifted succeeded
  have free' : deallocated.2.refusal = none := Depot.perform_refusal free _
  obtain ⟨deckExists, admits⟩ := carried.succeeds.mp succeeded
  have placing : 0 < depot.store.placed deck card (depot.store.sourceZone deck card zone) :=
    Int.lt_of_lt_of_le admits.positive (admits.enough rfl (by simp [Route.direct, Store.binderOf?]))
  have cardExists := sound.valid.card_of_placed_pos placing
  have returned : Carried deallocated.2.store back _ _ quantity :=
    allocate_carried shifted.valid free' deck card quantity _
  rw [shifted.binderOf?_eq, shifted.decks, shifted.cards] at returned
  exact carried.restores sound succeeded returned ⟨deckExists, cardExists⟩

theorem zoneMove_undone (deck card : Uuid) (quantity : Int) (source target : Zone) :
    let moved := depot.perform moments defaultCapacity (.moveZone deck card quantity source target)
    let back := moved.2.perform moments defaultCapacity (.moveZone deck card quantity target source)
    moved.1.isOk = true → Restores depot.store back := by
  intro moved back succeeded
  have carried : Carried depot.store moved _ _ quantity :=
    moveZone_carried sound.valid free deck card quantity source target
  have shifted := carried.shifted succeeded
  have free' : moved.2.refusal = none := Depot.perform_refusal free _
  obtain ⟨⟨different, deckExists⟩, -⟩ := carried.succeeds.mp succeeded
  have returned : Carried moved.2.store back _ _ quantity :=
    moveZone_carried shifted.valid free' deck card quantity target source
  rw [shifted.decks] at returned
  exact carried.restores sound succeeded returned ⟨different.symm, deckExists⟩

/-- The binder both ways lead through is the same, as the decks have one owner. -/
theorem transfer_undone (source destination card : Uuid) (quantity : Int) (zone : Option Zone)
    (main : depot.store.sourceZone source card zone = .main) :
    let transferred := depot.perform moments defaultCapacity
      (.transfer source destination card quantity zone)
    let back := transferred.2.perform moments defaultCapacity
      (.transfer destination source card quantity (some .main))
    transferred.1.isOk = true → Restores depot.store back := by
  intro transferred back succeeded
  have carried : Carried depot.store transferred _ _ quantity :=
    transfer_carried sound.valid free source destination card quantity zone
  have shifted := carried.shifted succeeded
  have free' : transferred.2.refusal = none := Depot.perform_refusal free _
  obtain ⟨⟨different, sourceExists, deckExists, owners⟩, -⟩ := carried.succeeds.mp succeeded
  have returned : Carried transferred.2.store back _ _ quantity :=
    transfer_carried shifted.valid free' destination source card quantity (some .main)
  have wayBack : transferred.2.store.transferRoute destination source card .main =
      (depot.store.transferRoute source destination card .main).reverse := by
    refine Route.ext rfl rfl ?_
    change transferred.2.store.binderOf? destination card = depot.store.binderOf? source card
    rw [shifted.binderOf?_eq, Store.binderOf?, Store.binderOf?, owners]
  rw [Store.sourceZone, wayBack, shifted.decks, shifted.ownerOf?_eq, shifted.ownerOf?_eq]
    at returned
  rw [main] at carried
  exact carried.restores sound succeeded returned
    ⟨different.symm, deckExists, sourceExists, owners.symm⟩

end Pairs

theorem Undoes.restores {operation inverse : Operation} {result : operation.Result}
    {between : Depot} (undoes : Undoes operation result inverse) (sound : depot.store.Sound)
    (performed : depot.perform moments defaultCapacity operation = (.ok result, between)) :
    Restores depot.store (between.perform moments defaultCapacity inverse) := by
  have free := refusal_of_perform performed
  have succeeded : (depot.perform moments defaultCapacity operation).1.isOk = true := by
    rw [performed]
    rfl
  obtain ⟨staged, ran, -⟩ := Depot.perform_eq_ok performed
  obtain rfl : (depot.perform moments defaultCapacity operation).2 = between := by rw [performed]
  cases undoes with
  | credit user card quantity entry => exact credit_undone sound free user card quantity succeeded
  | debit user card quantity left => exact debit_undone sound free user card quantity succeeded
  | allocate deck card quantity zone entry =>
      exact allocation_undone sound free deck card quantity zone succeeded
  | deallocate deck card quantity zone removal =>
      have own := (deallocate_reports_zone sound.valid deck card quantity zone depot.drawn).ok ran
      rw [own]
      exact deallocation_undone sound free deck card quantity zone succeeded
  | moveZone deck card quantity source target moved =>
      exact zoneMove_undone sound free deck card quantity source target succeeded
  | transfer source destination card quantity zone outcome fromMain =>
      have own := (transfer_reports_zone sound.valid source destination card quantity zone
        depot.drawn).ok ran
      exact transfer_undone sound free source destination card quantity zone
        (own.symm.trans fromMain) succeeded

/-- Every operation that has moved copies can be undone at once, and then the tables are as they
were, up to times. -/
theorem movement_undone (reachable : Reachable moments defaultCapacity depot)
    {operation inverse : Operation} {result : operation.Result} {between : Depot}
    (performed : depot.perform moments defaultCapacity operation = (.ok result, between))
    (undoes : Undoes operation result inverse) :
    ∃ result' after, between.perform moments defaultCapacity inverse = (.ok result', after) ∧
      after.store.untimed = depot.store.untimed := by
  obtain ⟨succeeded, same⟩ := undoes.restores reachable.sound performed
  rcases outcome : between.perform moments defaultCapacity inverse with ⟨failure | result', after⟩
  · rw [outcome] at succeeded
    cases succeeded
  · rw [outcome] at same
    exact ⟨result', after, rfl, same⟩

/-- A deck that may hold two copies has them back after it has given them both to another. -/
theorem transfer_of_all_undone :
    let moments : Nat → Moment := fun n => ⟨⟨n, 0⟩, .ofNat n⟩
    let card : Uuid := .ofNat 7
    let operations : List Operation :=
      [.createUser ⟨"ada", none⟩, .registerCard ⟨card, "Forest", none, none, none, none, [default]⟩,
        .createDeck ⟨.ofNat 0, "Elves", "modern", some 2, false, none⟩,
        .createDeck ⟨.ofNat 0, "Goblins", "modern", none, false, none⟩,
        .creditBinder (.ofNat 0) card 2, .allocate (.ofNat 3) card 2 .main]
    let depot := (Depot.empty.runUnit moments true (inTurn 60 operations)).2
    let there := depot.perform moments 60 (.transfer (.ofNat 3) (.ofNat 5) card 2 none)
    Reachable moments 60 depot ∧ ∃ outcome back after, there.1 = .ok outcome ∧
      outcome.source.zone = .main ∧
      there.2.perform moments 60 (.transfer (.ofNat 5) (.ofNat 3) card 2 (some .main)) =
        (.ok back, after) ∧ after.store.untimed = depot.store.untimed := by
  intro moments card operations depot there
  have reachable : Reachable moments 60 depot :=
    .compose .empty true operations (by decide +kernel)
  have moved : (match there.1 with
      | .ok outcome => decide (outcome.source.zone = .main)
      | .error _ => false) = true := by decide +kernel
  clear_value depot
  rcases performed : there with ⟨failure | outcome, between⟩
  · simp [performed] at moved
  · rw [performed] at moved
    have fromMain : outcome.source.zone = .main := of_decide_eq_true moved
    obtain ⟨back, after, undone, same⟩ :=
      movement_undone reachable performed (.transfer _ _ _ _ _ outcome fromMain)
    exact ⟨reachable, outcome, back, after, rfl, fromMain, undone, same⟩

end Inventory

end CardInventory
