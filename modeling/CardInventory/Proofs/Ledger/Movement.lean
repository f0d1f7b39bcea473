import CardInventory.Proofs.Ledger.Binder
import CardInventory.Proofs.Ledger.Deck

/-!
# Outcomes of movements

A movement is refused for the first of its causes, and over valid tables nothing
has been changed by then, unless a number of copies would not take 32 bits.
-/

namespace CardInventory

open Memory Storage

namespace Ledger

variable {moments : Nat → Moment} {store : Store} {drawn : Nat}

/-- The last two steps of an allocation: only the number of copies can still be too large. -/
theorem debit_addToZone_ends (valid : store.Valid) {deck card : Uuid} {quantity : Int}
    (zone : Zone) {row : Deck} (found : store.decks.get? deck = some row)
    (cardExists : store.cards.contains card = true) (positive : 0 < quantity)
    (enough : quantity ≤ store.held row.owner card) :
    (debit row.owner card quantity >>= fun _ => addToZone deck card quantity zone).Ends
      (answerNext moments) .storage ⟨store, drawn⟩
      (fun _ after => store.additionRefusal deck card quantity zone = none ∧
        Store.Moved store after.store (fun _ _ => 0)
          (fun deck' => if deck' = deck then quantity else 0) ∧
        ∃ debited added,
          after.store = store.allocated row.owner deck card quantity zone debited added)
      (fun failure _ => store.additionRefusal deck card quantity zone = some failure ∧
        failure.cannotGrow = true) := by
  have deckExists : store.decks.contains deck = true := Table.contains_of_get? found
  have holding := valid.held_le row.owner card
  rw [Procedure.ends_bind]
  apply (debit_ends valid row.owner card quantity).mono
  · rintro _ ⟨_, drawn⟩ ⟨-, debited, same⟩
    obtain rfl : store.hold row.owner card _ debited = _ := same.symm
    have taken := valid.moved_hold (store.held row.owner card - quantity)
      (valid.decks found).owner cardExists (by omega) (by omega) debited
    apply (addToZone_ends taken.valid deck card quantity zone).mono
    · rintro _ after ⟨accepted, added, -, same⟩
      rw [Store.additionRefusal_hold] at accepted
      obtain ⟨-, -, -, small⟩ := Store.additionRefusal_eq_none_iff.mp accepted
      exact ⟨accepted, same ▸
        valid.moved_allocated found cardExists positive enough small debited added,
        debited, added, same⟩
    · rintro failure after ⟨refused, -⟩
      rw [Store.additionRefusal_hold] at refused
      exact ⟨refused, Store.additionRefusal_cannotGrow positive deckExists cardExists refused⟩
  · rintro failure after ⟨refused, -⟩
    simp [Store.debitRefusal_eq_none_iff.mpr ⟨positive, enough⟩] at refused

theorem allocate_ends (valid : store.Valid) (deck card : Uuid) (quantity : Int) (zone : Zone) :
    (allocate deck card quantity zone).Ends (answerNext moments) .storage ⟨store, drawn⟩
      (fun _ after => store.allocationRefusal deck card quantity zone = none ∧
        Store.Moved store after.store (fun _ _ => 0)
          (fun deck' => if deck' = deck then quantity else 0) ∧
        ∃ row debited added, store.decks.get? deck = some row ∧
          quantity ≤ store.held row.owner card ∧
          after.store = store.allocated row.owner deck card quantity zone debited added)
      (fun failure after => store.allocationRefusal deck card quantity zone = some failure ∧
        (failure.cannotGrow = false → after.store = store)) := by
  rw [allocate, Procedure.ends_bind, ends_ensurePositive]
  by_cases positive : 0 < quantity
  · rw [if_pos positive, Procedure.ends_bind, ends_lockDeck valid]
    cases found : store.decks.get? deck with
    | none => simp [Store.allocationRefusal, found, Int.not_le.mpr positive]
    | some row =>
        have keyed : row.id = deck := (valid.decks found).keyed
        simp only
        rw [Procedure.ends_bind, ends_ask (.cardExists card)]
        simp only [Store.answer]
        rw [Procedure.ends_bind, ends_ensure]
        by_cases cardExists : store.cards.contains card = true
        · rw [if_pos cardExists, Procedure.ends_bind, ends_ensureCapacity valid, keyed]
          cases capacity : checkCapacity row.capacity (store.copiesIn deck) quantity with
          | error failure =>
              simp [Store.allocationRefusal, found, cardExists, capacity,
                Int.not_le.mpr positive]
          | ok _ =>
              simp only
              rw [Procedure.ends_bind, ends_quantityOf, Procedure.ends_bind, ends_ensure]
              by_cases enough : quantity ≤ store.held row.owner card
              · have reduced : store.allocationRefusal deck card quantity zone =
                    store.additionRefusal deck card quantity zone := by
                  simp [Store.allocationRefusal, found, cardExists, capacity,
                    Int.not_le.mpr positive, Int.not_lt.mpr enough]
                rw [if_pos (decide_eq_true enough), reduced]
                apply (debit_addToZone_ends valid zone found cardExists positive enough).mono
                · rintro _ after ⟨accepted, moved, debited, added, same⟩
                  exact ⟨accepted, moved, row, debited, added, rfl, enough, same⟩
                · rintro failure after ⟨refused, large⟩
                  exact ⟨refused, of_cannotGrow large⟩
              · simp [Store.allocationRefusal, found, cardExists, capacity, enough,
                  Int.not_le.mpr positive, Int.not_le.mp enough]
        · simp [Store.allocationRefusal, found, cardExists, Int.not_le.mpr positive]
  · simp [Store.allocationRefusal, positive, Int.not_lt.mp positive]

/-- The last steps of a deallocation: after the removal, only the number of copies can still
be too large. -/
theorem removeFromZone_credit_ends (valid : store.Valid) {deck card : Uuid} {quantity : Int}
    (zone : Option Zone) {row : Deck} (found : store.decks.get? deck = some row) :
    (do
      let removal ← removeFromZone deck card quantity zone
      let _ ← credit row.owner card quantity
      return removal : Ledger Removal).Ends (answerNext moments) .storage ⟨store, drawn⟩
      (fun _ after =>
        (store.removalRefusal deck card quantity zone).or
            (store.creditRefusal row.owner card quantity) = none ∧
          ∃ entry removed credited, store.removalEntry? deck card zone = some entry ∧
            after.store =
              store.deallocated row.owner deck card quantity entry.zone removed credited ∧
            Store.Moved store after.store (fun _ _ => 0)
              fun deck' => if deck' = deck then -quantity else 0)
      (fun failure after =>
        (store.removalRefusal deck card quantity zone).or
            (store.creditRefusal row.owner card quantity) = some failure ∧
          (failure.cannotGrow = false → after.store = store)) := by
  have deckExists : store.decks.contains deck = true := Table.contains_of_get? found
  rw [Procedure.ends_bind]
  apply (removeFromZone_taken valid deck card quantity zone).mono
  · rintro removal ⟨between, drawn⟩ ⟨accepted, entry, removed, listed, -, taken⟩
    have less := taken.valid valid deckExists
    obtain ⟨positive, cardExists, enough, rfl⟩ := taken
    rw [accepted, Option.none_or, Procedure.ends_bind]
    apply (credit_ends less row.owner card quantity).mono
    · rintro _ after ⟨room, credited, -, same⟩
      rw [Store.creditRefusal_place] at room
      obtain ⟨-, -, -, small⟩ := Store.creditRefusal_eq_none_iff.mp room
      have moved := valid.moved_deallocated found cardExists positive enough small removed credited
      exact (Procedure.ends_pure removal).mpr
        ⟨room, entry, removed, credited, listed, same, same ▸ moved⟩
    · rintro failure after ⟨refused, -⟩
      rw [Store.creditRefusal_place] at refused
      exact ⟨refused, of_cannotGrow
        (Store.creditRefusal_cannotGrow positive (valid.decks found).owner cardExists refused)⟩
  · rintro failure after ⟨refused, same⟩
    exact ⟨by rw [refused, Option.some_or], fun _ => same⟩

theorem deallocate_ends (valid : store.Valid) (deck card : Uuid) (quantity : Int)
    (zone : Option Zone) :
    (deallocate deck card quantity zone).Ends (answerNext moments) .storage ⟨store, drawn⟩
      (fun _ after => store.deallocationRefusal deck card quantity zone = none ∧
        ∃ row entry removed credited, store.decks.get? deck = some row ∧
          store.removalEntry? deck card zone = some entry ∧
          after.store =
            store.deallocated row.owner deck card quantity entry.zone removed credited ∧
          Store.Moved store after.store (fun _ _ => 0)
            fun deck' => if deck' = deck then -quantity else 0)
      (fun failure after => store.deallocationRefusal deck card quantity zone = some failure ∧
        (failure.cannotGrow = false → after.store = store)) := by
  rw [deallocate, Procedure.ends_bind, ends_ensurePositive]
  by_cases positive : 0 < quantity
  · rw [if_pos positive, Procedure.ends_bind, ends_lockDeck valid]
    cases found : store.decks.get? deck with
    | none => simp [Store.deallocationRefusal, found, Int.not_le.mpr positive]
    | some row =>
        have reduced : store.deallocationRefusal deck card quantity zone =
            (store.removalRefusal deck card quantity zone).or
              (store.creditRefusal row.owner card quantity) := by
          simp [Store.deallocationRefusal, found, Int.not_le.mpr positive]
        rw [reduced]
        refine (removeFromZone_credit_ends valid zone found).mono ?_ fun _ _ refused => refused
        rintro removal after ⟨accepted, entry, removed, credited, moved⟩
        exact ⟨accepted, row, entry, removed, credited, rfl, moved⟩
  · simp [Store.deallocationRefusal, positive, Int.not_lt.mp positive]

/-- The last steps of a move between zones: after the removal, only the number of copies can
still be too large. -/
theorem removeFromZone_addToZone_ends (valid : store.Valid) {deck card : Uuid} {quantity : Int}
    {source target : Zone} (different : source ≠ target) {row : Deck}
    (found : store.decks.get? deck = some row) :
    (do
      let removal ← removeFromZone deck card quantity (some source)
      let entry ← addToZone deck card quantity target
      return ⟨removal, entry⟩ : Ledger ZoneMove).Ends (answerNext moments) .storage ⟨store, drawn⟩
      (fun _ after =>
        (store.removalRefusal deck card quantity (some source)).or
            (store.additionRefusal deck card quantity target) = none ∧
          Store.Moved store after.store (fun _ _ => 0) fun _ => 0)
      (fun failure after =>
        (store.removalRefusal deck card quantity (some source)).or
            (store.additionRefusal deck card quantity target) = some failure ∧
          (failure.cannotGrow = false → after.store = store)) := by
  have deckExists : store.decks.contains deck = true := Table.contains_of_get? found
  rw [Procedure.ends_bind]
  apply (removeFromZone_taken valid deck card quantity (some source)).mono
  · rintro removal ⟨between, drawn⟩ ⟨accepted, entry, removed, -, member, taken⟩
    obtain rfl : entry.zone = source := List.mem_singleton.mp member
    have less := taken.valid valid deckExists
    obtain ⟨positive, cardExists, enough, rfl⟩ := taken
    rw [accepted, Option.none_or, Procedure.ends_bind]
    apply (addToZone_ends less deck card quantity target).mono
    · rintro added after ⟨room, time, -, same⟩
      rw [Store.additionRefusal_place different] at room
      rw [Store.placed_place_of_zone_ne _ _ _ _ _ _ different] at same
      obtain ⟨-, -, -, small⟩ := Store.additionRefusal_eq_none_iff.mp room
      have moved :=
        valid.moved_rezoned different found cardExists positive enough small removed time
      exact (Procedure.ends_pure (ZoneMove.mk removal added)).mpr ⟨room, same ▸ moved⟩
    · rintro failure after ⟨refused, -⟩
      rw [Store.additionRefusal_place different] at refused
      exact ⟨refused, of_cannotGrow
        (Store.additionRefusal_cannotGrow positive deckExists cardExists refused)⟩
  · rintro failure after ⟨refused, same⟩
    exact ⟨by rw [refused, Option.some_or], fun _ => same⟩

theorem moveZone_ends (valid : store.Valid) (deck card : Uuid) (quantity : Int)
    (source target : Zone) :
    (moveZone deck card quantity source target).Ends (answerNext moments) .storage ⟨store, drawn⟩
      (fun _ after => store.zoneMoveRefusal deck card quantity source target = none ∧
        Store.Moved store after.store (fun _ _ => 0) fun _ => 0)
      (fun failure after =>
        store.zoneMoveRefusal deck card quantity source target = some failure ∧
          (failure.cannotGrow = false → after.store = store)) := by
  rw [moveZone, Procedure.ends_bind, ends_ensurePositive]
  by_cases positive : 0 < quantity
  · rw [if_pos positive, Procedure.ends_bind, ends_ensure]
    by_cases different : source ≠ target
    · rw [if_pos (decide_eq_true different), Procedure.ends_bind, ends_lockDeck valid]
      cases found : store.decks.get? deck with
      | none =>
          have missing : store.decks.contains deck = false := by simp [Table.contains, found]
          simp [Store.zoneMoveRefusal, different, missing, Int.not_le.mpr positive]
      | some row =>
          have deckExists : store.decks.contains deck = true := Table.contains_of_get? found
          have reduced : store.zoneMoveRefusal deck card quantity source target =
              (store.removalRefusal deck card quantity (some source)).or
                (store.additionRefusal deck card quantity target) := by
            simp [Store.zoneMoveRefusal, different, deckExists, Int.not_le.mpr positive]
          rw [reduced]
          exact removeFromZone_addToZone_ends valid different found
    · simp [Store.zoneMoveRefusal, different, Int.not_le.mpr positive]
  · simp [Store.zoneMoveRefusal, positive, Int.not_lt.mp positive]

/-- Once copies have left one deck for the binder, another deck of the owner that has the
capacity for them refuses them only for their number. -/
theorem allocationRefusal_deallocated (valid : store.Valid) {source destination card : Uuid}
    {quantity : Int} {zone : Zone} {removed credited : Instant} {row : Deck}
    (different : source ≠ destination) (found : store.decks.get? destination = some row)
    (cardExists : store.cards.contains card = true) (positive : 0 < quantity)
    (capacity : checkCapacity row.capacity (store.copiesIn destination) quantity = .ok ())
    (moved : Store.Moved store
      (store.deallocated row.owner source card quantity zone removed credited) (fun _ _ => 0)
      fun deck => if deck = source then -quantity else 0) :
    (store.deallocated row.owner source card quantity zone removed credited).allocationRefusal
        destination card quantity .main =
      store.additionRefusal destination card quantity .main := by
  have nonneg := valid.held_nonneg row.owner card
  have enough : ¬ store.held row.owner card + quantity < quantity := by omega
  have total := moved.copies destination
  rw [if_neg (Ne.symm different), Int.add_zero] at total
  simp only [Store.allocationRefusal, Store.additionRefusal, moved.decks, moved.cards, found, total,
    capacity, cardExists, Store.held_deallocated, enough, if_false, Bool.true_eq_false,
    Int.not_le.mpr positive, Store.placed_deallocated_of_ne _ _ _ _ _ _ _ (Ne.symm different)]

/-- The last steps of a transfer: a deallocation, and an allocation that only the number of
copies can still keep from. -/
theorem deallocate_allocate_ends (valid : store.Valid) {source destination card : Uuid}
    {quantity : Int} (zone : Option Zone) (different : source ≠ destination)
    (positive : 0 < quantity) {sourceRow row : Deck}
    (sourceFound : store.decks.get? source = some sourceRow)
    (found : store.decks.get? destination = some row) (owners : sourceRow.owner = row.owner)
    (capacity : checkCapacity row.capacity (store.copiesIn destination) quantity = .ok ()) :
    (do
      let removal ← deallocate source card quantity zone
      let entry ← allocate destination card quantity .main
      return ⟨removal, entry⟩ : Ledger TransferOutcome).Ends (answerNext moments) .storage
      ⟨store, drawn⟩
      (fun _ after =>
        (store.deallocationRefusal source card quantity zone).or
            (store.additionRefusal destination card quantity .main) = none ∧
          Store.Moved store after.store (fun _ _ => 0) fun deck =>
            (if deck = source then -quantity else 0) + if deck = destination then quantity else 0)
      (fun failure after =>
        (store.deallocationRefusal source card quantity zone).or
            (store.additionRefusal destination card quantity .main) = some failure ∧
          (failure.cannotGrow = false → after.store = store)) := by
  rw [Procedure.ends_bind]
  apply (deallocate_ends valid source card quantity zone).mono
  · rintro removal ⟨_, drawn⟩ ⟨accepted, sourceRow', entry, removed, credited, sourceFound',
      listed, same, moved⟩
    obtain rfl := Option.some.inj (sourceFound.symm.trans sourceFound')
    rw [owners] at same
    obtain rfl : store.deallocated row.owner source card _ _ _ _ = _ := same.symm
    have cardExists := (valid.entries (Store.removalEntry?_eq_some valid listed).2).card
    have rest :=
      allocationRefusal_deallocated valid different found cardExists positive capacity moved
    rw [accepted, Option.none_or, Procedure.ends_bind]
    apply (allocate_ends moved.valid destination card quantity .main).mono
    · rintro added after ⟨room, onward, -⟩
      rw [rest] at room
      exact (Procedure.ends_pure (TransferOutcome.mk removal added)).mpr
        ⟨room, (moved.trans onward).congr (fun _ _ => rfl) fun _ => rfl⟩
    · rintro failure after ⟨refused, -⟩
      rw [rest] at refused
      exact ⟨refused, of_cannotGrow (Store.additionRefusal_cannotGrow positive
        (Table.contains_of_get? found) cardExists refused)⟩
  · rintro failure after ⟨refused, kept⟩
    exact ⟨by rw [refused, Option.some_or], kept⟩

theorem transfer_ends (valid : store.Valid) (source destination card : Uuid) (quantity : Int)
    (zone : Option Zone) :
    (transfer source destination card quantity zone).Ends (answerNext moments) .storage
      ⟨store, drawn⟩
      (fun _ after => store.transferRefusal source destination card quantity zone = none ∧
        Store.Moved store after.store (fun _ _ => 0) fun deck =>
          (if deck = source then -quantity else 0) + if deck = destination then quantity else 0)
      (fun failure after =>
        store.transferRefusal source destination card quantity zone = some failure ∧
          (failure.cannotGrow = false → after.store = store)) := by
  have sourceRow? : rowOf? Deck.id source ([source, destination].filterMap store.decks.get?) =
      store.decks.get? source := rowOf?_filterMap valid (by simp)
  have destinationRow? :
      rowOf? Deck.id destination ([source, destination].filterMap store.decks.get?) =
        store.decks.get? destination := rowOf?_filterMap valid (by simp)
  rw [transfer, Procedure.ends_bind, ends_ensurePositive]
  by_cases positive : 0 < quantity
  · rw [if_pos positive, Procedure.ends_bind, ends_ensure]
    by_cases different : source ≠ destination
    · rw [if_pos (decide_eq_true different), Procedure.ends_bind,
        ends_ask (.lockDecks [source, destination])]
      simp only [Store.answer]
      rw [Procedure.ends_bind, ends_found, sourceRow?]
      cases sourceFound : store.decks.get? source with
      | none => simp [Store.transferRefusal, different, sourceFound, Int.not_le.mpr positive]
      | some sourceRow =>
          simp only
          rw [Procedure.ends_bind, ends_found, destinationRow?]
          cases found : store.decks.get? destination with
          | none =>
              simp [Store.transferRefusal, different, sourceFound, found, Int.not_le.mpr positive]
          | some row =>
              have sameId : row.id = destination := (valid.decks found).keyed
              simp only
              rw [Procedure.ends_bind, ends_ensure]
              by_cases owners : sourceRow.owner = row.owner
              · rw [if_pos (decide_eq_true owners), Procedure.ends_bind,
                  ends_ensureCapacity valid, sameId]
                cases capacity : checkCapacity row.capacity (store.copiesIn destination)
                    quantity with
                | error failure =>
                    simp [Store.transferRefusal, different, sourceFound, found, owners, capacity,
                      Int.not_le.mpr positive]
                | ok _ =>
                    have reduced :
                        store.transferRefusal source destination card quantity zone =
                          (store.deallocationRefusal source card quantity zone).or
                            (store.additionRefusal destination card quantity .main) := by
                      simp [Store.transferRefusal, different, sourceFound, found, owners, capacity,
                        Int.not_le.mpr positive]
                    rw [reduced]
                    exact deallocate_allocate_ends valid zone different positive sourceFound found
                      owners capacity
              · simp [Store.transferRefusal, different, sourceFound, found, owners,
                  Int.not_le.mpr positive]
    · simp [Store.transferRefusal, different, Int.not_le.mpr positive]
  · simp [Store.transferRefusal, positive, Int.not_lt.mp positive]

end Ledger

end CardInventory
