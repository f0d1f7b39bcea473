import CardInventory.Proofs.Database.Order

/-!
# Locks of the ledger rules

Every rule keeps to the order of locks, whatever is replied to it. A movement knows the
owner of a deck by the row that its own lock was replied with; a transfer locks both
its decks once more, and goes from one binder to another only where the server has
changed its mind about an owner.
-/

namespace CardInventory.Database

open Memory Storage Ledger Inventory Contract

variable {trace : Trace} {key : BinderKey} {deck : Uuid}

/-- A quiet request touches no binder. -/
theorem keeps_ask_still {request : Request} (quiet : quietRequest request = true) :
    orderly.Keeps (ask request) trace fun _ after => Still trace after :=
  keeps_quiet orderly_lenient quiet fun _ _ quietRest => still_quiet quietRest

/-! ## Binders -/

/-- A statement about an entry of a binder that comes after all that were touched before. -/
theorem keeps_ask_binder {request : Request} {statement : Statement} {access : Access}
    {reading : Outcome → Except Storage.Fault request.Reply}
    (single : ∀ fresh, exchange fresh request = .query statement reading)
    (touches : statement.access? = some (.binder key, access)) (ahead : Ahead trace key)
    (read : access = .lock ∨ ReadLocked trace (.binder key)) :
    orderly.Keeps (ask request) trace fun _ after =>
      Ahead after key ∧ (access = .lock → ReadLocked after (.binder key)) := by
  apply keeps_ask single (permits_binder touches ahead read)
  intro outcome reply _ _
  constructor
  · exact ahead.append_singleton (by simp [Statement.binderKey?, touches])
  · rintro rfl
    exact readLocked_append_singleton touches

theorem credit_orderly {user card : Uuid} (ahead : Ahead trace ⟨user, card⟩) (quantity : Int) :
    orderly.Keeps (credit user card quantity) trace fun _ after => Ahead after ⟨user, card⟩ := by
  rw [credit, keeps_bind, keeps_ensurePositive]
  intro _
  apply keeps_checked orderly_lenient rfl
  intro first quietFirst
  apply keeps_checked orderly_lenient rfl
  intro second quietSecond
  have ahead := (ahead.still (still_quiet quietFirst)).still (still_quiet quietSecond)
  rw [keeps_bind]
  apply (keeps_ask_binder (fun _ => rfl) rfl ahead (.inl rfl)).mono
  rintro entry between ⟨ahead, read⟩
  rw [keeps_bind, keeps_ensure]
  intro _
  apply (keeps_ask_binder (fun _ => rfl) rfl ahead (.inr (read rfl))).mono
  rintro _ after ⟨ahead, -⟩
  exact ahead

theorem debit_orderly {user card : Uuid} (ahead : Ahead trace ⟨user, card⟩) (quantity : Int) :
    orderly.Keeps (debit user card quantity) trace fun _ after => Ahead after ⟨user, card⟩ := by
  rw [debit, keeps_bind, keeps_ensurePositive]
  intro _
  rw [keeps_bind]
  apply (keeps_ask_binder (fun _ => rfl) rfl ahead (.inl rfl)).mono
  rintro entry? between ⟨ahead, read⟩
  rw [keeps_bind, keeps_found]
  intro entry _
  rw [keeps_bind, keeps_ensure]
  intro _
  split
  · rw [keeps_bind]
    apply (keeps_ask_binder (exchange_deleteFromBinder · user card) rfl ahead
      (.inr (read rfl))).mono
    rintro _ after ⟨ahead, -⟩
    exact ahead
  · rw [keeps_bind]
    apply (keeps_ask_binder (fun _ => rfl) rfl ahead (.inr (read rfl))).mono
    rintro _ after ⟨ahead, -⟩
    exact ahead

theorem quantityOf_orderly {user card : Uuid} (ahead : Ahead trace ⟨user, card⟩) :
    orderly.Keeps (quantityOf user card) trace fun _ after => Ahead after ⟨user, card⟩ := by
  rw [quantityOf, keeps_bind]
  apply (keeps_ask_binder (fun _ => rfl) rfl ahead (.inl rfl)).mono
  rintro _ after ⟨ahead, -⟩
  exact ahead

/-! ## Decks -/

/-- Decks may be locked first of all, and once more after they were found. -/
theorem keeps_lockDecks {ids : List Uuid} (first : Quiet trace ∨ ∀ id ∈ ids, Found trace id) :
    orderly.Keeps (ask (.lockDecks ids)) trace fun rows after =>
      Still trace after ∧ ∀ id ∈ ids, ∀ row, rowOf? Deck.id id rows = some row →
        row ∈ deckRows after ∧ row.id = id := by
  have permitted : orderly.permits trace (.lockDecks (ascending ids)) := by
    apply permits_lockDecks (pairwise_ascending ids)
    apply first.imp_right
    intro found id member
    exact found id (mem_ascending.mp member)
  apply keeps_ask (fun _ => rfl) permitted
  intro outcome rows _ readable
  refine ⟨still_singleton rfl, fun id asked row present => ⟨?_, id_of_rowOf? present⟩⟩
  rw [deckRows_append]
  exact List.mem_append_right _ (mem_deckRows (mem_ascending.mpr asked) readable present)

theorem lockDeck_orderly (first : Quiet trace ∨ Found trace deck) :
    orderly.Keeps (lockDeck deck) trace fun row after =>
      Still trace after ∧ row ∈ deckRows after ∧ row.id = deck := by
  rw [lockDeck, keeps_bind]
  apply (keeps_lockDecks (first.imp_right List.forall_mem_singleton.mpr)).mono
  rintro rows after ⟨still, present⟩
  rw [keeps_found]
  intro row found
  exact ⟨still, present deck List.mem_cons_self row found⟩

theorem ensureCapacity_orderly (row : Deck) (quantity : Int) :
    orderly.Keeps (ensureCapacity row quantity) trace fun _ after => Still trace after := by
  rw [ensureCapacity, keeps_bind]
  apply keeps_quiet orderly_lenient rfl
  intro total rest quietRest
  rw [keeps_ofExcept]
  intro _ _
  exact still_quiet quietRest

theorem addToZone_orderly (found : Found trace deck) (card : Uuid) (quantity : Int) (zone : Zone) :
    orderly.Keeps (addToZone deck card quantity zone) trace fun _ after => Still trace after := by
  rw [addToZone, keeps_bind, keeps_ensurePositive]
  intro _
  apply keeps_checked orderly_lenient rfl
  intro first quietFirst
  apply keeps_checked orderly_lenient rfl
  intro second quietSecond
  have still : Still trace (trace ++ first ++ second) :=
    (still_quiet quietFirst).trans (still_quiet quietSecond)
  have found := found.still still
  rw [keeps_bind]
  apply keeps_ask (fun _ => rfl) (permits_zone rfl found (.inl rfl))
  intro outcome entry _ _
  rw [keeps_bind, keeps_ensure]
  intro _
  apply keeps_ask (fun _ => rfl)
    (permits_zone rfl (found.append _) (.inr (readLocked_append_singleton rfl)))
  intro outcome' added _ _
  exact (still.trans (still_singleton rfl)).trans (still_singleton rfl)

/-- The entry that is found was read under a lock, and no binder was touched on the way. -/
theorem firstEntry_orderly (found : Found trace deck) (card : Uuid) (zones : List Zone) :
    orderly.Keeps (firstEntry deck card zones) trace fun entry after =>
      Still trace after ∧ ReadLocked after (.zone ⟨deck, card, entry.zone⟩) := by
  induction zones generalizing trace with
  | nil => exact (keeps_fail _).mpr trivial
  | cons zone rest ih =>
      rw [firstEntry, keeps_bind]
      apply keeps_ask (fun _ => rfl) (permits_zone rfl found (.inl rfl))
      intro outcome entry? keyed readable
      cases entry? with
      | some entry =>
          have own : entry.zone = zone := (key_of_deckEntry keyed readable).2.2
          rw [keeps_pure, own]
          exact ⟨still_singleton rfl, readLocked_append_singleton rfl⟩
      | none =>
          apply (ih (found.append _)).mono
          rintro entry after ⟨still, read⟩
          exact ⟨(still_singleton rfl).trans still, read⟩

theorem removeFromZone_orderly (found : Found trace deck) (card : Uuid) (quantity : Int)
    (zone : Option Zone) :
    orderly.Keeps (removeFromZone deck card quantity zone) trace fun _ after =>
      Still trace after := by
  rw [removeFromZone, keeps_bind, keeps_ensurePositive]
  intro _
  rw [keeps_bind]
  apply (firstEntry_orderly found card _).mono
  rintro entry between ⟨still, read⟩
  rw [keeps_bind, keeps_ensure]
  intro _
  split
  · rw [keeps_bind]
    apply keeps_ask (exchange_deleteFromDeck · deck card entry.zone)
      (permits_zone rfl (found.still still) (.inr read))
    intro outcome removed _ _
    exact still.trans (still_singleton rfl)
  · rw [keeps_bind]
    apply keeps_ask (fun _ => rfl) (permits_zone rfl (found.still still) (.inr read))
    intro outcome rest _ _
    exact still.trans (still_singleton rfl)

/-! ## Movements -/

theorem allocate_orderly {card : Uuid} (first : Quiet trace ∨ Found trace deck)
    (ahead : ∀ after row, Still trace after → row ∈ deckRows after → row.id = deck →
      Ahead after ⟨row.owner, card⟩) (quantity : Int) (zone : Zone) :
    orderly.Keeps (allocate deck card quantity zone) trace fun _ _ => True := by
  rw [allocate, keeps_bind, keeps_ensurePositive]
  intro _
  rw [keeps_bind]
  apply (lockDeck_orderly first).mono
  rintro row locked ⟨still, member, own⟩
  apply keeps_checked orderly_lenient rfl
  intro first quietFirst
  rw [keeps_bind]
  apply (ensureCapacity_orderly row quantity).mono
  intro _ checked stillChecked
  have still' := (still_quiet quietFirst).trans stillChecked
  have found : Found checked deck := Found.still ⟨row, member, own⟩ still'
  rw [keeps_bind]
  apply (quantityOf_orderly ((ahead locked row still member own).still still')).continues.mono
  rintro held read ⟨aheadRead, others, rfl, -⟩
  rw [keeps_bind, keeps_ensure]
  intro _
  rw [keeps_bind]
  apply (debit_orderly aheadRead quantity).continues.mono
  rintro _ taken ⟨-, more, rfl, -⟩
  apply (addToZone_orderly ((found.append others).append more) card quantity zone).mono
  exact fun _ _ _ => trivial

/-- Copies that leave a deck go to the owner by the row that its lock was replied with. -/
theorem deallocate_orderly {card : Uuid} (first : Quiet trace ∨ Found trace deck)
    (ahead : ∀ after row, Still trace after → row ∈ deckRows after → row.id = deck →
      Ahead after ⟨row.owner, card⟩) (quantity : Int) (zone : Option Zone) :
    orderly.Keeps (deallocate deck card quantity zone) trace fun _ after =>
      ∃ row ∈ deckRows after, row.id = deck ∧ Ahead after ⟨row.owner, card⟩ := by
  rw [deallocate, keeps_bind, keeps_ensurePositive]
  intro _
  rw [keeps_bind]
  apply (lockDeck_orderly first).mono
  rintro row locked ⟨still, member, own⟩
  rw [keeps_bind]
  apply (removeFromZone_orderly ⟨row, member, own⟩ card quantity zone).mono
  rintro removal taken stillTaken
  rw [keeps_bind]
  apply (credit_orderly ((ahead locked row still member own).still stillTaken)
    quantity).continues.mono
  rintro _ _ ⟨aheadCredited, rest, rfl, -⟩
  exact ⟨row, deckRows_subset rest (stillTaken.deckRows_subset member), own, aheadCredited⟩

/-- Both decks were found by the first lock, so that the later ones ask for nothing new; the
binders are the same as long as the owners are. -/
theorem transfer_orderly (quiet : Quiet trace) (source destination card : Uuid) (quantity : Int)
    (zone : Option Zone) :
    orderly.Keeps (transfer source destination card quantity zone) trace fun _ _ => True := by
  rw [transfer, keeps_bind, keeps_ensurePositive]
  intro _
  rw [keeps_bind, keeps_ensure]
  intro _
  rw [keeps_bind]
  apply (keeps_lockDecks (.inl quiet)).mono
  rintro rows locked ⟨stillLocked, present⟩
  rw [keeps_bind, keeps_found]
  intro sourceRow sourcePresent
  obtain ⟨sourceMember, sourceOwn⟩ := present source List.mem_cons_self sourceRow sourcePresent
  rw [keeps_bind, keeps_found]
  intro destinationRow destinationPresent
  obtain ⟨destinationMember, destinationOwn⟩ := present destination
    (List.mem_cons_of_mem source List.mem_cons_self) destinationRow destinationPresent
  rw [keeps_bind, keeps_ensure, decide_eq_true_eq]
  intro sameOwner
  rw [keeps_bind]
  apply (ensureCapacity_orderly destinationRow quantity).mono
  intro _ checked stillChecked
  have still := stillLocked.trans stillChecked
  have sourceFound : Found checked source :=
    ⟨sourceRow, stillChecked.deckRows_subset sourceMember, sourceOwn⟩
  rw [keeps_bind]
  apply (deallocate_orderly (.inr sourceFound) (fun after row onward _ _ =>
    (ahead_of_quiet quiet).still (still.trans onward)) quantity zone).continues.mono
  rintro removal _ ⟨⟨row, rowMember, rowOwn, ahead⟩, rest, rfl, -⟩
  have known : deckRows locked ⊆ deckRows (checked ++ rest) := fun other member =>
    deckRows_subset rest (stillChecked.deckRows_subset member)
  rw [keeps_bind]
  apply (allocate_orderly (.inr ⟨destinationRow, known destinationMember, destinationOwn⟩)
    ?_ quantity .main).mono
  · exact fun _ _ _ => trivial
  · -- The allocation debits the owner by its own lock, the deallocation has credited the owner by
    -- its own. Both are the owner by the first lock.
    intro after row' onward member own same
    have rows := onward.deckRows_subset
    have owner : row'.owner = row.owner :=
      calc row'.owner = destinationRow.owner :=
            same _ member _ (rows (known destinationMember)) (own.trans destinationOwn.symm)
        _ = sourceRow.owner := sameOwner.symm
        _ = row.owner := same _ (rows (known sourceMember)) _ (rows rowMember)
            (sourceOwn.trans rowOwn.symm)
    rw [owner]
    exact ahead.still onward same

theorem moveZone_orderly (quiet : Quiet trace) (deck card : Uuid) (quantity : Int)
    (source target : Zone) :
    orderly.Keeps (moveZone deck card quantity source target) trace fun _ _ => True := by
  rw [moveZone, keeps_bind, keeps_ensurePositive]
  intro _
  rw [keeps_bind, keeps_ensure]
  intro _
  rw [keeps_bind]
  apply (lockDeck_orderly (.inl quiet)).mono
  rintro row locked ⟨-, member, own⟩
  have found : Found locked deck := ⟨row, member, own⟩
  rw [keeps_bind]
  apply (removeFromZone_orderly found card quantity (some source)).mono
  intro removal taken still
  rw [keeps_bind]
  apply (addToZone_orderly (found.still still) card quantity target).mono
  exact fun _ _ _ => trivial

/-! ## Deleted decks -/

/-- Entries that are credited in the order of their cards come in ascending order. -/
theorem creditAll_orderly {owner : Uuid} {entries : List DeckEntry}
    (sorted : entries.Pairwise fun earlier later => earlier.card.rank ≤ later.card.rank)
    (ahead : ∀ entry ∈ entries, Ahead trace ⟨owner, entry.card⟩) :
    orderly.Keeps (creditAll owner entries) trace fun _ _ => True := by
  induction entries generalizing trace with
  | nil => exact (keeps_pure ()).mpr trivial
  | cons entry rest ih =>
      obtain ⟨least, sortedRest⟩ := List.pairwise_cons.mp sorted
      rw [creditAll, keeps_bind]
      apply (credit_orderly (ahead entry List.mem_cons_self) entry.quantity).mono
      intro _ after aheadAfter
      apply ih sortedRest
      intro other member
      apply aheadAfter.trans
      exact rank_le_rank_iff.mpr (.inr ⟨rfl, least other member⟩)

/-- Entries are released by card and zone as by one number. -/
theorem releaseOrder_iff {left right : DeckEntry} :
    releaseOrder left right = true ↔
      left.card.rank * 2 + left.zone.rank ≤ right.card.rank * 2 + right.zone.rank := by
  have leftZone : left.zone.rank ≤ 1 := by cases left.zone <;> simp [Zone.rank]
  have rightZone : right.zone.rank ≤ 1 := by cases right.zone <;> simp [Zone.rank]
  have cards : left.card = right.card ↔ left.card.rank = right.card.rank :=
    ⟨congrArg Uuid.rank, Uuid.rank_injective⟩
  simp only [releaseOrder, Bool.or_eq_true, Bool.and_eq_true, decide_eq_true_eq, cards]
  omega

theorem pairwise_mergeSort_releaseOrder (entries : List DeckEntry) :
    (entries.mergeSort releaseOrder).Pairwise fun earlier later =>
      earlier.card.rank ≤ later.card.rank := by
  have sorted : (entries.mergeSort releaseOrder).Pairwise (releaseOrder · ·) := by
    apply List.pairwise_mergeSort
    · intro first second third
      simp only [releaseOrder_iff]
      omega
    · intro left right
      simp only [Bool.or_eq_true, releaseOrder_iff]
      omega
  apply sorted.imp
  intro earlier later ordered
  have ordered := releaseOrder_iff.mp ordered
  have zone : later.zone.rank ≤ 1 := by cases later.zone <;> simp [Zone.rank]
  omega

theorem releaseDeck_orderly (quiet : Quiet trace) (deck : Uuid) :
    orderly.Keeps (releaseDeck deck) trace fun _ _ => True := by
  rw [releaseDeck, keeps_bind]
  apply (lockDeck_orderly (.inl quiet)).mono
  rintro row locked ⟨still, member, own⟩
  rw [keeps_bind]
  apply (keeps_ask_still rfl).mono
  intro listed between stillListed
  have ahead : ∀ entry ∈ List.mergeSort listed releaseOrder,
      Ahead between ⟨row.owner, entry.card⟩ :=
    fun _ _ => (ahead_of_quiet quiet).still (still.trans stillListed)
  rw [keeps_bind]
  apply (creditAll_orderly (pairwise_mergeSort_releaseOrder listed) ahead).continues.mono
  rintro _ _ ⟨-, rest, rfl, -⟩
  have found : Found (between ++ rest) deck :=
    ⟨row, deckRows_subset rest (stillListed.deckRows_subset member), own⟩
  rw [keeps_bind]
  apply keeps_ask (fun _ => rfl) (permits_deck rfl rfl rfl found)
  intro cleared _ _ _
  rw [keeps_bind]
  apply keeps_ask (exchange_deleteDeck · deck) (permits_deck rfl rfl rfl (found.append _))
  intro deleted _ _ _
  rw [keeps_bind, keeps_ensure]
  exact fun _ => trivial

/-! ## Operations -/

theorem changeDeck_orderly (quiet : Quiet trace) (deck : Uuid) (patch : DeckPatch) :
    orderly.Keeps (changeDeck deck patch) trace fun _ _ => True := by
  have updated : ∀ {before : Trace}, Found before deck →
      orderly.Keeps (ask (.updateDeck deck patch)) before fun _ _ => True := by
    intro before found
    apply keeps_ask (fun _ => rfl) (permits_deck rfl rfl rfl found)
    exact fun _ _ _ _ => trivial
  rw [changeDeck, keeps_bind]
  apply (lockDeck_orderly (.inl quiet)).mono
  rintro row locked ⟨-, member, own⟩
  have found : Found locked deck := ⟨row, member, own⟩
  split
  · rw [keeps_bind]
    apply (keeps_ask_still rfl).mono
    intro current between still
    rw [keeps_bind, keeps_ofExcept]
    intro _ _
    exact updated (found.still still)
  · exact updated found

/-- Whatever is replied to an operation, it keeps to the order of locks. -/
theorem rule_orderly {operation : Operation} {defaultCapacity : Int}
    {rule : Ledger operation.Result} (checked : operation.rule defaultCapacity = .ok rule) :
    orderly.Keeps rule [] fun _ _ => True := by
  have ahead : ∀ key, Ahead [] key := fun _ => ahead_of_quiet quiet_nil
  cases operation with
  | creditBinder user card quantity =>
      cases checked
      exact (credit_orderly (ahead ⟨user, card⟩) quantity).mono fun _ _ _ => trivial
  | debitBinder user card quantity =>
      cases checked
      exact (debit_orderly (ahead ⟨user, card⟩) quantity).mono fun _ _ _ => trivial
  | binderQuantity user card =>
      cases checked
      exact (quantityOf_orderly (ahead ⟨user, card⟩)).mono fun _ _ _ => trivial
  | updateDeck id patch =>
      obtain ⟨patch', -, checked⟩ := bind_eq_ok_iff.mp checked
      cases checked
      exact changeDeck_orderly quiet_nil id patch'
  | deleteDeck id =>
      cases checked
      exact releaseDeck_orderly quiet_nil id
  | allocate deck card quantity zone =>
      cases checked
      exact allocate_orderly (.inl quiet_nil) (fun _ _ still _ _ => (ahead _).still still)
        quantity zone
  | deallocate deck card quantity zone =>
      cases checked
      exact (deallocate_orderly (.inl quiet_nil) (fun _ _ still _ _ => (ahead _).still still)
        quantity zone).mono fun _ _ _ => trivial
  | transfer source destination card quantity zone =>
      cases checked
      exact transfer_orderly quiet_nil source destination card quantity zone
  | moveZone deck card quantity source target =>
      cases checked
      exact moveZone_orderly quiet_nil deck card quantity source target
  | _ =>
      apply (quiet_rule rfl checked orderly_lenient []).mono monotone_ofRequest
      exact fun _ _ _ => trivial

end CardInventory.Database
