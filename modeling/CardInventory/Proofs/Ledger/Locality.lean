import CardInventory.Inventory.Rules
import CardInventory.Proofs.Memory.Locality

/-!
# Rules within resources

A rule is confined to a scope if it asks only what the scope allows and treats replies
that differ in times alike, so that its own values differ in times at most. The steps
rules are made of are confined, sequences of confined rules are, and so every rule that
moves copies is confined to the binder rows and the decks it works on.
-/

namespace CardInventory.Ledger

open Memory Storage

/-- Two rules ask the same requests within a scope, and come to the same failure or to values
that are alike whenever the replies differ in times only. -/
abbrev Confined {α : Type} (scope : Scope) (alike : α → α → Prop) (rule rule' : Ledger α) : Prop :=
  Procedure.Twins scope.Allows scope.Replies alike rule rule'

/-- What a removal has left of an entry, without the time of the last change. -/
def Removal.untimed : Removal → Removal
  | remaining entry => remaining entry.untimed
  | emptied zone => emptied zone

/-- What a transfer has left and made, without the times of the last changes. -/
def TransferOutcome.untimed (outcome : TransferOutcome) : TransferOutcome :=
  ⟨outcome.source.untimed, outcome.destination.untimed⟩

/-- What a move between zones has left and made, without the times of the last changes. -/
def ZoneMove.untimed (moved : ZoneMove) : ZoneMove :=
  ⟨moved.source.untimed, moved.target.untimed⟩

/-- A deleted deck and what was returned, without the time of the last change. -/
def ReleasedDeck.untimed (released : ReleasedDeck) : ReleasedDeck :=
  { released with deck := released.deck.untimed }

variable {scope : Scope} {user deck card : Uuid} {quantity : Int}

/-! ## Steps -/

theorem confined_ask (request : Request) (allowed : scope.Allows request) :
    Confined scope (scope.Replies request) (ask request) (ask request) :=
  .request allowed

theorem confined_ensure {condition condition' : Bool} (same : condition = condition')
    (failure : Failure) :
    Confined scope (fun _ _ => condition = true) (ensure condition failure)
      (ensure condition' failure) := by
  subst same
  cases condition with
  | true => exact .done rfl
  | false => exact .fail failure

theorem confined_found {α β : Type} {part : α → β} {value value' : Option α}
    (same : value.map part = value'.map part) (failure : Failure) :
    Confined scope (fun row row' => value = some row ∧ part row = part row') (found value failure)
      (found value' failure) := by
  cases value <;> cases value' <;> simp only [Option.map, reduceCtorEq, Option.some.injEq] at same
  · exact .fail failure
  · exact .done ⟨rfl, same⟩

theorem confined_ensurePositive (quantity : Int) :
    Confined scope (fun _ _ => decide (0 < quantity) = true) (ensurePositive quantity)
      (ensurePositive quantity) :=
  confined_ensure rfl _

/-- A deck with the identifier asked for, and with the owner the scope tells. -/
def Owned (scope : Scope) (deck : Uuid) (row row' : Deck) : Prop :=
  row.untimed = row'.untimed ∧ row.id = deck ∧ scope.ownerOf deck = some row.owner

/-- Among rows that differ in times only the same are looked for by their identifiers. -/
theorem rowOf?_untimed (id : Uuid) (rows : List Deck) :
    (rowOf? Deck.id id rows).map Deck.untimed = rowOf? Deck.id id (rows.map Deck.untimed) := by
  rw [rowOf?, rowOf?, ← List.map_reverse, List.find?_map]
  rfl

/-- A deck that is found among those that were locked is one the scope tells of. -/
theorem confined_locked {decks : List Uuid} {rows rows' : List Deck}
    (replies : scope.Replies (.lockDecks decks) rows rows') (deck : Uuid) (failure : Failure) :
    Confined scope (Owned scope deck) (found (rowOf? Deck.id deck rows) failure)
      (found (rowOf? Deck.id deck rows') failure) := by
  obtain ⟨same, told⟩ := replies
  have rows : (rowOf? Deck.id deck rows).map Deck.untimed =
      (rowOf? Deck.id deck rows').map Deck.untimed := by
    rw [rowOf?_untimed, rowOf?_untimed]
    exact congrArg (rowOf? Deck.id deck) same
  refine (confined_found rows failure).mono fun row row' => ?_
  rintro ⟨found, same⟩
  have member := List.mem_reverse.mp (List.mem_of_find?_eq_some found)
  have id : row.id = deck := by simpa using List.find?_some found
  exact ⟨same, id, id ▸ told row member⟩

theorem lockDeck_confined (within : scope.within (.deck deck)) :
    Confined scope (Owned scope deck) (lockDeck deck) (lockDeck deck) := by
  have allowed : scope.Allows (.lockDecks [deck]) := by simpa [Scope.Allows] using within
  exact (confined_ask _ allowed).bind fun _ _ replies => confined_locked replies deck _

theorem ensureCapacity_confined {row row' : Deck} (within : scope.within (.deck deck))
    (owned : Owned scope deck row row') (quantity : Int) :
    Confined scope (fun _ _ => True) (ensureCapacity row quantity)
      (ensureCapacity row' quantity) := by
  obtain ⟨same, rfl, -⟩ := owned
  obtain ⟨time, rfl⟩ := Deck.untimed_eq_iff.mp same
  refine (confined_ask (.totalInDeck row.id) within).bind fun current current' replies => ?_
  obtain rfl : current = current' := replies.1
  exact (Procedure.Twins.ofExcept Paired.refl).mono fun _ _ _ => trivial

/-! ## Binders -/

theorem holding_eq {entry entry' : Option BinderEntry}
    (replies : scope.Replies (.lockBinderEntry user card) entry entry') :
    entry.elim 0 BinderEntry.quantity = entry'.elim 0 BinderEntry.quantity := by
  have same := congrArg (Option.elim · 0 BinderEntry.quantity) replies.1
  rwa [Request.untimed, Request.untimed, Option.elim_map, Option.elim_map] at same

theorem quantityOf_confined (within : scope.within (.holding ⟨user, card⟩)) :
    Confined scope (fun held held' => held = held') (quantityOf user card)
      (quantityOf user card) :=
  (confined_ask (.lockBinderEntry user card) within).bind fun _ _ replies =>
    .done (holding_eq replies)

theorem credit_confined (within : scope.within (.holding ⟨user, card⟩)) (quantity : Int) :
    Confined scope (fun entry entry' => entry.untimed = entry'.untimed)
      (credit user card quantity) (credit user card quantity) := by
  refine (confined_ensurePositive quantity).bind fun _ _ _ => ?_
  refine (confined_ask (.userExists user) trivial).bind fun _ _ userExists => ?_
  refine (confined_ensure userExists.1 _).bind fun _ _ _ => ?_
  refine (confined_ask (.cardExists card) trivial).bind fun _ _ cardExists => ?_
  refine (confined_ensure cardExists.1 _).bind fun _ _ _ => ?_
  refine (confined_ask (.lockBinderEntry user card) within).bind fun entry entry' replies => ?_
  simp only [holding_eq replies]
  refine (confined_ensure rfl _).bind fun _ _ _ => ?_
  exact (confined_ask (.addToBinder user card quantity) within).mono fun _ _ added => added.1

theorem debit_confined (within : scope.within (.holding ⟨user, card⟩)) (quantity : Int) :
    Confined scope
      (fun left left' => left.map BinderEntry.untimed = left'.map BinderEntry.untimed)
      (debit user card quantity) (debit user card quantity) := by
  refine (confined_ensurePositive quantity).bind fun _ _ _ => ?_
  refine (confined_ask (.lockBinderEntry user card) within).bind fun _ _ replies => ?_
  refine (confined_found replies.1 _).bind fun entry entry' ⟨_, same⟩ => ?_
  obtain ⟨time, rfl⟩ := BinderEntry.untimed_eq_iff.mp same
  refine (confined_ensure rfl _).bind fun _ _ _ => ?_
  by_cases all : quantity = entry.quantity
  · rw [if_pos all]
    exact (confined_ask (.deleteFromBinder user card) within).bind fun _ _ _ => .done rfl
  · rw [if_neg all]
    exact (confined_ask (.setInBinder user card (entry.quantity - quantity)) within).bind
      fun _ _ set => .done (congrArg some set.1)

/-! ## Decks -/

theorem addToZone_confined (within : scope.within (.deck deck)) (unlisted : ¬scope.listed deck)
    (card : Uuid) (quantity : Int) (zone : Zone) :
    Confined scope (fun entry entry' => entry.untimed = entry'.untimed)
      (addToZone deck card quantity zone) (addToZone deck card quantity zone) := by
  refine (confined_ensurePositive quantity).bind fun _ _ _ => ?_
  refine (confined_ask (.findDeck deck) within).bind fun row row' found => ?_
  have isSome : row.isSome = row'.isSome := by
    simpa only [Request.untimed, Option.isSome_map] using congrArg Option.isSome found.1
  refine (confined_ensure isSome _).bind fun _ _ _ => ?_
  refine (confined_ask (.cardExists card) trivial).bind fun _ _ cardExists => ?_
  refine (confined_ensure cardExists.1 _).bind fun _ _ _ => ?_
  refine (confined_ask (.lockDeckEntry deck card zone) within).bind fun entry entry' replies => ?_
  have current : entry.elim 0 DeckEntry.quantity = entry'.elim 0 DeckEntry.quantity := by
    have same := congrArg (Option.elim · 0 DeckEntry.quantity) replies.1
    rwa [Request.untimed, Request.untimed, Option.elim_map, Option.elim_map] at same
  simp only [current]
  refine (confined_ensure rfl _).bind fun _ _ _ => ?_
  exact (confined_ask (.addToDeck deck card zone quantity) ⟨within, unlisted⟩).mono
    fun _ _ added => added.1

theorem firstEntry_confined (within : scope.within (.deck deck)) (card : Uuid)
    (zones : List Zone) :
    Confined scope (fun entry entry' => entry.untimed = entry'.untimed)
      (firstEntry deck card zones) (firstEntry deck card zones) := by
  induction zones with
  | nil => exact .fail _
  | cons zone rest ih =>
      refine (confined_ask (.lockDeckEntry deck card zone) within).bind
        fun entry entry' replies => ?_
      have same : entry.map DeckEntry.untimed = entry'.map DeckEntry.untimed := replies.1
      cases entry <;> cases entry' <;>
        simp only [Option.map, reduceCtorEq, Option.some.injEq] at same
      · exact ih
      · exact .done same

theorem removeFromZone_confined (within : scope.within (.deck deck)) (card : Uuid)
    (quantity : Int) (zone : Option Zone) :
    Confined scope (fun removal removal' => removal.untimed = removal'.untimed)
      (removeFromZone deck card quantity zone) (removeFromZone deck card quantity zone) := by
  refine (confined_ensurePositive quantity).bind fun _ _ _ => ?_
  refine (firstEntry_confined within card _).bind fun entry entry' same => ?_
  obtain ⟨time, rfl⟩ := DeckEntry.untimed_eq_iff.mp same
  refine (confined_ensure rfl _).bind fun _ _ _ => ?_
  by_cases all : quantity = entry.quantity
  · rw [if_pos all]
    exact (confined_ask (.deleteFromDeck deck card entry.zone) within).bind
      fun _ _ _ => .done rfl
  · rw [if_neg all]
    exact (confined_ask (.setInDeck deck card entry.zone (entry.quantity - quantity)) within).bind
      fun _ _ set => .done (congrArg Removal.remaining set.1)

/-- A change of a deck is made within the deck. -/
theorem changeDeck_confined (within : scope.within (.deck deck)) (patch : DeckPatch) :
    Confined scope (fun row row' => row.untimed = row'.untimed)
      (Inventory.changeDeck deck patch) (Inventory.changeDeck deck patch) := by
  have update := (confined_ask (.updateDeck deck patch) within).mono
    fun _ _ (updated : scope.Replies (.updateDeck deck patch) _ _) => updated.1
  refine (lockDeck_confined within).bind fun _ _ _ => ?_
  split
  · rename_i limit _
    refine (confined_ask (.totalInDeck deck) within).bind fun current current' replies => ?_
    obtain rfl : current = current' := replies.1
    exact (Procedure.Twins.ofExcept Paired.refl).bind fun _ _ _ => update
  · exact update

/-! ## Movements -/

/-- The resources of a movement between a deck and the binder of its owner. -/
structure Moves (scope : Scope) (deck card : Uuid) : Prop where
  within : scope.within (.deck deck)
  unlisted : ¬scope.listed deck
  returns : ∀ owner, scope.ownerOf deck = some owner → scope.within (.holding ⟨owner, card⟩)

theorem allocate_confined (moves : Moves scope deck card) (quantity : Int) (zone : Zone) :
    Confined scope (fun entry entry' => entry.untimed = entry'.untimed)
      (allocate deck card quantity zone) (allocate deck card quantity zone) := by
  refine (confined_ensurePositive quantity).bind fun _ _ _ => ?_
  refine (lockDeck_confined moves.within).bind fun row row' owned => ?_
  have returns := moves.returns row.owner owned.2.2
  refine (confined_ask (.cardExists card) trivial).bind fun _ _ cardExists => ?_
  refine (confined_ensure cardExists.1 _).bind fun _ _ _ => ?_
  refine (ensureCapacity_confined moves.within owned quantity).bind fun _ _ _ => ?_
  obtain ⟨time, rfl⟩ := Deck.untimed_eq_iff.mp owned.1
  refine (quantityOf_confined returns).bind fun held held' same => ?_
  obtain rfl : held = held' := same
  refine (confined_ensure rfl _).bind fun _ _ _ => ?_
  refine (debit_confined returns quantity).bind fun _ _ _ => ?_
  exact addToZone_confined moves.within moves.unlisted card quantity zone

theorem deallocate_confined (moves : Moves scope deck card) (quantity : Int)
    (zone : Option Zone) :
    Confined scope (fun removal removal' => removal.untimed = removal'.untimed)
      (deallocate deck card quantity zone) (deallocate deck card quantity zone) := by
  refine (confined_ensurePositive quantity).bind fun _ _ _ => ?_
  refine (lockDeck_confined moves.within).bind fun row row' owned => ?_
  have returns := moves.returns row.owner owned.2.2
  obtain ⟨time, rfl⟩ := Deck.untimed_eq_iff.mp owned.1
  refine (removeFromZone_confined moves.within card quantity zone).bind
    fun removal removal' same => ?_
  exact (credit_confined returns quantity).bind fun _ _ _ => .done same

/-- A transfer works on two decks, and on the holding of the owner of the first: when it comes to
the second, that has been found to have the same owner. -/
theorem transfer_confined {source destination : Uuid} (moves : Moves scope source card)
    (within : scope.within (.deck destination)) (unlisted : ¬scope.listed destination)
    (quantity : Int) (zone : Option Zone) :
    Confined scope (fun outcome outcome' => outcome.untimed = outcome'.untimed)
      (transfer source destination card quantity zone)
      (transfer source destination card quantity zone) := by
  have allowed : scope.Allows (.lockDecks [source, destination]) := by
    simpa [Scope.Allows] using ⟨moves.within, within⟩
  refine (confined_ensurePositive quantity).bind fun _ _ _ => ?_
  refine (confined_ensure rfl _).bind fun _ _ _ => ?_
  refine (confined_ask _ allowed).bind fun rows rows' replies => ?_
  refine (confined_locked replies source _).bind fun sourceRow sourceRow' sourceOwned => ?_
  refine (confined_locked replies destination _).bind fun row row' owned => ?_
  obtain ⟨sameSource, -, sourceOwner⟩ := sourceOwned
  obtain ⟨time, rfl⟩ := Deck.untimed_eq_iff.mp sameSource
  refine (confined_ensure ?_ _).bind fun _ _ owners => ?_
  · obtain ⟨time, rfl⟩ := Deck.untimed_eq_iff.mp owned.1
    rfl
  have onward : Moves scope destination card := by
    refine ⟨within, unlisted, fun owner own => moves.returns owner ?_⟩
    rw [sourceOwner, of_decide_eq_true owners, ← owned.2.2, own]
  refine (ensureCapacity_confined within owned quantity).bind fun _ _ _ => ?_
  refine (deallocate_confined moves quantity zone).bind fun removal removal' removed => ?_
  refine (allocate_confined onward quantity .main).bind fun entry entry' added => .done ?_
  exact congrArg₂ TransferOutcome.mk removed added

theorem moveZone_confined (within : scope.within (.deck deck)) (unlisted : ¬scope.listed deck)
    (card : Uuid) (quantity : Int) (source target : Zone) :
    Confined scope (fun moved moved' => moved.untimed = moved'.untimed)
      (moveZone deck card quantity source target) (moveZone deck card quantity source target) := by
  refine (confined_ensurePositive quantity).bind fun _ _ _ => ?_
  refine (confined_ensure rfl _).bind fun _ _ _ => ?_
  refine (lockDeck_confined within).bind fun _ _ _ => ?_
  refine (removeFromZone_confined within card quantity _).bind fun removal removal' removed => ?_
  refine (addToZone_confined within unlisted card quantity target).bind
    fun entry entry' added => .done ?_
  exact congrArg₂ ZoneMove.mk removed added

theorem creditAll_confined {owner : Uuid} {entries entries' : List DeckEntry}
    (same : entries.map DeckEntry.untimed = entries'.map DeckEntry.untimed)
    (within : ∀ entry ∈ entries, scope.within (.holding ⟨owner, entry.card⟩)) :
    Confined scope (fun _ _ => True) (creditAll owner entries) (creditAll owner entries') := by
  induction entries generalizing entries' with
  | nil =>
      obtain rfl := List.map_eq_nil_iff.mp same.symm
      exact .done trivial
  | cons entry rest ih =>
      obtain ⟨entry', rest', rfl, sameEntry, sameRest⟩ := List.map_eq_cons_iff.mp same.symm
      obtain ⟨time, rfl⟩ := DeckEntry.untimed_eq_iff.mp sameEntry.symm
      refine (credit_confined (within entry List.mem_cons_self) entry.quantity).bind
        fun _ _ _ => ?_
      exact ih sameRest.symm fun other member => within other (List.mem_cons_of_mem _ member)

/-- Times do not matter for the copies that are returned. -/
theorem totalsByCard_untimed (entries : List DeckEntry) :
    totalsByCard (entries.map DeckEntry.untimed) = totalsByCard entries := by
  rw [totalsByCard, totalsByCard, List.foldl_map]
  rfl

/-- A release works on the deck and on the holdings its copies go back to. -/
theorem releaseDeck_confined (within : scope.within (.deck deck)) (listed : scope.listed deck) :
    Confined scope (fun released released' => released.untimed = released'.untimed)
      (releaseDeck deck) (releaseDeck deck) := by
  refine (lockDeck_confined within).bind fun row row' ⟨sameRow, _, owner⟩ => ?_
  obtain ⟨time, rfl⟩ := Deck.untimed_eq_iff.mp sameRow
  refine (confined_ask (.entriesOfDeck deck) ⟨within, listed⟩).bind
    fun entries entries' ⟨same, returns⟩ => ?_
  have ordered : (entries.mergeSort releaseOrder).map DeckEntry.untimed =
      (entries'.mergeSort releaseOrder).map DeckEntry.untimed := by
    have sorted (entries : List DeckEntry) :
        (entries.mergeSort releaseOrder).map DeckEntry.untimed =
          (entries.map DeckEntry.untimed).mergeSort releaseOrder :=
      List.map_mergeSort fun _ _ _ _ => rfl
    rw [sorted, sorted]
    exact congrArg (List.mergeSort · releaseOrder) same
  refine (creditAll_confined ordered fun entry member => ?_).bind fun _ _ _ => ?_
  · obtain ⟨own, told, within⟩ := returns entry (List.mem_mergeSort.mp member)
    obtain rfl := Option.some.inj (told.symm.trans owner)
    exact within
  refine (confined_ask (.clearDeck deck) within).bind fun _ _ _ => ?_
  refine (confined_ask (.deleteDeck deck) within).bind fun _ _ deleted => ?_
  refine (confined_ensure deleted.1 _).bind fun _ _ _ => .done ?_
  have totals := congrArg totalsByCard ordered
  rw [totalsByCard_untimed, totalsByCard_untimed] at totals
  exact congrArg (ReleasedDeck.mk row.untimed) totals

end CardInventory.Ledger
