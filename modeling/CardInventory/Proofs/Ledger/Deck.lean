import CardInventory.Proofs.Ledger.Basic
import CardInventory.Proofs.Ledger.Refusal
import CardInventory.Proofs.Memory.Answer
import CardInventory.Proofs.Memory.Scan

/-!
# Outcomes of deck rules

Over valid tables a rule of a deck is determined by the first cause to refuse it,
and by the tables it leaves where there is none. A removal takes its copies from
the first entry of the card in the zones it looks at.
-/

namespace CardInventory

open Memory Storage

namespace Memory.Store

/-- Copies of a card are gone from a zone of a deck that has held as many. -/
structure Taken (before after : Store) (deck card : Uuid) (quantity : Int) (zone : Zone)
    (time : Instant) : Prop where
  positive : 0 < quantity
  cardExists : before.cards.contains card = true
  enough : quantity ≤ before.placed deck card zone
  placed : after = before.place deck card zone (before.placed deck card zone - quantity) time

theorem Taken.valid {before after : Store} {deck card : Uuid} {quantity : Int} {zone : Zone}
    {time : Instant} (taken : Taken before after deck card quantity zone time)
    (valid : before.Valid) (deckExists : before.decks.contains deck = true) : after.Valid := by
  have small := valid.placed_le deck card zone
  have positive := taken.positive
  have enough := taken.enough
  rw [taken.placed]
  exact valid.place deckExists taken.cardExists (by omega) (by omega) time

end Memory.Store

namespace Ledger

variable {moments : Nat → Moment} {store : Store} {drawn : Nat}

/-- Of the decks that are found, the one with an identifier that was asked for is the stored
one. -/
theorem rowOf?_filterMap (valid : store.Valid) {id : Uuid} {ids : List Uuid} (asked : id ∈ ids) :
    rowOf? Deck.id id (ids.filterMap store.decks.get?) = store.decks.get? id := by
  have keyed : store.decks.Forall fun id deck => deck.id = id :=
    valid.decks.mono fun _ _ sound => sound.keyed
  have stored : ∀ row ∈ ids.filterMap store.decks.get?, row.id = id →
      store.decks.get? id = some row := by
    intro row member sameId
    obtain ⟨other, -, found⟩ := List.mem_filterMap.mp member
    have own : other = id := (keyed found).symm.trans sameId
    exact own ▸ found
  cases outcome : rowOf? Deck.id id (ids.filterMap store.decks.get?) with
  | some row =>
      have member := List.mem_of_find?_eq_some outcome
      have sameId : row.id = id := by simpa using List.find?_some outcome
      exact (stored row (List.mem_reverse.mp member) sameId).symm
  | none =>
      cases found : store.decks.get? id with
      | none => rfl
      | some row =>
          have member : row ∈ ids.filterMap store.decks.get? :=
            List.mem_filterMap.mpr ⟨id, asked, found⟩
          have missed := List.find?_eq_none.mp outcome row (List.mem_reverse.mpr member)
          simp [keyed found] at missed

theorem ends_lockDeck (valid : store.Valid) (deck : Uuid) {good : Deck → Staged → Prop}
    {bad : Failure → Staged → Prop} :
    (lockDeck deck).Ends (answerNext moments) .storage ⟨store, drawn⟩ good bad ↔
      match store.decks.get? deck with
      | some row => good row ⟨store, drawn + 1⟩
      | none => bad (.notFound .deck deck.text) ⟨store, drawn + 1⟩ := by
  simp only [lockDeck, Procedure.ends_bind, ends_ask (.lockDecks [deck]), Store.answer, ends_found,
    rowOf?_filterMap valid (List.mem_singleton_self deck)]
  cases store.decks.get? deck <;> rfl

theorem ends_ensureCapacity (valid : store.Valid) (deck : Deck) (quantity : Int)
    {good : Unit → Staged → Prop} {bad : Failure → Staged → Prop} :
    (ensureCapacity deck quantity).Ends (answerNext moments) .storage ⟨store, drawn⟩ good bad ↔
      match checkCapacity deck.capacity (store.copiesIn deck.id) quantity with
      | .ok _ => good () ⟨store, drawn + 1⟩
      | .error failure => bad failure ⟨store, drawn + 1⟩ := by
  simp only [ensureCapacity, Procedure.ends_bind, ends_ask (.totalInDeck deck.id), Store.answer,
    Procedure.ends_ofExcept, Store.deckTotal_eq_copiesIn valid]
  rcases checkCapacity deck.capacity (store.copiesIn deck.id) quantity with _ | _ <;> rfl

theorem addToZone_ends (valid : store.Valid) (deck card : Uuid) (quantity : Int)
    (zone : Zone) :
    (addToZone deck card quantity zone).Ends (answerNext moments) .storage ⟨store, drawn⟩
      (fun entry after => store.additionRefusal deck card quantity zone = none ∧
        ∃ time,
          entry = ⟨deck, card, zone, store.placed deck card zone + quantity, time⟩ ∧
          after.store = store.place deck card zone
            (store.placed deck card zone + quantity) time)
      (fun failure after =>
        store.additionRefusal deck card quantity zone = some failure ∧
          after.store = store) := by
  have nonneg := valid.placed_nonneg deck card zone
  simp only [addToZone, Procedure.ends_bind, ends_ensurePositive, ends_ensure,
    ends_ask (.findDeck deck), ends_ask (.cardExists card),
    ends_ask (.lockDeckEntry deck card zone), ends_ask (.addToDeck deck card zone quantity),
    Store.answer, Store.elim_entry, Table.isSome_get?]
  by_cases positive : 0 < quantity
  · by_cases deckExists : store.decks.contains deck = true
    · by_cases cardExists : store.cards.contains card = true
      · have growing : 0 < store.placed deck card zone + quantity := by omega
        by_cases fits : quantityFits (store.placed deck card zone + quantity) = true
        · have small := (quantityFits_iff_le (Int.le_of_lt growing)).mp fits
          simp only [positive, deckExists, cardExists, fits, if_true,
            Store.addToDeck_eq_place deckExists cardExists growing fits, Store.settle]
          refine ⟨?_, _, rfl, rfl⟩
          simp [Store.additionRefusal, deckExists, cardExists, Int.not_le.mpr positive,
            Int.not_lt.mpr small]
        · have large := mt (quantityFits_iff_le (Int.le_of_lt growing)).mpr fits
          simp [Store.additionRefusal, positive, deckExists, cardExists, fits,
            Int.not_le.mpr positive, Int.not_le.mp large]
      · simp [Store.additionRefusal, positive, deckExists, cardExists, Int.not_le.mpr positive]
    · simp [Store.additionRefusal, positive, deckExists, Int.not_le.mpr positive]
  · simp [Store.additionRefusal, positive, Int.not_lt.mp positive]

theorem firstEntry_ends (deck card : Uuid) (zones : List Zone) :
    (firstEntry deck card zones).Ends (answerNext moments) .storage ⟨store, drawn⟩
      (fun entry after =>
        (zones.findSome? fun zone => store.entries.get? ⟨deck, card, zone⟩) = some entry ∧
          after.store = store)
      (fun failure after =>
        (zones.findSome? fun zone => store.entries.get? ⟨deck, card, zone⟩) = none ∧
          failure = .notFound .deckEntry s!"{deck}/{card}" ∧ after.store = store) := by
  induction zones generalizing drawn with
  | nil => exact (Procedure.ends_fail _).mpr ⟨rfl, rfl, rfl⟩
  | cons zone rest ih =>
      simp only [firstEntry, Procedure.ends_bind, ends_ask (.lockDeckEntry deck card zone),
        Store.answer, List.findSome?_cons]
      cases found : store.entries.get? ⟨deck, card, zone⟩ with
      | some entry => exact (Procedure.ends_pure entry).mpr ⟨rfl, rfl⟩
      | none => exact ih

theorem removeFromZone_ends (valid : store.Valid) (deck card : Uuid) (quantity : Int)
    (zone : Option Zone) :
    (removeFromZone deck card quantity zone).Ends (answerNext moments) .storage ⟨store, drawn⟩
      (fun removal after => store.removalRefusal deck card quantity zone = none ∧
        ∃ entry time, store.removalEntry? deck card zone = some entry ∧
          removal.zone = entry.zone ∧ removal.quantity = entry.quantity - quantity ∧
          after.store = store.place deck card entry.zone (entry.quantity - quantity) time)
      (fun failure after =>
        store.removalRefusal deck card quantity zone = some failure ∧
          after.store = store) := by
  simp only [removeFromZone, Procedure.ends_bind, ends_ensurePositive]
  by_cases positive : 0 < quantity
  · rw [if_pos positive]
    apply (firstEntry_ends deck card (removalZones zone)).mono
    · rintro entry ⟨_, drawn⟩ ⟨found, same⟩
      obtain rfl : store = _ := same.symm
      change store.removalEntry? deck card zone = some entry at found
      obtain ⟨-, stored⟩ := Store.removalEntry?_eq_some valid found
      have present : store.entries.contains ⟨deck, card, entry.zone⟩ = true :=
        Table.contains_of_get? stored
      simp only [ends_ensure, decide_eq_true_eq]
      by_cases enough : quantity ≤ entry.quantity
      · have accepted : store.removalRefusal deck card quantity zone = none := by
          simp [Store.removalRefusal, found, Int.not_le.mpr positive, Int.not_lt.mpr enough]
        rw [if_pos enough, accepted]
        by_cases all : quantity = entry.quantity
        · have nothing : entry.quantity - quantity = 0 := by omega
          rw [if_pos all]
          simp only [Procedure.ends_bind, ends_ask (.deleteFromDeck deck card entry.zone),
            Store.answer, Procedure.ends_pure]
          exact ⟨trivial, entry, (moments 0).time, found, rfl, nothing.symm,
            by rw [nothing, Store.place, if_pos rfl]⟩
        · have left : 0 < entry.quantity - quantity := by omega
          rw [if_neg all]
          simp only [Procedure.ends_bind,
            ends_ask (.setInDeck deck card entry.zone (entry.quantity - quantity)), Store.answer,
            Store.setInDeck_eq_place present left, Store.settle, Procedure.ends_pure]
          exact ⟨trivial, entry, _, found, rfl, rfl, rfl⟩
      · rw [if_neg enough]
        simp [Store.removalRefusal, found, Int.not_le.mpr positive, Int.not_le.mp enough]
    · rintro failure ⟨_, drawn⟩ ⟨missing, rfl, same⟩
      obtain rfl : store = _ := same.symm
      change store.removalEntry? deck card zone = none at missing
      simp [Store.removalRefusal, missing, Int.not_le.mpr positive]
  · simp [Store.removalRefusal, positive, Int.not_lt.mp positive]

/-- A removal takes its copies from one of the zones it looks at. -/
theorem removeFromZone_taken (valid : store.Valid) (deck card : Uuid) (quantity : Int)
    (zone : Option Zone) :
    (removeFromZone deck card quantity zone).Ends (answerNext moments) .storage ⟨store, drawn⟩
      (fun _ after => store.removalRefusal deck card quantity zone = none ∧
        ∃ entry time, store.removalEntry? deck card zone = some entry ∧
          entry.zone ∈ removalZones zone ∧
          Store.Taken store after.store deck card quantity entry.zone time)
      (fun failure after =>
        store.removalRefusal deck card quantity zone = some failure ∧ after.store = store) := by
  refine (removeFromZone_ends valid deck card quantity zone).mono ?_ fun _ _ refused => refused
  rintro removal after ⟨accepted, entry, time, found, -, -, same⟩
  obtain ⟨entry', found', positive, cardExists, member, placing, enough⟩ :=
    Store.removalRefusal_eq_none valid accepted
  obtain rfl := Option.some.inj (found.symm.trans found')
  rw [← placing] at same enough
  exact ⟨accepted, entry, time, found, member, positive, cardExists, enough, same⟩

end Ledger

end CardInventory
