import CardInventory.Proofs.Inventory.Answers
import CardInventory.Proofs.Memory.Arithmetic
import CardInventory.Proofs.Memory.Order

/-!
# The copies in a deck, counted

Four readings count the copies in a deck: a scan of the keys, the totals of its zones, the
list of the decks of its owner, and the deck itself with its entries. They all come to one
number. The entries and the decks are each shown once and in order, whatever order the
tables have them in.
-/

namespace CardInventory.Inventory

open Memory Storage Ledger

variable {moments : Nat → Moment} {defaultCapacity : Int} {depot : Depot}

/-- A list of the decks of a user shows a deck of the user once. -/
theorem filter_summaries {store : Store} (valid : store.Valid) {deck : Uuid} {row : Deck}
    (found : store.decks.get? deck = some row) :
    ((store.summaries row.owner).filter fun summary => summary.deck.id = deck) =
      [⟨row, store.copiesIn deck⟩] := by
  obtain rfl := (valid.decks found).keyed
  have listing := Store.enumerates_summaries valid row.owner
  have member : ⟨row, store.copiesIn row.id⟩ ∈ store.summaries row.owner :=
    (listing.complete _).mpr ⟨found, rfl, rfl⟩
  exact Store.filter_eq_singleton (Store.nodup_summary_ids valid row.owner) member

/-- What is read of a stored deck: one number of copies by four ways, and its entries. -/
structure ReadDeck (moments : Nat → Moment) (defaultCapacity : Int) (depot : Depot) (row : Deck)
    (count : Int) (entries : List DeckEntry) (summaries : List DeckSummary) : Prop where
  scanned : (depot.runUnit moments false (ask (.totalInDeck row.id))).1 = .ok count
  totals : (depot.perform moments defaultCapacity (.deckTotals row.id)).1 =
    .ok ⟨row.id, zoneTotal .main entries, zoneTotal .sideboard entries, count, row.capacity⟩
  zones : zoneTotal .main entries + zoneTotal .sideboard entries = count
  summarized : (depot.perform moments defaultCapacity (.listUserDecks row.owner)).1 =
    .ok summaries
  summary : (summaries.filter fun summary => summary.deck.id = row.id) = [⟨row, count⟩]
  detail : (depot.perform moments defaultCapacity (.getDeck row.id)).1 = .ok ⟨row, entries⟩
  counted : totalOf (entries.map DeckEntry.quantity) = count

/-- Each reading of a deck counts the copies of all its rows. -/
theorem readDeck (attainable : Attainable moments defaultCapacity depot) {deck : Uuid}
    {row : Deck} (found : depot.store.decks.get? deck = some row) :
    ReadDeck moments defaultCapacity depot row (depot.store.copiesIn deck)
      (depot.store.entriesOf deck) (depot.store.summaries row.owner) := by
  have valid := attainable.valid
  have free := attainable.refusal
  obtain rfl := (valid.decks found).keyed
  have counted := (Store.totalOf_entriesOf valid row.id).trans
    (Store.deckTotal_eq_copiesIn valid row.id)
  have zones := (zoneTotal_add (depot.store.entriesOf row.id)).trans counted
  constructor
  · rw [Depot.runUnit_totalInDeck free, Store.deckTotal_eq_copiesIn valid]
  · rw [Depot.perform_deckTotals free found, zones]
  · exact zones
  · exact Depot.perform_listUserDecks free (valid.decks found).owner
  · exact filter_summaries valid found
  · exact Depot.perform_getDeck free found
  · exact counted

/-- All readings of a deck agree on the number of copies in it: that of all rows stored for it.
Its entries are these rows, each once, by zone and then by card. The decks of a user are listed
each once, from the newest to the oldest and then by identifier, the same in whatever order the
decks are stored. -/
theorem deck_readings_agree (attainable : Attainable moments defaultCapacity depot) :
    (∀ deck row, depot.store.decks.get? deck = some row →
      ∃ entries summaries,
        ReadDeck moments defaultCapacity depot row (depot.store.copiesIn deck) entries summaries ∧
        Enumerates
          (fun entry => ∃ key, key.deck = deck ∧ depot.store.entries.get? key = some entry)
          Store.zoneBefore entries) ∧
      ∀ user, depot.store.users.contains user = true →
        ∃ summaries,
          (depot.perform moments defaultCapacity (.listUserDecks user)).1 = .ok summaries ∧
          Enumerates
            (fun summary => depot.store.decks.get? summary.deck.id = some summary.deck ∧
              summary.deck.owner = user ∧
              summary.cardCount = depot.store.copiesIn summary.deck.id)
            Store.newer summaries ∧
          ∀ decks : List Deck, decks.Perm depot.store.decks.values →
            ((decks.filter fun deck => deck.owner = user).map fun deck =>
              DeckSummary.mk deck (depot.store.deckTotal deck.id)).mergeSort Store.newestFirst =
                summaries := by
  have valid := attainable.valid
  constructor
  · intro deck row found
    exact ⟨_, _, readDeck attainable found, Store.enumerates_entriesOf valid deck⟩
  · intro user known
    exact ⟨_, Depot.perform_listUserDecks attainable.refusal known,
      Store.enumerates_summaries valid user, fun _ perm => Store.summaries_of_perm valid user perm⟩

/-- Between an empty deck and another one, a deck of three copies in two zones is listed with
them. -/
theorem readings_of_three_decks :
    let moments : Nat → Moment := fun n => ⟨⟨n, 0⟩, .ofNat n⟩
    let forest : CardDraft := ⟨.ofNat 7, "Forest", none, none, none, none, [default]⟩
    let made := fun (operation : Operation) (depot : Depot) =>
      (depot.perform moments 60 operation).2
    let proposed : Operation := .createDeck ⟨.ofNat 0, "Elves", "modern", none, false, none⟩
    let depot := made (.allocate (.ofNat 7) forest.id 1 .main) <|
      made (.allocate (.ofNat 5) forest.id 2 .sideboard) <|
      made (.allocate (.ofNat 5) forest.id 1 .main) <|
      made (.creditBinder (.ofNat 0) forest.id 9) <|
      made proposed <| made proposed <| made proposed <|
      made (.registerCard forest) <| made (.createUser ⟨"ada", none⟩) .empty
    Attainable moments 60 depot ∧ depot.store.copiesIn (.ofNat 5) = 3 ∧
      ∃ row totals summaries detail,
        (depot.perform moments 60 (.deckTotals (.ofNat 5))).1 = .ok totals ∧ totals.total = 3 ∧
        (depot.perform moments 60 (.listUserDecks (.ofNat 0))).1 = .ok summaries ∧
        ⟨row, 3⟩ ∈ summaries ∧
        (depot.perform moments 60 (.getDeck (.ofNat 5))).1 = .ok detail ∧
        totalOf (detail.entries.map DeckEntry.quantity) = 3 := by
  intro moments forest made proposed depot
  have attainable : Attainable moments 60 depot :=
    .perform (.perform (.perform (.perform (.perform (.perform (.perform (.perform
      (.perform .empty _) _) _) _) _) _) _) _) _
  have stored : (depot.store.decks.get? (.ofNat 5)).map (fun row => row.owner) =
      some (.ofNat 0) := by decide +kernel
  have count : depot.store.copiesIn (.ofNat 5) = 3 := by decide +kernel
  clear_value depot
  obtain ⟨row, found, owner⟩ := Option.map_eq_some_iff.mp stored
  have keyed : row.id = .ofNat 5 := (attainable.valid.decks found).keyed
  obtain ⟨entries, summaries, read, -⟩ :=
    (deck_readings_agree attainable).1 (.ofNat 5) row found
  have summary : ⟨row, 3⟩ ∈ summaries := by
    have member := List.mem_singleton_self (DeckSummary.mk row (depot.store.copiesIn (.ofNat 5)))
    rw [← read.summary] at member
    exact count ▸ (List.mem_filter.mp member).1
  exact ⟨attainable, count, row, _, summaries, _, keyed ▸ read.totals, count,
    owner ▸ read.summarized, summary, keyed ▸ read.detail, count ▸ read.counted⟩

end CardInventory.Inventory
