import CardInventory.Proofs.Memory.Totals

/-!
# Movements of copies

A movement changes numbers of copies and nothing else: users, cards and decks
stay, and the tables stay valid. What it means for an inventory is told by two
numbers, the copies each user gains of each card and the copies each deck grows
by, and both add up over movements that follow each other. A movement between a
binder and a deck of its owner, or between the zones of a deck, gains nothing.
-/

namespace CardInventory.Memory.Store

/-- The tables differ in numbers of copies only, by what users gain and decks grow. -/
structure Moved (before after : Store) (gained : Uuid → Uuid → Int) (grown : Uuid → Int) :
    Prop where
  valid : after.Valid
  users : after.users = before.users
  cards : after.cards = before.cards
  decks : after.decks = before.decks
  owned : ∀ user card, after.owned user card = before.owned user card + gained user card
  copies : ∀ deck, after.copiesIn deck = before.copiesIn deck + grown deck

/-- The tables after copies have moved from a binder into a deck. -/
def allocated (store : Store) (owner deck card : Uuid) (quantity : Int) (zone : Zone)
    (debited added : Instant) : Store :=
  (store.hold owner card (store.held owner card - quantity) debited).place deck card zone
    (store.placed deck card zone + quantity) added

/-- The tables after copies have moved from a deck back into a binder. -/
def deallocated (store : Store) (owner deck card : Uuid) (quantity : Int) (zone : Zone)
    (removed credited : Instant) : Store :=
  (store.place deck card zone (store.placed deck card zone - quantity) removed).hold owner card
    (store.held owner card + quantity) credited

/-- The tables after copies have moved from one zone of a deck into another. -/
def rezoned (store : Store) (deck card : Uuid) (quantity : Int) (source target : Zone)
    (removed added : Instant) : Store :=
  (store.place deck card source (store.placed deck card source - quantity) removed).place deck card
    target (store.placed deck card target + quantity) added

theorem held_deallocated (store : Store) (owner deck card : Uuid) (quantity : Int) (zone : Zone)
    (removed credited : Instant) :
    (store.deallocated owner deck card quantity zone removed credited).held owner card =
      store.held owner card + quantity := by
  simp [deallocated, held_hold]

theorem placed_deallocated_of_ne (store : Store) (owner card : Uuid) (quantity : Int)
    (zone : Zone) (removed credited : Instant) {deck deck' : Uuid} (different : deck' ≠ deck)
    (card' : Uuid) (zone' : Zone) :
    (store.deallocated owner deck card quantity zone removed credited).placed deck' card' zone' =
      store.placed deck' card' zone' :=
  placed_place_of_ne _ _ _ _ _ _ fun ⟨decks, _, _⟩ => different decks

namespace Moved

variable {before between after : Store} {gained gained' : Uuid → Uuid → Int}
  {grown grown' : Uuid → Int}

protected theorem refl (valid : before.Valid) : Moved before before (fun _ _ => 0) fun _ => 0 where
  valid := valid
  users := rfl
  cards := rfl
  decks := rfl
  owned _ _ := (Int.add_zero _).symm
  copies _ := (Int.add_zero _).symm

protected theorem trans (first : Moved before between gained grown)
    (second : Moved between after gained' grown') :
    Moved before after (fun user card => gained user card + gained' user card)
      fun deck => grown deck + grown' deck where
  valid := second.valid
  users := second.users.trans first.users
  cards := second.cards.trans first.cards
  decks := second.decks.trans first.decks
  owned user card := by rw [second.owned, first.owned, Int.add_assoc]
  copies deck := by rw [second.copies, first.copies, Int.add_assoc]

protected theorem congr (moved : Moved before after gained grown)
    (sameGain : ∀ user card, gained user card = gained' user card)
    (sameGrowth : ∀ deck, grown deck = grown' deck) : Moved before after gained' grown' :=
  { moved with
    owned := fun user card => sameGain user card ▸ moved.owned user card
    copies := fun deck => sameGrowth deck ▸ moved.copies deck }

end Moved

namespace Valid

variable {store : Store}

theorem moved_hold (valid : store.Valid) {user card : Uuid} (quantity : Int)
    (userExists : store.users.contains user = true)
    (cardExists : store.cards.contains card = true) (nonneg : 0 ≤ quantity)
    (small : quantity ≤ Width.greatest 32) (time : Instant) :
    Moved store (store.hold user card quantity time)
      (fun user' card' =>
        if user' = user ∧ card' = card then quantity - store.held user card else 0)
      fun _ => 0 where
  valid := valid.hold userExists cardExists nonneg small time
  users := rfl
  cards := rfl
  decks := rfl
  owned user' card' := owned_hold user card quantity time user' card'
  copies _ := (Int.add_zero _).symm

theorem moved_place (valid : store.Valid) {deck card : Uuid} (zone : Zone) (quantity : Int)
    {row : Deck} (found : store.decks.get? deck = some row)
    (cardExists : store.cards.contains card = true) (nonneg : 0 ≤ quantity)
    (small : quantity ≤ Width.greatest 32) (time : Instant) :
    Moved store (store.place deck card zone quantity time)
      (fun user card' =>
        if user = row.owner ∧ card' = card then quantity - store.placed deck card zone else 0)
      (fun deck' => if deck' = deck then quantity - store.placed deck card zone else 0) where
  valid := valid.place (Table.contains_of_get? found) cardExists nonneg small time
  users := rfl
  cards := rfl
  decks := rfl
  owned user card' := owned_place valid found card zone quantity time user card'
  copies deck' := copiesIn_place valid deck card zone quantity time deck'

theorem moved_allocated (valid : store.Valid) {deck card : Uuid} {quantity : Int} {zone : Zone}
    {row : Deck} (found : store.decks.get? deck = some row)
    (cardExists : store.cards.contains card = true) (positive : 0 < quantity)
    (enough : quantity ≤ store.held row.owner card)
    (small : store.placed deck card zone + quantity ≤ Width.greatest 32)
    (debited added : Instant) :
    Moved store (store.allocated row.owner deck card quantity zone debited added) (fun _ _ => 0)
      fun deck' => if deck' = deck then quantity else 0 := by
  have holding := valid.held_le row.owner card
  have placing := valid.placed_nonneg deck card zone
  have taken := valid.moved_hold (store.held row.owner card - quantity)
    (valid.decks found).owner cardExists (by omega) (by omega) debited
  have given := taken.valid.moved_place zone (store.placed deck card zone + quantity) found
    cardExists (by omega) small added
  refine (taken.trans given).congr (fun user card' => ?_) fun deck' => ?_
  · simp only [placed_hold]
    split <;> omega
  · simp only [placed_hold]
    split <;> omega

theorem moved_deallocated (valid : store.Valid) {deck card : Uuid} {quantity : Int} {zone : Zone}
    {row : Deck} (found : store.decks.get? deck = some row)
    (cardExists : store.cards.contains card = true) (positive : 0 < quantity)
    (enough : quantity ≤ store.placed deck card zone)
    (small : store.held row.owner card + quantity ≤ Width.greatest 32)
    (removed credited : Instant) :
    Moved store (store.deallocated row.owner deck card quantity zone removed credited)
      (fun _ _ => 0) fun deck' => if deck' = deck then -quantity else 0 := by
  have placing := valid.placed_le deck card zone
  have holding := valid.held_nonneg row.owner card
  have taken := valid.moved_place zone (store.placed deck card zone - quantity) found cardExists
    (by omega) (by omega) removed
  have given := taken.valid.moved_hold (store.held row.owner card + quantity)
    (valid.decks found).owner cardExists (by omega) small credited
  refine (taken.trans given).congr (fun user card' => ?_) fun deck' => ?_
  · simp only [held_place]
    split <;> omega
  · split <;> omega

theorem moved_rezoned (valid : store.Valid) {deck card : Uuid} {quantity : Int}
    {source target : Zone} (different : source ≠ target) {row : Deck}
    (found : store.decks.get? deck = some row)
    (cardExists : store.cards.contains card = true) (positive : 0 < quantity)
    (enough : quantity ≤ store.placed deck card source)
    (small : store.placed deck card target + quantity ≤ Width.greatest 32)
    (removed added : Instant) :
    Moved store (store.rezoned deck card quantity source target removed added) (fun _ _ => 0)
      fun _ => 0 := by
  have sourcePlacing := valid.placed_le deck card source
  have targetPlacing := valid.placed_nonneg deck card target
  have taken := valid.moved_place source (store.placed deck card source - quantity) found
    cardExists (by omega) (by omega) removed
  have given := taken.valid.moved_place target (store.placed deck card target + quantity) found
    cardExists (by omega) small added
  refine (taken.trans given).congr (fun user card' => ?_) fun deck' => ?_
  · rw [placed_place_of_zone_ne _ _ _ _ _ _ different]
    split <;> omega
  · rw [placed_place_of_zone_ne _ _ _ _ _ _ different]
    split <;> omega

end Valid

end CardInventory.Memory.Store
