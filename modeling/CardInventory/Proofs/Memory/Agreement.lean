import CardInventory.Proofs.Coupling
import CardInventory.Proofs.Memory.Answer
import CardInventory.Proofs.Memory.Scan
import CardInventory.Proofs.Memory.Untimed

/-!
# Tables that agree on resources

The rows of the binders and the decks with their entries are resources. Tables agree on
some resources if the rows in them are the same up to times of change, and the users and
the cards are the same. Whatever is read from resources tables agree on is the same, and
a change of a resource leaves tables in agreement on all others.
-/

namespace CardInventory.Memory

open Storage

/-- A row of a binder, or a deck with its entries. -/
inductive Resource where
  | holding (key : BinderKey)
  | deck (id : Uuid)
  deriving DecidableEq

namespace Store

/-- The tables have the same users and cards, and on some resources the same rows up to the
times of their last changes. -/
structure Agree (on : Resource → Prop) (left right : Store) : Prop where
  users : left.users = right.users
  cards : left.cards = right.cards
  binder : Table.AgreeOn (fun key => on (.holding key)) BinderEntry.untimed left.binder right.binder
  decks : Table.AgreeOn (fun id => on (.deck id)) Deck.untimed left.decks right.decks
  entries :
    Table.AgreeOn (fun key => on (.deck key.deck)) DeckEntry.untimed left.entries right.entries

variable {on : Resource → Prop} {left right : Store}

namespace Agree

protected theorem refl (store : Store) : Agree on store store :=
  ⟨rfl, rfl, fun _ _ => rfl, fun _ _ => rfl, fun _ _ => rfl⟩

protected theorem symm (agree : Agree on left right) : Agree on right left where
  users := agree.users.symm
  cards := agree.cards.symm
  binder _ member := (agree.binder member).symm
  decks _ member := (agree.decks member).symm
  entries _ member := (agree.entries member).symm

protected theorem trans {between : Store} (first : Agree on left between)
    (second : Agree on between right) : Agree on left right where
  users := first.users.trans second.users
  cards := first.cards.trans second.cards
  binder _ member := (first.binder member).trans (second.binder member)
  decks _ member := (first.decks member).trans (second.decks member)
  entries _ member := (first.entries member).trans (second.entries member)

protected theorem mono {fewer : Resource → Prop} (agree : Agree on left right)
    (within : ∀ resource, fewer resource → on resource) : Agree fewer left right :=
  { agree with
    binder := fun _ member => agree.binder (within _ member)
    decks := fun _ member => agree.decks (within _ member)
    entries := fun _ member => agree.entries (within _ member) }

/-- Tables agree on resources if they agree on those of a part and on those outside of it. -/
theorem split (part : Resource → Prop)
    (inside : Agree (fun resource => on resource ∧ part resource) left right)
    (outside : Agree (fun resource => on resource ∧ ¬part resource) left right) :
    Agree on left right := by
  refine ⟨inside.users, inside.cards, fun key member => ?_, fun id member => ?_,
    fun key member => ?_⟩
  · by_cases own : part (.holding key)
    · exact inside.binder ⟨member, own⟩
    · exact outside.binder ⟨member, own⟩
  · by_cases own : part (.deck id)
    · exact inside.decks ⟨member, own⟩
    · exact outside.decks ⟨member, own⟩
  · by_cases own : part (.deck key.deck)
    · exact inside.entries ⟨member, own⟩
    · exact outside.entries ⟨member, own⟩

/-- Tables that agree on all resources are the same up to times. -/
theorem untimed_eq (agree : Agree (fun _ => True) left right) : left.untimed = right.untimed := by
  simp only [untimed, agree.users, agree.cards, agree.binder.map_eq, agree.decks.map_eq,
    agree.entries.map_eq]

/-! ## What is read -/

theorem held_eq (agree : Agree on left right) {user card : Uuid}
    (member : on (.holding ⟨user, card⟩)) : left.held user card = right.held user card := by
  have same := congrArg (Option.elim · 0 BinderEntry.quantity) (agree.binder member)
  rwa [Option.elim_map, Option.elim_map] at same

theorem placed_eq (agree : Agree on left right) {deck : Uuid} (member : on (.deck deck))
    (card : Uuid) (zone : Zone) : left.placed deck card zone = right.placed deck card zone := by
  have rows := agree.entries (show on (.deck (EntryKey.mk deck card zone).deck) from member)
  have same := congrArg (Option.elim · 0 DeckEntry.quantity) rows
  rwa [Option.elim_map, Option.elim_map] at same

theorem scanDeck_eq (agree : Agree on left right) {deck : Uuid} (member : on (.deck deck)) :
    (left.scanDeck deck).map DeckEntry.untimed = (right.scanDeck deck).map DeckEntry.untimed := by
  have same := agree.entries.map_select
    fun key (own : decide (key.deck = deck) = true) => of_decide_eq_true own ▸ member
  have listed (store : Store) : (store.scanDeck deck).map DeckEntry.untimed =
      ((store.entries.select fun key => key.deck = deck).map DeckEntry.untimed).values := by
    rw [scanDeck_eq_filter, Table.values, Table.map, Table.select, List.map_map, List.map_map]
    rfl
  rw [listed, listed, same]

theorem deckTotal_eq (agree : Agree on left right) {deck : Uuid} (member : on (.deck deck)) :
    left.deckTotal deck = right.deckTotal deck := by
  have same := congrArg (List.map DeckEntry.quantity) (agree.scanDeck_eq member)
  rw [List.map_map, List.map_map] at same
  exact congrArg totalOf same

/-- As many rows go when a deck is cleared. -/
theorem size_clearDeck_eq (agree : Agree on left right) {deck : Uuid}
    (member : on (.deck deck)) :
    left.entries.size - (left.clearDeck deck).entries.size =
      right.entries.size - (right.clearDeck deck).entries.size := by
  have cleared (store : Store) : store.entries.size - (store.clearDeck deck).entries.size =
      ((store.scanDeck deck).map DeckEntry.untimed).length := by
    have split : store.entries.rows.length = _ :=
      List.length_eq_length_filter_add fun row => row.1.deck = deck
    simp only [Table.size, clearDeck, Table.select, scanDeck_eq_filter, List.length_map,
      decide_not]
    omega
  rw [cleared, cleared, agree.scanDeck_eq member]

/-- Where each entry is filed under its deck, the entries of a deck are those a scan gives. -/
theorem entriesOf_eq (agree : Agree on left right) {deck : Uuid} (member : on (.deck deck))
    (filed : left.entries.Forall fun key entry => entry.deck = key.deck)
    (filed' : right.entries.Forall fun key entry => entry.deck = key.deck) :
    (left.entriesOf deck).map DeckEntry.untimed = (right.entriesOf deck).map DeckEntry.untimed := by
  have listed (store : Store)
      (filed : store.entries.Forall fun key entry => entry.deck = key.deck) :
      (store.entriesOf deck).map DeckEntry.untimed =
        ((store.scanDeck deck).map DeckEntry.untimed).mergeSort byZone := by
    have own : (store.entries.rows.filter fun row => row.2.deck = deck) =
        store.entries.rows.filter fun row => row.1.deck = deck :=
      List.filter_congr fun row stored => by rw [filed (Table.get?_eq_some_iff.mpr stored)]
    rw [entriesOf, Table.values, List.filter_map, scanDeck_eq_filter, ← own]
    exact List.map_mergeSort fun _ _ _ _ => rfl
  rw [listed left filed, listed right filed', agree.scanDeck_eq member]

/-! ## What is changed -/

/-- Changes that may be refused are alike: both for the same fault, or for values that are the
same in a part, and then they leave tables in agreement. -/
def Alike {α β : Type} (on : Resource → Prop) (part : α → β)
    (first second : Except Fault (α × Store)) : Prop :=
  Paired (fun changed changed' => part changed.1 = part changed'.1 ∧ Agree on changed.2 changed'.2)
    first second

theorem settle {α β : Type} {part : α → β} {outcome outcome' : Except Fault (α × Store)}
    (agree : Agree on left right) (alike : Alike on part outcome outcome') :
    Paired (fun value value' => part value = part value') (left.settle outcome).1
        (right.settle outcome').1 ∧
      Agree on (left.settle outcome).2 (right.settle outcome').2 := by
  cases alike with
  | ok same => exact ⟨.ok same.1, same.2⟩
  | error fault => exact ⟨.error fault, agree⟩

variable (moment moment' : Moment)

theorem putInBinder (agree : Agree on left right) (user card : Uuid) (quantity : Int) :
    Alike on BinderEntry.untimed (left.putInBinder user card quantity moment)
      (right.putInBinder user card quantity moment') :=
  Paired.refl.bind fun _ _ _ => .ok ⟨rfl, { agree with binder := agree.binder.insert _ rfl }⟩

theorem addToBinder (agree : Agree on left right) {user card : Uuid}
    (member : on (.holding ⟨user, card⟩)) (quantity : Int) :
    Alike on BinderEntry.untimed (left.addToBinder user card quantity moment)
      (right.addToBinder user card quantity moment') := by
  have held : left.held user card = right.held user card := agree.held_eq member
  unfold Store.held at held
  simp only [Store.addToBinder, ensureBinderKeys, agree.users, agree.cards, held]
  exact Paired.refl.bind fun _ _ _ => Paired.refl.bind fun _ _ _ =>
    agree.putInBinder moment moment' user card _

theorem setInBinder (agree : Agree on left right) {user card : Uuid}
    (member : on (.holding ⟨user, card⟩)) (quantity : Int) :
    Alike on BinderEntry.untimed (left.setInBinder user card quantity moment)
      (right.setInBinder user card quantity moment') := by
  simp only [Store.setInBinder, agree.binder.contains_eq member]
  exact Paired.refl.bind fun _ _ _ => agree.putInBinder moment moment' user card quantity

theorem putInDeck (agree : Agree on left right) (deck card : Uuid) (zone : Zone)
    (quantity : Int) :
    Alike on DeckEntry.untimed (left.putInDeck deck card zone quantity moment)
      (right.putInDeck deck card zone quantity moment') :=
  Paired.refl.bind fun _ _ _ => .ok ⟨rfl, { agree with entries := agree.entries.insert _ rfl }⟩

theorem addToDeck (agree : Agree on left right) {deck : Uuid} (member : on (.deck deck))
    (card : Uuid) (zone : Zone) (quantity : Int) :
    Alike on DeckEntry.untimed (left.addToDeck deck card zone quantity moment)
      (right.addToDeck deck card zone quantity moment') := by
  have placed : left.placed deck card zone = right.placed deck card zone :=
    agree.placed_eq member card zone
  unfold Store.placed at placed
  simp only [Store.addToDeck, ensureEntryKeys, agree.decks.contains_eq member, agree.cards, placed]
  exact Paired.refl.bind fun _ _ _ => Paired.refl.bind fun _ _ _ =>
    agree.putInDeck moment moment' deck card zone _

theorem setInDeck (agree : Agree on left right) {deck : Uuid} (member : on (.deck deck))
    (card : Uuid) (zone : Zone) (quantity : Int) :
    Alike on DeckEntry.untimed (left.setInDeck deck card zone quantity moment)
      (right.setInDeck deck card zone quantity moment') := by
  have present : left.entries.contains ⟨deck, card, zone⟩ =
      right.entries.contains ⟨deck, card, zone⟩ := agree.entries.contains_eq member
  simp only [Store.setInDeck, present]
  exact Paired.refl.bind fun _ _ _ => agree.putInDeck moment moment' deck card zone quantity

theorem updateDeck (agree : Agree on left right) {deck : Uuid} (member : on (.deck deck))
    (patch : DeckPatch) :
    Alike on Deck.untimed (left.updateDeck deck patch moment)
      (right.updateDeck deck patch moment') := by
  have rows := agree.decks member
  unfold Store.updateDeck
  cases found : left.decks.get? deck with
  | none =>
      rw [found, Option.map_none, eq_comm, Option.map_eq_none_iff] at rows
      rw [rows]
      exact .error Fault.notFound
  | some row =>
      rw [found, Option.map_some, eq_comm, Option.map_eq_some_iff] at rows
      obtain ⟨row', found', same⟩ := rows
      obtain ⟨time, rfl⟩ := Deck.untimed_eq_iff.mp same.symm
      rw [found']
      exact Paired.refl.bind fun _ _ _ =>
        .ok ⟨rfl, { agree with decks := agree.decks.insert deck rfl }⟩

theorem clearDeck (agree : Agree on left right) (deck : Uuid) :
    Agree on (left.clearDeck deck) (right.clearDeck deck) :=
  { agree with entries := agree.entries.select _ }

theorem deleteDeck (agree : Agree on left right) (deck : Uuid) :
    Agree on (left.deleteDeck deck) (right.deleteDeck deck) :=
  { agree.clearDeck deck with decks := agree.decks.erase deck }

end Agree

end Store

end CardInventory.Memory
