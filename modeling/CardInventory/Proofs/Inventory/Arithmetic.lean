import CardInventory.Proofs.Inventory.Concurrent
import CardInventory.Proofs.Memory.Arithmetic

/-!
# Operations in machine words

The numbers of copies a machine adds up and takes away in an operation are told by the
requests of its rule: a total that is asked for is compared with a limit, a listing of
entries is summed by zone and by card, and what is set in place of a row is what is left
of it. At an attainable depot with fewer than 2 ^ 31 printings none of these sums and
differences leaves the range of its words, however large the 32-bit numbers are that an
operation is given.
-/

namespace CardInventory.Inventory

open Memory Storage Ledger

/-! ## What is computed -/

/-- The copies an operation is to move, of which it checks the capacity of a deck. -/
def Operation.copies : Operation → Int
  | .creditBinder _ _ quantity => quantity
  | .debitBinder _ _ quantity => quantity
  | .allocate _ _ quantity _ => quantity
  | .deallocate _ _ quantity _ => quantity
  | .transfer _ _ _ quantity _ => quantity
  | .moveZone _ _ quantity _ _ => quantity
  | _ => 0

/-- What is set in place of a row is the difference of what the row holds and the copies that
are taken, and not nothing. -/
def Subtracts (copies : Int) (store : Store) : Request → Prop
  | .setInBinder user card rest => ∃ entry, store.binder.get? ⟨user, card⟩ = some entry ∧
      Width.sub 32 entry.quantity copies = some rest ∧ 1 ≤ rest
  | .setInDeck deck card zone rest => ∃ entry, store.entries.get? ⟨deck, card, zone⟩ = some entry ∧
      Width.sub 32 entry.quantity copies = some rest ∧ 1 ≤ rest
  | _ => True

/-- The copies of the entries of a deck, in the order of a scan. -/
def scanned (store : Store) (deck : Uuid) : List Int :=
  (store.scanDeck deck).map DeckEntry.quantity

/-- In words of 64 bits a listing of entries has the totals it has in whole numbers: those of
its zones and of both together, which are those of a deck, and those of its cards, in the order
in which they go back to a binder, and of all cards. -/
structure SumsUp (entries : List DeckEntry) : Prop where
  zones : ∀ zone, Width.sum 64 ((entries.filter fun entry => entry.zone = zone).map
    DeckEntry.quantity) = some (zoneTotal zone entries)
  both : Width.add 64 (zoneTotal .main entries) (zoneTotal .sideboard entries) =
    some (zoneTotal .main entries + zoneTotal .sideboard entries)
  totals : ∀ id capacity, tallyTotals id capacity entries = some (totalsOf id capacity entries)
  cards : tallyByCard (entries.mergeSort releaseOrder) =
    some (totalsByCard (entries.mergeSort releaseOrder))
  returned : ∀ row, Width.sum 64 ((totalsByCard (entries.mergeSort releaseOrder)).map Prod.snd) =
    some (ReleasedDeck.mk row (totalsByCard (entries.mergeSort releaseOrder))).totalReturned

/-- What is computed with the reply to a request, or for a request, is computed in machine words
as it is in whole numbers. A total that is asked for is held, with the copies to be added to it,
against a limit. -/
def Exact (copies : Int) (store : Store) (request : Request) : Prop :=
  match request with
  | .totalInDeck deck =>
      Width.sum 64 (scanned store deck) = some (store.deckTotal deck) ∧
        Width.add 64 (store.deckTotal deck) copies = some (store.deckTotal deck + copies) ∧
        ∀ limit, weighCapacity limit (store.deckTotal deck) copies =
          some (checkCapacity limit (store.deckTotal deck) copies)
  | .decksOfUser owner => ∀ summary ∈ store.summaries owner,
      Width.sum 64 (scanned store summary.deck.id) = some summary.cardCount
  | .entriesOfDeck deck => SumsUp (store.entriesOf deck)
  | request => Subtracts copies store request

variable {moments : Nat → Moment} {defaultCapacity : Int} {depot : Depot} {store : Store}
  {copies : Int}

/-! ## Sums over the entries of a deck -/

theorem sum_scanned (valid : store.Valid) (few : store.cards.size < Width.values 31)
    (deck : Uuid) : Width.sum 64 (scanned store deck) = some (store.deckTotal deck) := by
  have total := store.deckTotal_le valid few deck
  refine Width.sum_eq_totalOf (fun quantity member => ?_) (Int.le_trans total (by decide))
  obtain ⟨entry, listed, rfl⟩ := List.mem_map.mp member
  exact Int.le_trans (by decide) (Store.scanDeck_quantity valid listed).1

/-- Where all quantities together take 64 bits and none is negative, a listing sums up. -/
theorem sumsUp_of_small {entries : List DeckEntry}
    (positive : ∀ entry ∈ entries, 0 ≤ entry.quantity)
    (small : totalOf (entries.map DeckEntry.quantity) ≤ Width.greatest 64) : SumsUp entries := by
  have main := zoneTotal_nonneg positive .main
  have sideboard := zoneTotal_nonneg positive .sideboard
  have both := zoneTotal_add entries
  have perm := List.mergeSort_perm entries releaseOrder
  have positive' : ∀ entry ∈ entries.mergeSort releaseOrder, 0 ≤ entry.quantity :=
    fun entry member => positive entry (perm.mem_iff.mp member)
  have small' : totalOf ((entries.mergeSort releaseOrder).map DeckEntry.quantity) ≤
      Width.greatest 64 := by rwa [totalOf_perm (perm.map _)]
  have zones : ∀ zone, Width.sum 64 ((entries.filter fun entry => entry.zone = zone).map
      DeckEntry.quantity) = some (zoneTotal zone entries) := by
    intro zone
    refine Width.sum_eq_totalOf (fun quantity member => ?_) ?_
    · obtain ⟨entry, listed, rfl⟩ := List.mem_map.mp member
      exact positive entry (List.mem_filter.mp listed).1
    · change zoneTotal zone _ ≤ _
      cases zone <;> omega
  have added : Width.add 64 (zoneTotal .main entries) (zoneTotal .sideboard entries) =
      some (zoneTotal .main entries + zoneTotal .sideboard entries) :=
    Width.word_of_nonneg (by omega) (by omega)
  refine ⟨zones, added, tallyTotals_eq zones added, tallyByCard_eq positive' small', fun row =>
    Width.sum_eq_totalOf (List.forall_mem_map.mpr (totalsByCard_nonneg positive')) ?_⟩
  rwa [totalOf_totalsByCard]

theorem sumsUp_entriesOf (valid : store.Valid) (few : store.cards.size < Width.values 31)
    (deck : Uuid) : SumsUp (store.entriesOf deck) := by
  refine sumsUp_of_small (fun entry member => ?_) ?_
  · exact Int.le_trans (by decide) (Store.entriesOf_quantity valid member).1
  · rw [Store.totalOf_entriesOf valid]
    exact Int.le_trans (store.deckTotal_le valid few deck) (by decide)

/-- Sums are exact over valid tables with few printings, whatever is asked of them. -/
theorem exact_of_subtracts (valid : store.Valid) (few : store.cards.size < Width.values 31)
    (narrow : quantityFits copies = true) {request : Request}
    (subtracts : Subtracts copies store request) : Exact copies store request := by
  cases request with
  | totalInDeck deck =>
      have total := store.deckTotal_le valid few deck
      have nonneg := store.deckTotal_nonneg valid deck
      obtain ⟨least, greatest⟩ := quantityFits_iff.mp narrow
      have inside : Width.fits 64 (store.deckTotal deck + copies) = true := by
        have bounds : Width.least 64 ≤ Width.least 32 ∧
            Width.greatest 32 = (Width.values 31 : Int) - 1 := by decide
        simp only [Width.fits, Bool.and_eq_true, decide_eq_true_eq]
        omega
      have added : Width.add 64 (store.deckTotal deck) copies =
          some (store.deckTotal deck + copies) := by
        rw [Width.add, Width.word, if_pos inside]
      exact ⟨sum_scanned valid few deck, added, weighCapacity_eq added⟩
  | decksOfUser owner =>
      intro summary member
      rw [Store.summaries, List.mem_mergeSort] at member
      obtain ⟨deck, -, rfl⟩ := List.mem_map.mp member
      exact sum_scanned valid few deck.id
  | entriesOfDeck deck => exact sumsUp_entriesOf valid few deck
  | _ => exact subtracts

/-! ## The requests of a rule -/

/-- Whether the copies a request stores take 32 bits. -/
def copiesFit : Request → Bool
  | .addToBinder _ _ quantity => quantityFits quantity
  | .setInBinder _ _ quantity => quantityFits quantity
  | .addToDeck _ _ _ quantity => quantityFits quantity
  | .setInDeck _ _ _ quantity => quantityFits quantity
  | _ => true

/-- A request that registers no printing and sets nothing in place of a row. -/
def isOrdinary : Request → Bool
  | .createCard _ => false
  | .setInBinder _ _ _ => false
  | .setInDeck _ _ _ _ => false
  | _ => true

/-- A request with numbers of copies of 32 bits that registers no printing, and for which what is
set has been computed exactly. -/
structure Sane (copies : Int) (request : Request) (store : Store) : Prop where
  narrow : copiesFit request = true
  plain : ∀ draft, request ≠ .createCard draft
  subtracts : Subtracts copies store request

theorem sane_of_ordinary {request : Request} (narrow : copiesFit request = true)
    (ordinary : isOrdinary request = true) : Sane copies request store where
  narrow := narrow
  plain draft registers := by
    rw [registers] at ordinary
    cases ordinary
  subtracts := by
    cases request <;> trivial

/-- Valid tables with few printings. -/
structure Small (store : Store) : Prop where
  valid : store.Valid
  few : store.cards.size < Width.values 31

theorem answer_valid_of_copiesFit (valid : store.Valid) {request : Request}
    (fits : copiesFit request = true) (moment : Moment) :
    (store.answer moment request).2.Valid := by
  cases request with
  | createDeck draft =>
      refine Store.settle_keeps valid fun deck changed done => ?_
      obtain ⟨owner, sound, rfl, rfl⟩ := Store.createDeck_eq_ok_iff.mp done
      exact valid.insertDeck ⟨rfl, owner, sound⟩
  | updateDeck id patch =>
      refine Store.settle_keeps valid fun deck changed done => ?_
      obtain ⟨old, found, rfl, sound, rfl⟩ := Store.updateDeck_eq_ok_iff.mp done
      exact valid.insertDeck ⟨(valid.decks found).keyed, (valid.decks found).owner, sound⟩
  | _ => exact Store.answer_valid valid fits

theorem settle_cards {α : Type} {outcome : Except Storage.Fault (α × Store)}
    (kept : ∀ value changed, outcome = .ok (value, changed) → changed.cards = store.cards) :
    (store.settle outcome).2.cards = store.cards := by
  rcases outcome with fault | ⟨value, changed⟩
  · rfl
  · exact kept value changed rfl

/-- No other request than a registration changes the printings. -/
theorem answer_cards {request : Request} (plain : ∀ draft, request ≠ .createCard draft)
    (moment : Moment) : (store.answer moment request).2.cards = store.cards := by
  cases request with
  | createCard draft => exact absurd rfl (plain draft)
  | createUser draft =>
      refine settle_cards fun user changed done => ?_
      obtain ⟨-, -, -, rfl⟩ := Store.createUser_eq_ok_iff.mp done
      rfl
  | addToBinder user card quantity =>
      refine settle_cards fun entry changed done => ?_
      obtain ⟨-, -, -, put⟩ := Store.addToBinder_eq_ok_iff.mp done
      obtain ⟨-, -, rfl⟩ := Store.putInBinder_eq_ok_iff.mp put
      rfl
  | setInBinder user card quantity =>
      refine settle_cards fun entry changed done => ?_
      obtain ⟨-, put⟩ := Store.setInBinder_eq_ok_iff.mp done
      obtain ⟨-, -, rfl⟩ := Store.putInBinder_eq_ok_iff.mp put
      rfl
  | createDeck draft =>
      refine settle_cards fun deck changed done => ?_
      obtain ⟨-, -, -, rfl⟩ := Store.createDeck_eq_ok_iff.mp done
      rfl
  | updateDeck id patch =>
      refine settle_cards fun deck changed done => ?_
      obtain ⟨-, -, -, -, rfl⟩ := Store.updateDeck_eq_ok_iff.mp done
      rfl
  | addToDeck deck card zone quantity =>
      refine settle_cards fun entry changed done => ?_
      obtain ⟨-, -, -, put⟩ := Store.addToDeck_eq_ok_iff.mp done
      obtain ⟨-, -, rfl⟩ := Store.putInDeck_eq_ok_iff.mp put
      rfl
  | setInDeck deck card zone quantity =>
      refine settle_cards fun entry changed done => ?_
      obtain ⟨-, put⟩ := Store.setInDeck_eq_ok_iff.mp done
      obtain ⟨-, -, rfl⟩ := Store.putInDeck_eq_ok_iff.mp put
      rfl
  | _ => rfl

theorem Small.answer (small : Small store) {request : Request} (sane : Sane copies request store)
    (moment : Moment) : Small (store.answer moment request).2 where
  valid := answer_valid_of_copiesFit small.valid sane.narrow moment
  few := by
    rw [answer_cards sane.plain]
    exact small.few

/-- Whatever the tables are, every request of a rule is sane where they are valid. -/
def Computes {α : Type} (moments : Nat → Moment) (copies : Int) (rule : Ledger α) : Prop :=
  ∀ staged, rule.Meets (answerNext moments)
    (fun request staged => staged.store.Valid → Sane copies request staged.store) staged

section Computes

variable {α β : Type}

theorem Computes.pure (value : α) : Computes moments copies (pure value) :=
  fun _ => True.intro

theorem Computes.fail (failure : Failure) :
    Computes moments copies (Procedure.fail failure : Ledger α) :=
  fun _ => True.intro

theorem Computes.bind {first : Ledger α} {second : α → Ledger β}
    (computes : Computes moments copies first)
    (computes' : ∀ value, Computes moments copies (second value)) :
    Computes moments copies (first >>= second) := by
  intro staged
  rw [Procedure.meets_bind .storage]
  exact ⟨computes staged, fun value after _ => computes' value after, fun _ _ _ => True.intro⟩

theorem Computes.ask {request : Request} (narrow : copiesFit request = true)
    (ordinary : isOrdinary request = true) : Computes moments copies (Ledger.ask request) :=
  fun staged => (Procedure.meets_request request staged).mpr fun _ =>
    sane_of_ordinary narrow ordinary

/-- An ordinary request, and what is done with its reply. -/
theorem Computes.step {request : Request} {next : request.Reply → Ledger β}
    (narrow : copiesFit request = true) (ordinary : isOrdinary request = true)
    (computes : ∀ reply, Computes moments copies (next reply)) :
    Computes moments copies (Ledger.ask request >>= next) :=
  (Computes.ask narrow ordinary).bind computes

theorem Computes.ofExcept (outcome : Except Failure α) :
    Computes moments copies (Procedure.ofExcept outcome : Ledger α) := by
  cases outcome with
  | ok value => exact .pure value
  | error failure => exact .fail failure

theorem Computes.ensure (condition : Bool) (failure : Failure) :
    Computes moments copies (Ledger.ensure condition failure) := by
  cases condition with
  | true => exact .pure ()
  | false => exact .fail failure

theorem Computes.found (value : Option α) (failure : Failure) :
    Computes moments copies (Ledger.found value failure) := by
  cases value with
  | some value => exact .pure value
  | none => exact .fail failure

end Computes

section Rules

variable {quantity : Int}

theorem computes_lockDeck (deck : Uuid) : Computes moments copies (lockDeck deck) :=
  .step rfl rfl fun _ => .found _ _

theorem computes_ensureCapacity (deck : Deck) (quantity : Int) :
    Computes moments copies (ensureCapacity deck quantity) :=
  .step rfl rfl fun _ => .ofExcept _

theorem computes_quantityOf (user card : Uuid) : Computes moments copies (quantityOf user card) :=
  .step rfl rfl fun _ => .pure _

theorem computes_credit (narrow : quantityFits quantity = true) (user card : Uuid) :
    Computes moments copies (credit user card quantity) :=
  .bind (.ensure _ _) fun _ => .step rfl rfl fun _ => .bind (.ensure _ _) fun _ =>
    .step rfl rfl fun _ => .bind (.ensure _ _) fun _ => .step rfl rfl fun _ =>
      .bind (.ensure _ _) fun _ => .ask narrow rfl

theorem computes_addToZone (narrow : quantityFits quantity = true) (deck card : Uuid)
    (zone : Zone) : Computes moments copies (addToZone deck card quantity zone) :=
  .bind (.ensure _ _) fun _ => .step rfl rfl fun _ => .bind (.ensure _ _) fun _ =>
    .step rfl rfl fun _ => .bind (.ensure _ _) fun _ => .step rfl rfl fun _ =>
      .bind (.ensure _ _) fun _ => .ask narrow rfl

/-- Less than all of the copies of a row leaves one copy at least, and a word of 32 bits. -/
theorem sub_eq_some {held : Int} (storable : Storable held) (positive : 0 < quantity)
    (enough : quantity ≤ held) (notAll : quantity ≠ held) :
    quantityFits (held - quantity) = true ∧
      Width.sub 32 held quantity = some (held - quantity) ∧ 1 ≤ held - quantity := by
  obtain ⟨-, greatest⟩ := storable
  have fits : quantityFits (held - quantity) = true :=
    (quantityFits_iff_le (by omega)).mpr (by omega)
  exact ⟨fits, if_pos fits, by omega⟩

theorem computes_debit (user card : Uuid) :
    Computes moments quantity (debit user card quantity) := by
  intro staged
  rw [debit, Procedure.meets_bind .storage, ends_ensurePositive]
  refine ⟨Computes.ensure _ _ staged, ?_⟩
  split
  case isFalse => trivial
  case isTrue positive =>
    rw [Procedure.meets_bind .storage, ends_ask]
    refine ⟨Computes.ask rfl rfl staged, ?_⟩
    simp only [Store.answer]
    rw [Procedure.meets_bind .storage, ends_found]
    refine ⟨Computes.found _ _ _, ?_⟩
    cases found : staged.store.binder.get? ⟨user, card⟩ with
    | none => trivial
    | some entry =>
        simp only
        rw [Procedure.meets_bind .storage, ends_ensure]
        refine ⟨Computes.ensure _ _ _, ?_⟩
        split
        case isFalse => trivial
        case isTrue enough =>
          split
          case isTrue => exact Computes.step rfl rfl (fun _ => .pure _) _
          case isFalse notAll =>
            rw [Procedure.meets_bind .storage]
            refine ⟨(Procedure.meets_request _ _).mpr fun valid => ?_,
              fun _ _ _ => trivial, fun _ _ _ => trivial⟩
            obtain ⟨narrow, exact', left⟩ :=
              sub_eq_some (valid.binder found).quantity positive (of_decide_eq_true enough) notAll
            exact ⟨narrow, by simp, entry, found, exact', left⟩

theorem computes_firstEntry (deck card : Uuid) (zones : List Zone) :
    Computes moments copies (firstEntry deck card zones) := by
  induction zones with
  | nil => exact .fail _
  | cons zone rest ih =>
      refine .step rfl rfl fun entry => ?_
      cases entry with
      | some entry => exact .pure entry
      | none => exact ih

theorem computes_removeFromZone (deck card : Uuid) (zone : Option Zone) :
    Computes moments quantity (removeFromZone deck card quantity zone) := by
  intro staged
  rw [removeFromZone, Procedure.meets_bind .storage, ends_ensurePositive]
  refine ⟨Computes.ensure _ _ staged, ?_⟩
  split
  case isFalse => trivial
  case isTrue positive =>
    rw [Procedure.meets_bind .storage]
    refine ⟨computes_firstEntry deck card _ staged, ?_⟩
    apply (firstEntry_ends deck card (removalZones zone)).mono_ok
    rintro entry ⟨_, drawn⟩ ⟨found, same⟩
    obtain rfl : staged.store = _ := same.symm
    rw [Procedure.meets_bind .storage, ends_ensure]
    refine ⟨Computes.ensure _ _ _, ?_⟩
    split
    case isFalse => trivial
    case isTrue enough =>
      split
      case isTrue => exact Computes.step rfl rfl (fun _ => .pure _) _
      case isFalse notAll =>
        rw [Procedure.meets_bind .storage]
        refine ⟨(Procedure.meets_request _ _).mpr fun valid => ?_,
          fun _ _ _ => trivial, fun _ _ _ => trivial⟩
        obtain ⟨-, stored⟩ := Store.removalEntry?_eq_some valid found
        obtain ⟨narrow, exact', left⟩ :=
          sub_eq_some (valid.entries stored).quantity positive (of_decide_eq_true enough) notAll
        exact ⟨narrow, by simp, entry, stored, exact', left⟩

theorem computes_allocate (narrow : quantityFits quantity = true) (deck card : Uuid)
    (zone : Zone) : Computes moments quantity (allocate deck card quantity zone) :=
  .bind (.ensure _ _) fun _ => .bind (computes_lockDeck deck) fun row => .step rfl rfl fun _ =>
    .bind (.ensure _ _) fun _ => .bind (computes_ensureCapacity row quantity) fun _ =>
      .bind (computes_quantityOf row.owner card) fun _ => .bind (.ensure _ _) fun _ =>
        .bind (computes_debit row.owner card) fun _ => computes_addToZone narrow deck card zone

theorem computes_deallocate (narrow : quantityFits quantity = true) (deck card : Uuid)
    (zone : Option Zone) : Computes moments quantity (deallocate deck card quantity zone) :=
  .bind (.ensure _ _) fun _ => .bind (computes_lockDeck deck) fun row =>
    .bind (computes_removeFromZone deck card zone) fun removal =>
      .bind (computes_credit narrow row.owner card) fun _ => .pure removal

theorem computes_transfer (narrow : quantityFits quantity = true) (source destination card : Uuid)
    (zone : Option Zone) :
    Computes moments quantity (transfer source destination card quantity zone) :=
  .bind (.ensure _ _) fun _ => .bind (.ensure _ _) fun _ => .step rfl rfl fun _ =>
    .bind (.found _ _) fun _ => .bind (.found _ _) fun row => .bind (.ensure _ _) fun _ =>
      .bind (computes_ensureCapacity row quantity) fun _ =>
        .bind (computes_deallocate narrow source card zone) fun _ =>
          .bind (computes_allocate narrow destination card .main) fun _ => .pure _

theorem computes_moveZone (narrow : quantityFits quantity = true) (deck card : Uuid)
    (source target : Zone) :
    Computes moments quantity (moveZone deck card quantity source target) :=
  .bind (.ensure _ _) fun _ => .bind (.ensure _ _) fun _ => .bind (computes_lockDeck deck)
    fun _ => .bind (computes_removeFromZone deck card (some source)) fun _ =>
      .bind (computes_addToZone narrow deck card target) fun _ => .pure _

theorem computes_creditAll (owner : Uuid) {entries : List DeckEntry}
    (narrow : ∀ entry ∈ entries, quantityFits entry.quantity = true) :
    Computes moments copies (creditAll owner entries) := by
  induction entries with
  | nil => exact .pure ()
  | cons entry rest ih =>
      obtain ⟨first, others⟩ := List.forall_mem_cons.mp narrow
      exact .bind (computes_credit first owner entry.card) fun _ => ih others

/-- The entries of a deck that is released hold numbers of 32 bits, as its tables are valid. -/
theorem releaseDeck_computes (valid : store.Valid) (deck : Uuid) (drawn : Nat) :
    (releaseDeck deck).Meets (answerNext moments)
      (fun request staged => staged.store.Valid → Sane copies request staged.store)
      ⟨store, drawn⟩ := by
  rw [releaseDeck, Procedure.meets_bind .storage, ends_lockDeck valid]
  refine ⟨computes_lockDeck deck _, ?_⟩
  cases store.decks.get? deck with
  | none => trivial
  | some row =>
      simp only
      rw [Procedure.meets_bind .storage, ends_ask]
      refine ⟨Computes.ask rfl rfl _, ?_⟩
      have narrow : ∀ entry ∈ (store.entriesOf deck).mergeSort releaseOrder,
          quantityFits entry.quantity = true := by
        intro entry member
        have storable := Store.entriesOf_quantity valid (List.mem_mergeSort.mp member)
        exact (quantityFits_iff_le (Int.le_trans (by decide) storable.1)).mpr storable.2
      exact Computes.bind (computes_creditAll row.owner narrow) (fun _ =>
        .step rfl rfl fun _ => .step rfl rfl fun _ => .bind (.ensure _ _) fun _ => .pure _) _

theorem computes_ensureUser (id : Uuid) : Computes moments copies (ensureUser id) :=
  .step rfl rfl fun _ => .ensure _ _

theorem computes_requireDeck (id : Uuid) : Computes moments copies (requireDeck id) :=
  .step rfl rfl fun _ => .found _ _

theorem computes_changeDeck (id : Uuid) (patch : DeckPatch) :
    Computes moments copies (changeDeck id patch) := by
  refine .bind (computes_lockDeck id) fun _ => ?_
  cases patch.capacity with
  | none => exact .ask rfl rfl
  | some limit => exact .step rfl rfl fun _ => .bind (.ofExcept _) fun _ => .ask rfl rfl

/-- The rule of an operation other than a registration asks sane requests. -/
theorem rule_computes (valid : store.Valid) {operation : Operation}
    (plain : ∀ draft, operation ≠ .registerCard draft)
    (narrow : quantityFits operation.copies = true) {rule : Ledger operation.Result}
    (accepted : operation.rule defaultCapacity = .ok rule) (drawn : Nat) :
    rule.Meets (answerNext moments)
      (fun request staged => staged.store.Valid → Sane operation.copies request staged.store)
      ⟨store, drawn⟩ := by
  cases operation with
  | createUser draft =>
      rw [Operation.rule] at accepted
      split at accepted
      · cases accepted
      · obtain rfl := Except.ok.inj accepted
        exact Computes.ask rfl rfl _
  | registerCard draft => exact absurd rfl (plain draft)
  | createDeck proposal =>
      obtain ⟨draft, -, accepted⟩ := bind_eq_ok_iff.mp accepted
      obtain rfl := Except.ok.inj accepted
      exact Computes.bind (computes_ensureUser draft.owner) (fun _ => .ask rfl rfl) _
  | updateDeck id patch =>
      obtain ⟨patch', -, accepted⟩ := bind_eq_ok_iff.mp accepted
      obtain rfl := Except.ok.inj accepted
      exact computes_changeDeck id patch' _
  | getUser id =>
      obtain rfl := Except.ok.inj accepted
      exact Computes.step rfl rfl (fun _ => .found _ _) _
  | searchCards search =>
      obtain rfl := Except.ok.inj accepted
      exact Computes.ask rfl rfl _
  | getCard id =>
      obtain rfl := Except.ok.inj accepted
      exact Computes.step rfl rfl (fun _ => .found _ _) _
  | creditBinder user card quantity =>
      obtain rfl := Except.ok.inj accepted
      exact computes_credit narrow user card _
  | debitBinder user card quantity =>
      obtain rfl := Except.ok.inj accepted
      exact computes_debit user card _
  | binderQuantity user card =>
      obtain rfl := Except.ok.inj accepted
      exact computes_quantityOf user card _
  | listBinder user search =>
      obtain rfl := Except.ok.inj accepted
      exact Computes.bind (computes_ensureUser user) (fun _ => .ask rfl rfl) _
  | getDeck id =>
      obtain rfl := Except.ok.inj accepted
      exact Computes.bind (computes_requireDeck id) (fun _ => .step rfl rfl fun _ => .pure _) _
  | listUserDecks owner =>
      obtain rfl := Except.ok.inj accepted
      exact Computes.bind (computes_ensureUser owner) (fun _ => .ask rfl rfl) _
  | deleteDeck id =>
      obtain rfl := Except.ok.inj accepted
      exact releaseDeck_computes valid id drawn
  | deckTotals id =>
      obtain rfl := Except.ok.inj accepted
      exact Computes.bind (computes_requireDeck id) (fun _ => .step rfl rfl fun _ => .pure _) _
  | exportDeck id =>
      obtain rfl := Except.ok.inj accepted
      exact Computes.bind (computes_requireDeck id) (fun _ => .step rfl rfl fun _ =>
        .step rfl rfl fun _ => .bind (.ofExcept _) fun _ => .pure _) _
  | allocate deck card quantity zone =>
      obtain rfl := Except.ok.inj accepted
      exact computes_allocate narrow deck card zone _
  | deallocate deck card quantity zone =>
      obtain rfl := Except.ok.inj accepted
      exact computes_deallocate narrow deck card zone _
  | transfer source destination card quantity zone =>
      obtain rfl := Except.ok.inj accepted
      exact computes_transfer narrow source destination card zone _
  | moveZone deck card quantity source target =>
      obtain rfl := Except.ok.inj accepted
      exact computes_moveZone narrow deck card source target _

end Rules

/-! ## All operations -/

/-- Where a run keeps something with every request, its requests meet what follows from this. -/
theorem meets_of_kept {α : Type} {condition stronger : Request → Staged → Prop}
    (kept : Staged → Prop)
    (step : ∀ request staged, kept staged → condition request staged →
      kept (answerNext moments request staged).2)
    (follows : ∀ request staged, kept staged → condition request staged →
      stronger request staged)
    {rule : Ledger α} {staged : Staged} (meets : rule.Meets (answerNext moments) condition staged)
    (before : kept staged) : rule.Meets (answerNext moments) stronger staged := by
  induction rule generalizing staged with
  | done value => trivial
  | fail failure => trivial
  | ask request next ih =>
      rw [Procedure.Meets] at meets ⊢
      obtain ⟨asked, rest⟩ := meets
      have after := step request staged before asked
      refine ⟨follows request staged before asked, ?_⟩
      rcases outcome : answerNext moments request staged with ⟨fault | reply, between⟩
      · trivial
      · rw [outcome] at rest after
        exact ih reply rest after

theorem registerCard_exact {draft : CardDraft} {rule : Ledger Card}
    (accepted : Operation.rule defaultCapacity (.registerCard draft) = .ok rule)
    (staged : Staged) :
    rule.Meets (answerNext moments) (fun request staged => Exact copies staged.store request)
      staged := by
  rw [Operation.rule] at accepted
  split at accepted
  · cases accepted
  · split at accepted
    · cases accepted
    · obtain rfl := Except.ok.inj accepted
      exact (Procedure.meets_request _ staged).mpr trivial

/-- At an attainable depot with fewer than 2 ^ 31 printings an operation on any number of copies
of 32 bits computes in machine words what it computes in whole numbers: no addition and no
subtraction overflows, and what is set in place of a row is one copy at least. -/
theorem operations_compute_exactly (attainable : Attainable moments defaultCapacity depot)
    (few : depot.store.cards.size < Width.values 31) (operation : Operation)
    (narrow : quantityFits operation.copies = true) :
    (operation.task defaultCapacity).Meets (answerNext moments)
      (fun request staged => Exact operation.copies staged.store request)
      ⟨depot.store, depot.drawn⟩ := by
  cases checked : operation.rule defaultCapacity with
  | error failure =>
      rw [task_of_error checked]
      trivial
  | ok rule =>
      rw [task_of_ok checked]
      by_cases registers : ∃ draft, operation = .registerCard draft
      · obtain ⟨draft, rfl⟩ := registers
        exact registerCard_exact checked _
      · have small : Small depot.store := ⟨attainable.valid, few⟩
        refine meets_of_kept (fun staged => Small staged.store) ?_ ?_
          (rule_computes small.valid (not_exists.mp registers) narrow checked depot.drawn) small
        · intro request staged small sane
          exact small.answer (sane small.valid) (moments staged.drawn)
        · intro request staged small sane
          exact exact_of_subtracts small.valid small.few narrow (sane small.valid).subtracts

/-- To put the greatest number of copies into a deck that holds as many already takes more than
32 bits, and is computed exactly. -/
theorem greatest_allocation_computes_exactly :
    let moments : Nat → Moment := fun n => ⟨⟨n, 0⟩, .ofNat n⟩
    let user : Uuid := .ofNat 0
    let card : Uuid := .ofNat 7
    let deck : Uuid := .ofNat 3
    let operations : List Operation :=
      [.createUser ⟨"ada", none⟩, .registerCard ⟨card, "Bolt", none, none, none, none, [default]⟩,
        .createDeck ⟨user, "A", "modern", none, true, none⟩, .creditBinder user card 2147483647,
        .allocate deck card 2147483647 .main, .creditBinder user card 2147483647]
    let depot := (performAll moments 60 operations .empty).2
    let operation : Operation := .allocate deck card 2147483647 .sideboard
    Attainable moments 60 depot ∧ depot.store.cards.size < Width.values 31 ∧
      quantityFits operation.copies = true ∧
      Width.add 32 (depot.store.deckTotal deck) operation.copies = none ∧
      (operation.task 60).Meets (answerNext moments)
        (fun request staged => Exact operation.copies staged.store request)
        ⟨depot.store, depot.drawn⟩ := by
  intro moments user card deck operations depot operation
  have attainable : Attainable moments 60 depot := Attainable.performAll .empty operations
  have few : depot.store.cards.size < Width.values 31 := by decide +kernel
  have beyond : Width.add 32 (depot.store.deckTotal deck) operation.copies = none := by
    decide +kernel
  exact ⟨attainable, few, by decide, beyond,
    operations_compute_exactly attainable few operation (by decide)⟩

end CardInventory.Inventory
