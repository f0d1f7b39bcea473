import CardInventory.Proofs.Ledger.Binder
import CardInventory.Proofs.Ledger.Deck
import CardInventory.Proofs.Memory.Listing

/-!
# What rules report

A rule that changes copies results in the rows it has written, or in the zone whose
row it has deleted. Where the rule goes on after that, it writes elsewhere. So the
rows it results in are those the tables hold when it has ended, and a release results
in what the binder of the owner has gained.
-/

namespace CardInventory

open Memory Storage

namespace Memory.Table

variable {κ α : Type} [Ranked κ]

/-- The table with a row under a key, or without any. -/
def put (table : Table κ α) (key : κ) (row : Option α) : Table κ α :=
  row.elim (table.erase key) (table.insert key)

@[simp]
theorem get?_put_self (table : Table κ α) (key : κ) (row : Option α) :
    (table.put key row).get? key = row := by
  cases row with
  | none => exact table.get?_erase_self key
  | some row => exact table.get?_insert_self key row

theorem get?_put_of_ne (table : Table κ α) {key other : κ} (different : other ≠ key)
    (row : Option α) : (table.put key row).get? other = table.get? other := by
  cases row with
  | none => exact table.get?_erase_of_ne different
  | some row => exact table.get?_insert_of_ne different row

end Memory.Table

namespace Memory.Store

/-- The tables with a row for a card in a user's binder, or without any. -/
def withHolding (store : Store) (user card : Uuid) (row : Option BinderEntry) : Store :=
  { store with binder := store.binder.put ⟨user, card⟩ row }

/-- The tables with a row for a card in a zone of a deck, or without any. -/
def withEntry (store : Store) (deck card : Uuid) (zone : Zone) (row : Option DeckEntry) : Store :=
  { store with entries := store.entries.put ⟨deck, card, zone⟩ row }

section Rows

variable (store : Store) (user card deck : Uuid) (zone : Zone)

theorem held_withHolding (row : Option BinderEntry) (user' card' : Uuid) :
    (store.withHolding user card row).held user' card' =
      if user' = user ∧ card' = card then row.elim 0 BinderEntry.quantity
      else store.held user' card' := by
  by_cases same : user' = user ∧ card' = card
  · obtain ⟨rfl, rfl⟩ := same
    simp [held, withHolding]
  · have different : BinderKey.mk user' card' ≠ ⟨user, card⟩ := by simpa using same
    simp [held, withHolding, same, Table.get?_put_of_ne _ different]

theorem get?_withEntry_self (row : Option DeckEntry) :
    (store.withEntry deck card zone row).entries.get? ⟨deck, card, zone⟩ = row :=
  Table.get?_put_self ..

theorem get?_withEntry_of_ne (row : Option DeckEntry) {key : EntryKey}
    (different : key ≠ ⟨deck, card, zone⟩) :
    (store.withEntry deck card zone row).entries.get? key = store.entries.get? key :=
  Table.get?_put_of_ne _ different _

end Rows

variable {store after : Store} {moment : Moment} {user card deck : Uuid} {zone : Zone}
  {quantity : Int}

/-- Nothing is held just where there is no entry. -/
theorem Valid.held_eq_zero_iff (valid : store.Valid) :
    store.held user card = 0 ↔ store.binder.get? ⟨user, card⟩ = none := by
  cases found : store.binder.get? ⟨user, card⟩ with
  | none => simp [held, found]
  | some entry =>
      obtain ⟨holding, positive⟩ := valid.get?_binder found
      simp only [reduceCtorEq, iff_false]
      omega

theorem settle_eq_ok {α : Type} {outcome : Except Storage.Fault (α × Store)} {value : α}
    (settled : store.settle outcome = (.ok value, after)) : outcome = .ok (value, after) := by
  rcases outcome with fault | ⟨value', changed⟩
  · simp [settle] at settled
  · obtain ⟨rfl, rfl⟩ : value' = value ∧ changed = after := by simpa [settle] using settled
    rfl

theorem addToBinder_eq_withHolding {entry : BinderEntry}
    (added : store.addToBinder user card quantity moment = .ok (entry, after)) :
    entry.quantity = store.held user card + quantity ∧
      after = store.withHolding user card (some entry) := by
  obtain ⟨-, -, -, put⟩ := addToBinder_eq_ok_iff.mp added
  obtain ⟨-, rfl, rfl⟩ := putInBinder_eq_ok_iff.mp put
  exact ⟨rfl, rfl⟩

theorem setInBinder_eq_withHolding {entry : BinderEntry}
    (set : store.setInBinder user card quantity moment = .ok (entry, after)) :
    after = store.withHolding user card (some entry) := by
  obtain ⟨-, put⟩ := setInBinder_eq_ok_iff.mp set
  obtain ⟨-, rfl, rfl⟩ := putInBinder_eq_ok_iff.mp put
  rfl

theorem addToDeck_eq_withEntry {entry : DeckEntry}
    (added : store.addToDeck deck card zone quantity moment = .ok (entry, after)) :
    after = store.withEntry deck card zone (some entry) := by
  obtain ⟨-, -, -, put⟩ := addToDeck_eq_ok_iff.mp added
  obtain ⟨-, rfl, rfl⟩ := putInDeck_eq_ok_iff.mp put
  rfl

theorem setInDeck_eq_withEntry {entry : DeckEntry}
    (set : store.setInDeck deck card zone quantity moment = .ok (entry, after)) :
    entry.zone = zone ∧ after = store.withEntry deck card zone (some entry) := by
  obtain ⟨-, put⟩ := setInDeck_eq_ok_iff.mp set
  obtain ⟨-, rfl, rfl⟩ := putInDeck_eq_ok_iff.mp put
  exact ⟨rfl, rfl⟩

end Memory.Store

namespace Ledger

/-- The entry a removal has left, if any. -/
def Removal.entry? : Removal → Option DeckEntry
  | remaining entry => some entry
  | emptied _ => none

theorem Removal.elim_entry? (removal : Removal) :
    removal.entry?.elim 0 DeckEntry.quantity = removal.quantity := by
  cases removal <;> rfl

variable {moments : Nat → Moment} {store : Store} {α β : Type}

/-- Where a rule succeeds, a condition holds of its result and of the tables it leaves. -/
def Reports (moments : Nat → Moment) (store : Store) (rule : Ledger α)
    (shown : α → Store → Prop) : Prop :=
  ∀ drawn, rule.Ends (answerNext moments) .storage ⟨store, drawn⟩
    (fun value after => shown value after.store) fun _ _ => True

section Reports

variable {shown : α → Store → Prop}

theorem Reports.pure {value : α} (holds : shown value store) :
    Reports moments store (pure value) shown :=
  fun _ => (Procedure.ends_pure value).mpr holds

theorem Reports.bind {first : Ledger α} {second : α → Ledger β} {shown' : β → Store → Prop}
    (reports : Reports moments store first shown)
    (reports' : ∀ value after, shown value after → Reports moments after (second value) shown') :
    Reports moments store (first >>= second) shown' := by
  intro drawn
  rw [Procedure.ends_bind]
  refine (reports drawn).mono ?_ fun _ _ _ => trivial
  rintro value ⟨after, drawn⟩ holds
  exact reports' value after holds drawn

theorem Reports.mono {shown' : α → Store → Prop} {rule : Ledger α}
    (reports : Reports moments store rule shown)
    (weaker : ∀ value after, shown value after → shown' value after) :
    Reports moments store rule shown' :=
  fun drawn => (reports drawn).mono (fun value after => weaker value after.store)
    fun _ _ _ => trivial

/-- Two things that are reported are reported together. -/
theorem Reports.and {shown' : α → Store → Prop} {rule : Ledger α}
    (reports : Reports moments store rule shown) (reports' : Reports moments store rule shown') :
    Reports moments store rule fun value after => shown value after ∧ shown' value after :=
  fun drawn => ((reports drawn).and (reports' drawn)).mono_ok fun _ _ both => both

/-- A request reports what its answer comes with. -/
theorem Reports.ask {request : Request} {shown : request.Reply → Store → Prop}
    (answers : ∀ moment reply after, store.answer moment request = (.ok reply, after) →
      shown reply after) : Reports moments store (Ledger.ask request) shown := by
  intro drawn
  rw [ends_ask]
  rcases answered : store.answer (moments drawn) request with ⟨fault | reply, after⟩
  · trivial
  · exact answers _ _ _ answered

/-- What only looks at the tables leaves it to the rest of a rule to report. -/
theorem Reports.reading {request : Request} {reply : request.Reply}
    {second : request.Reply → Ledger α}
    (answers : ∀ moment, store.answer moment request = (.ok reply, store))
    (reports : Reports moments store (second reply) shown) :
    Reports moments store (Ledger.ask request >>= second) shown := by
  have read : Reports moments store (Ledger.ask request) fun given after =>
      given = reply ∧ after = store := by
    refine .ask fun moment given after answered => ?_
    obtain ⟨given, same⟩ := Prod.mk.inj (answered.symm.trans (answers moment))
    exact ⟨Except.ok.inj given, same⟩
  refine read.bind ?_
  rintro _ _ ⟨rfl, rfl⟩
  exact reports

theorem Reports.ensuring {condition : Bool} {failure : Failure} {second : Unit → Ledger α}
    (reports : condition = true → Reports moments store (second ()) shown) :
    Reports moments store (ensure condition failure >>= second) shown := by
  intro drawn
  rw [Procedure.ends_bind, ends_ensure]
  split
  · rename_i met
    exact reports met drawn
  · trivial

theorem Reports.finding {value : Option β} {failure : Failure} {second : β → Ledger α}
    (reports : ∀ row, value = some row → Reports moments store (second row) shown) :
    Reports moments store (found value failure >>= second) shown := by
  intro drawn
  rw [Procedure.ends_bind, ends_found]
  cases value with
  | none => trivial
  | some row => exact reports row rfl drawn

theorem Reports.lockingDeck {deck : Uuid} {second : Deck → Ledger α}
    (reports : ∀ row, store.decks.get? deck = some row →
      Reports moments store (second row) shown) :
    Reports moments store (lockDeck deck >>= second) shown := by
  have locking : Reports moments store (lockDeck deck) fun row after =>
      store.decks.get? deck = some row ∧ after = store := by
    refine .reading (fun _ => rfl) fun drawn => ?_
    rw [ends_found]
    split
    · rename_i row found
      have member := List.mem_reverse.mp (List.mem_of_find?_eq_some found)
      obtain ⟨id, asked, stored⟩ := List.mem_filterMap.mp member
      obtain rfl := List.mem_singleton.mp asked
      exact ⟨stored, rfl⟩
    · trivial
  refine locking.bind ?_
  rintro row after ⟨found, same⟩
  obtain rfl : store = after := same.symm
  exact reports row found

theorem Reports.ensuringCapacity {deck : Deck} {quantity : Int} {second : Unit → Ledger α}
    (reports : Reports moments store (second ()) shown) :
    Reports moments store (ensureCapacity deck quantity >>= second) shown := by
  have checked : Reports moments store (ensureCapacity deck quantity) fun _ after =>
      after = store := by
    refine .reading (fun _ => rfl) fun drawn => ?_
    rw [Procedure.ends_ofExcept]
    split
    · rfl
    · trivial
  refine checked.bind ?_
  rintro _ _ rfl
  exact reports

end Reports

/-! ## Rules -/

section Rules

variable (user card deck : Uuid) (quantity : Int)

theorem credit_reports :
    Reports moments store (credit user card quantity) fun entry after =>
      entry.quantity = store.held user card + quantity ∧
        after = store.withHolding user card (some entry) := by
  refine .ensuring fun _ => .reading (fun _ => rfl) <| .ensuring fun _ =>
    .reading (fun _ => rfl) <| .ensuring fun _ => .reading (fun _ => rfl) <| .ensuring fun _ =>
      .ask fun moment entry after answered => ?_
  exact Store.addToBinder_eq_withHolding (Store.settle_eq_ok answered)

theorem debit_reports :
    Reports moments store (debit user card quantity) fun left after =>
      after = store.withHolding user card left := by
  refine .ensuring fun _ => .reading (fun _ => rfl) <| .finding fun entry _ => .ensuring fun _ => ?_
  split
  · have erasing : Reports moments store (ask (.deleteFromBinder user card)) fun _ after =>
        after = store.withHolding user card none :=
      .ask fun _ _ _ answered => (Prod.mk.inj answered).2.symm
    exact erasing.bind fun _ _ erased => .pure erased
  · refine .bind (.ask fun moment entry after answered => ?_) fun _ _ stored => .pure stored
    exact Store.setInBinder_eq_withHolding (Store.settle_eq_ok answered)

theorem addToZone_reports (zone : Zone) :
    Reports moments store (addToZone deck card quantity zone) fun entry after =>
      after = store.withEntry deck card zone (some entry) := by
  refine .ensuring fun _ => .reading (fun _ => rfl) <| .ensuring fun _ =>
    .reading (fun _ => rfl) <| .ensuring fun _ => .reading (fun _ => rfl) <| .ensuring fun _ =>
      .ask fun moment entry after answered => ?_
  exact Store.addToDeck_eq_withEntry (Store.settle_eq_ok answered)

theorem firstEntry_reports (zones : List Zone) :
    Reports moments store (firstEntry deck card zones) fun entry after =>
      (zones.findSome? fun zone => store.entries.get? ⟨deck, card, zone⟩) = some entry ∧
        after = store :=
  fun _ => (firstEntry_ends deck card zones).mono (fun _ _ known => known) fun _ _ _ => trivial

/-- A removal results in what is left of an entry, in one of the zones it looks at. -/
theorem removeFromZone_reports (valid : store.Valid) (zone : Option Zone) :
    Reports moments store (removeFromZone deck card quantity zone) fun removal after =>
      removal.zone ∈ removalZones zone ∧
        after = store.withEntry deck card removal.zone removal.entry? := by
  refine .ensuring fun _ => .bind (firstEntry_reports card deck _) ?_
  rintro entry between ⟨found, same⟩
  obtain rfl : store = between := same.symm
  obtain ⟨member, -⟩ := Store.removalEntry?_eq_some valid found
  refine .ensuring fun _ => ?_
  split
  · have erasing : Reports moments store (ask (.deleteFromDeck deck card entry.zone))
        fun _ after => after = store.withEntry deck card entry.zone none :=
      .ask fun _ _ _ answered => (Prod.mk.inj answered).2.symm
    exact erasing.bind fun _ _ erased => .pure ⟨member, erased⟩
  · have setting : Reports moments store
        (ask (.setInDeck deck card entry.zone (entry.quantity - quantity))) fun left after =>
          left.zone = entry.zone ∧ after = store.withEntry deck card entry.zone (some left) :=
      .ask fun _ _ _ answered => Store.setInDeck_eq_withEntry (Store.settle_eq_ok answered)
    refine setting.bind ?_
    rintro left after ⟨own, stored⟩
    rw [← own] at member stored
    exact .pure ⟨member, stored⟩

/-- An allocation results in the row of the deck it ends with. -/
theorem allocate_reports (zone : Zone) :
    Reports moments store (allocate deck card quantity zone) fun entry after =>
      ∃ row left, store.decks.get? deck = some row ∧
        after = (store.withHolding row.owner card left).withEntry deck card zone (some entry) := by
  refine .ensuring fun _ => .lockingDeck fun row found => .reading (fun _ => rfl) <|
    .ensuring fun _ => .ensuringCapacity ?_
  refine .reading (fun _ => rfl) <| .ensuring fun _ => .bind (debit_reports row.owner card quantity)
    ?_
  rintro left _ rfl
  exact Reports.mono (addToZone_reports card deck quantity zone) fun entry after stored =>
    ⟨row, left, found, stored⟩

/-- A deallocation results in what is left in the deck it ends with. -/
theorem deallocate_reports (valid : store.Valid) (zone : Option Zone) :
    Reports moments store (deallocate deck card quantity zone) fun removal after =>
      ∃ row holding, store.decks.get? deck = some row ∧
        after = (store.withEntry deck card removal.zone removal.entry?).withHolding row.owner card
          holding := by
  refine .ensuring fun _ => .lockingDeck fun row found =>
    .bind (removeFromZone_reports card deck quantity valid zone) ?_
  rintro removal _ ⟨-, rfl⟩
  refine .bind (credit_reports row.owner card quantity) ?_
  rintro entry _ ⟨-, rfl⟩
  exact .pure ⟨row, some entry, found, rfl⟩

theorem moveZone_reports (valid : store.Valid) (source target : Zone) :
    Reports moments store (moveZone deck card quantity source target) fun moved after =>
      source ≠ target ∧ moved.source.zone = source ∧
        (∃ row, store.decks.get? deck = some row) ∧
        after = (store.withEntry deck card source moved.source.entry?).withEntry deck card target
          (some moved.target) := by
  refine .ensuring fun _ => .ensuring fun different => .lockingDeck fun row found =>
    .bind (removeFromZone_reports card deck quantity valid (some source)) ?_
  rintro removal _ ⟨member, rfl⟩
  obtain rfl : removal.zone = source := List.mem_singleton.mp member
  refine .bind (addToZone_reports card deck quantity target) ?_
  rintro entry _ rfl
  exact .pure ⟨of_decide_eq_true different, rfl, ⟨row, found⟩, rfl⟩

/-- A transfer results in what is left in the one deck and in the row of the other. -/
theorem transfer_reports (valid : store.Valid) (source destination : Uuid) (zone : Option Zone) :
    Reports moments store (transfer source destination card quantity zone) fun outcome after =>
      source ≠ destination ∧
        (∃ sourceRow row taken left, store.decks.get? source = some sourceRow ∧
          store.decks.get? destination = some row ∧
          after = ((((store.withEntry source card outcome.source.zone outcome.source.entry?
            ).withHolding sourceRow.owner card taken).withHolding row.owner card left).withEntry
              destination card .main (some outcome.destination))) := by
  refine .ensuring fun _ => .ensuring fun different => .reading (fun _ => rfl) <|
    .finding fun _ _ => .finding fun _ _ => .ensuring fun _ => .ensuringCapacity <|
      .bind (deallocate_reports card source quantity valid zone) ?_
  rintro removal _ ⟨sourceRow, holding, sourceFound, rfl⟩
  refine .bind (allocate_reports card destination quantity .main) ?_
  rintro entry _ ⟨row, left, found, rfl⟩
  exact .pure ⟨of_decide_eq_true different, sourceRow, row, holding, left, sourceFound, found, rfl⟩

end Rules

/-! ## Copies that are returned -/

section Totals

/-- The sum of what a list of totals has for a card. -/
def totalFor (card : Uuid) (totals : List (Uuid × Int)) : Int :=
  totalOf ((totals.filter fun total => total.1 = card).map Prod.snd)

theorem totalFor_cons (card : Uuid) (total : Uuid × Int) (rest : List (Uuid × Int)) :
    totalFor card (total :: rest) =
      (if total.1 = card then total.2 else 0) + totalFor card rest := by
  by_cases own : total.1 = card <;> simp [totalFor, own]

theorem totalFor_addTotal (card other : Uuid) (quantity : Int) (totals : List (Uuid × Int)) :
    totalFor card (addTotal other quantity totals) =
      (if other = card then quantity else 0) + totalFor card totals := by
  induction totals with
  | nil => exact totalFor_cons card (other, quantity) []
  | cons head rest ih =>
      obtain ⟨first, total⟩ := head
      rw [addTotal]
      split
      · rename_i same
        subst same
        rw [totalFor_cons, totalFor_cons]
        split <;> omega
      · split
        · rw [totalFor_cons]
        · rw [totalFor_cons, totalFor_cons, ih]
          omega

theorem totalFor_totalsByCard (card : Uuid) (entries : List DeckEntry) :
    totalFor card (totalsByCard entries) = Store.copiesOf card entries := by
  have sums : ∀ totals : List (Uuid × Int),
      totalFor card (entries.foldl (fun totals entry => addTotal entry.card entry.quantity totals)
        totals) = totalFor card totals + Store.copiesOf card entries := by
    induction entries with
    | nil => simp [Store.copiesOf]
    | cons entry rest ih =>
        intro totals
        rw [List.foldl_cons, ih, totalFor_addTotal, Store.copiesOf_cons]
        omega
  rw [totalsByCard, sums]
  simp [totalFor]

/-- A total that is added to is that of its card, and the other cards keep theirs. -/
theorem mem_cards_addTotal {card other : Uuid} {quantity : Int} {totals : List (Uuid × Int)} :
    other ∈ (addTotal card quantity totals).map Prod.fst ↔
      other = card ∨ other ∈ totals.map Prod.fst := by
  induction totals with
  | nil => simp [addTotal]
  | cons head rest ih =>
      rw [addTotal]
      split
      · rename_i same
        simp [same]
      · split
        · simp
        · simp only [List.map_cons, List.mem_cons, ih]
          rw [or_left_comm]

/-- Totals stay in the order of their cards. -/
theorem pairwise_addTotal (card : Uuid) (quantity : Int) {totals : List (Uuid × Int)}
    (ordered : totals.Pairwise fun left right => left.1.rank < right.1.rank) :
    (addTotal card quantity totals).Pairwise fun left right => left.1.rank < right.1.rank := by
  induction totals with
  | nil => exact List.pairwise_singleton _ _
  | cons head rest ih =>
      obtain ⟨first, sum⟩ := head
      obtain ⟨behind, later⟩ := List.pairwise_cons.mp ordered
      rw [addTotal]
      split
      · exact List.pairwise_cons.mpr ⟨behind, later⟩
      · rename_i different
        split
        · rename_i before
          refine List.pairwise_cons.mpr ⟨fun total member => ?_, ordered⟩
          rcases List.mem_cons.mp member with rfl | listed
          · exact before
          · exact Nat.lt_trans before (behind total listed)
        · rename_i after
          refine List.pairwise_cons.mpr ⟨fun total member => ?_, ih later⟩
          rcases mem_cards_addTotal.mp (List.mem_map_of_mem member) with own | listed
          · have ranks : first.rank ≠ card.rank := fun ranks =>
              different (Uuid.rank_injective ranks).symm
            have ordered : first.rank < card.rank := by omega
            exact own ▸ ordered
          · obtain ⟨other, listed, same⟩ := List.mem_map.mp listed
            exact same ▸ behind other listed

/-- Totals in the order of their cards have one for each card. -/
theorem nodup_of_ordered {totals : List (Uuid × Int)}
    (ordered : totals.Pairwise fun left right => left.1.rank < right.1.rank) :
    (totals.map Prod.fst).Nodup :=
  List.pairwise_map.mpr (ordered.imp fun before same =>
    absurd (congrArg Uuid.rank same) (Nat.ne_of_lt before))

/-- The totals of cards are in the order of the cards, one for each. -/
theorem pairwise_totalsByCard (entries : List DeckEntry) :
    (totalsByCard entries).Pairwise fun left right => left.1.rank < right.1.rank := by
  have ordered : ∀ totals : List (Uuid × Int),
      (totals.Pairwise fun left right => left.1.rank < right.1.rank) →
      (entries.foldl (fun totals entry => addTotal entry.card entry.quantity totals)
        totals).Pairwise fun left right => left.1.rank < right.1.rank := by
    induction entries with
    | nil => exact fun _ ordered => ordered
    | cons entry rest ih =>
        exact fun totals ordered => ih _ (pairwise_addTotal entry.card entry.quantity ordered)
  exact ordered [] .nil

/-- The cards that have a total are those of the entries. -/
theorem mem_cards_totalsByCard {entries : List DeckEntry} {card : Uuid} :
    card ∈ (totalsByCard entries).map Prod.fst ↔ ∃ entry ∈ entries, entry.card = card := by
  have listed : ∀ totals : List (Uuid × Int),
      card ∈ (entries.foldl (fun totals entry => addTotal entry.card entry.quantity totals)
        totals).map Prod.fst ↔
      (∃ entry ∈ entries, entry.card = card) ∨ card ∈ totals.map Prod.fst := by
    induction entries with
    | nil => simp
    | cons entry rest ih =>
        intro totals
        rw [List.foldl_cons, ih, mem_cards_addTotal]
        simp only [List.mem_cons, exists_eq_or_imp, @eq_comm _ card]
        rw [or_left_comm, or_assoc]
  rw [totalsByCard, listed]
  simp

/-- A total by card is the number of copies of its card. -/
theorem copiesOf_of_mem_totalsByCard {entries : List DeckEntry} {total : Uuid × Int}
    (member : total ∈ totalsByCard entries) : total.2 = Store.copiesOf total.1 entries := by
  have distinct := nodup_of_ordered (pairwise_totalsByCard entries)
  rw [← totalFor_totalsByCard, totalFor, Store.filter_eq_singleton distinct member]
  simp

/-- The totals by card are the numbers of copies of the cards that are listed. -/
theorem mem_totalsByCard {entries : List DeckEntry} {card : Uuid} {amount : Int} :
    (card, amount) ∈ totalsByCard entries ↔
      (∃ entry ∈ entries, entry.card = card) ∧ amount = Store.copiesOf card entries := by
  constructor
  · intro member
    exact ⟨mem_cards_totalsByCard.mp (List.mem_map_of_mem member),
      copiesOf_of_mem_totalsByCard member⟩
  · rintro ⟨present, rfl⟩
    obtain ⟨⟨card', amount⟩, member, own⟩ :=
      List.mem_map.mp (mem_cards_totalsByCard.mpr present)
    obtain rfl : card' = card := own
    exact copiesOf_of_mem_totalsByCard member ▸ member

end Totals

theorem creditAll_reports (owner : Uuid) (entries : List DeckEntry) :
    Reports moments store (creditAll owner entries) fun _ after =>
      ∀ card, after.held owner card = store.held owner card + Store.copiesOf card entries := by
  induction entries generalizing store with
  | nil => exact .pure fun card => by simp [Store.copiesOf]
  | cons entry rest ih =>
      refine .bind (credit_reports owner entry.card entry.quantity) ?_
      rintro row _ ⟨grown, rfl⟩
      refine Reports.mono ih fun _ after sums card => ?_
      rw [sums, Store.held_withHolding, Store.copiesOf_cons, Option.elim_some, grown]
      by_cases own : card = entry.card
      · subst own
        simp
        omega
      · simp [own, Ne.symm own]

end Ledger

end CardInventory
