import CardInventory.Proofs.Memory.Totals

/-!
# The entries of one deck

The entries of a deck lie side by side in the order of their keys, behind its
first possible entry. A scan from there up to the next deck therefore meets all
of them and no other, so the total it gives counts every copy in the deck. The
entries a listing gives are the same ones in another order.
-/

namespace CardInventory.Memory

section Lists

variable {α : Type}

/-- Where a condition once met is met ever after, to wait for it is to select it. -/
theorem dropWhile_eq_filter {condition : α → Bool} {items : List α}
    (lasting : items.Pairwise fun left right => condition left = true → condition right = true) :
    (items.dropWhile fun item => !condition item) = items.filter condition := by
  induction items with
  | nil => rfl
  | cons head rest ih =>
      obtain ⟨onward, later⟩ := List.pairwise_cons.mp lasting
      by_cases met : condition head = true
      · have all : rest.filter condition = rest :=
          List.filter_eq_self.mpr fun item member => onward item member met
        simp [met, all]
      · simpa [List.dropWhile_cons, List.filter_cons, met] using ih later

/-- Where a condition once missed is missed ever after, to stop there is to select it. -/
theorem takeWhile_eq_filter {condition : α → Bool} {items : List α}
    (ending : items.Pairwise fun left right => condition right = true → condition left = true) :
    items.takeWhile condition = items.filter condition := by
  induction items with
  | nil => rfl
  | cons head rest ih =>
      obtain ⟨onward, later⟩ := List.pairwise_cons.mp ending
      by_cases met : condition head = true
      · simp [met, ih later]
      · have none : rest.filter condition = [] :=
          List.filter_eq_nil_iff.mpr fun item member also => met (onward item member also)
        simp [met, none]

theorem totalOf_perm {left right : List Int} (perm : left.Perm right) :
    totalOf left = totalOf right := by
  induction perm with
  | nil => rfl
  | cons quantity _ ih => simp [ih]
  | swap first second rest => simp; omega
  | trans _ _ left right => exact left.trans right

theorem totalOf_map_filter (measure : α → Int) (condition : α → Bool) (items : List α) :
    totalOf ((items.filter condition).map measure) =
      totalOf (items.map fun item => if condition item = true then measure item else 0) := by
  induction items with
  | nil => rfl
  | cons head rest ih =>
      by_cases met : condition head = true <;> simp [met, ih]

end Lists

namespace Store

variable {store : Store}

/-- The keys of a deck lie between its first possible key and those of the next deck. -/
theorem notBefore_of_deck {deck : Uuid} {key : EntryKey} (own : key.deck = deck) :
    notBefore deck key = true := by
  have zero : Uuid.rank .zero = 0 := by decide
  simp only [notBefore, EntryKey.rank, own, zero, decide_eq_true_eq, Zone.rank]
  omega

theorem notBefore_of_lt {deck : Uuid} {left right : EntryKey} (ordered : left.rank < right.rank)
    (behind : notBefore deck left = true) : notBefore deck right = true := by
  simp only [notBefore, decide_eq_true_eq] at behind ⊢
  omega

theorem deck_of_between {deck : Uuid} {left right : EntryKey} (behind : notBefore deck left = true)
    (ordered : left.rank < right.rank) (own : right.deck = deck) : left.deck = deck := by
  have zero : Uuid.rank .zero = 0 := by decide
  have leftCard := rank_lt left.card
  have rightCard := rank_lt right.card
  have leftZone : left.zone.rank ≤ 1 := by cases left.zone <;> simp [Zone.rank]
  have rightZone : right.zone.rank ≤ 1 := by cases right.zone <;> simp [Zone.rank]
  apply Uuid.rank_injective
  simp only [notBefore, EntryKey.rank, own, zero, decide_eq_true_eq,
    Width.values_128] at behind ordered leftCard rightCard
  omega

/-- A scan of a deck selects its entries. -/
theorem scanDeck_eq_filter (store : Store) (deck : Uuid) :
    store.scanDeck deck =
      (store.entries.rows.filter fun row => row.1.deck = deck).map Prod.snd := by
  let behind : EntryKey × DeckEntry → Bool := fun row => notBefore deck row.1
  let own : EntryKey × DeckEntry → Bool := fun row => row.1.deck = deck
  have sorted : store.entries.rows.Pairwise fun left right => left.1.rank < right.1.rank :=
    store.entries.ascending
  have dropped : (store.entries.rows.dropWhile fun row => !behind row) =
      store.entries.rows.filter behind :=
    dropWhile_eq_filter (sorted.imp fun ordered => notBefore_of_lt ordered)
  have taken : (store.entries.rows.filter behind).takeWhile own =
      (store.entries.rows.filter behind).filter own := by
    refine takeWhile_eq_filter (List.Pairwise.imp_of_mem ?_ (sorted.filter behind))
    intro left right leftMember _ ordered rightOwn
    have leftBehind : notBefore deck left.1 = true := (List.mem_filter.mp leftMember).2
    exact decide_eq_true (deck_of_between leftBehind ordered (of_decide_eq_true rightOwn))
  have both : ∀ row, (own row && behind row) = own row := by
    intro row
    by_cases mine : row.1.deck = deck
    · simp [own, behind, mine, notBefore_of_deck mine]
    · simp [own, mine]
  calc
    store.scanDeck deck
      = ((store.entries.rows.dropWhile fun row => !behind row).takeWhile own).map Prod.snd := rfl
    _ = ((store.entries.rows.filter behind).filter own).map Prod.snd := by rw [dropped, taken]
    _ = (store.entries.rows.filter own).map Prod.snd := by simp only [List.filter_filter, both]

/-- The total of a scan counts all copies in the deck. -/
theorem deckTotal_eq_copiesIn (valid : store.Valid) (deck : Uuid) :
    store.deckTotal deck = store.copiesIn deck := by
  have sums := totalOf_map_filter (fun row : EntryKey × DeckEntry => row.2.quantity)
    (fun row => row.1.deck = deck) store.entries.rows
  rw [deckTotal, scanDeck_eq_filter, List.map_map, copiesIn, Table.total_eq_rows]
  refine sums.trans (congrArg totalOf (List.map_congr_left fun row member => ?_))
  have keyed := (valid.entries (Table.get?_eq_some_iff.mpr member)).keyed
  have entryDeck : row.2.deck = row.1.deck := congrArg EntryKey.deck keyed
  simp [countedIn, entryDeck]

/-- The copies of a card among entries. -/
def copiesOf (card : Uuid) (entries : List DeckEntry) : Int :=
  totalOf ((entries.filter fun entry => entry.card = card).map DeckEntry.quantity)

theorem copiesOf_perm (card : Uuid) {left right : List DeckEntry} (perm : left.Perm right) :
    copiesOf card left = copiesOf card right :=
  totalOf_perm ((perm.filter _).map _)

theorem copiesOf_cons (card : Uuid) (entry : DeckEntry) (rest : List DeckEntry) :
    copiesOf card (entry :: rest) =
      (if entry.card = card then entry.quantity else 0) + copiesOf card rest := by
  by_cases own : entry.card = card <;> simp [copiesOf, own]

theorem copiesOf_nonneg {card : Uuid} {entries : List DeckEntry}
    (positive : ∀ entry ∈ entries, 0 < entry.quantity) : 0 ≤ copiesOf card entries := by
  induction entries with
  | nil => simp [copiesOf]
  | cons entry rest ih =>
      have first := positive entry List.mem_cons_self
      have others := ih fun other member => positive other (List.mem_cons_of_mem _ member)
      rw [copiesOf_cons]
      split <;> omega

theorem mem_entriesOf {deck : Uuid} {entry : DeckEntry} :
    entry ∈ store.entriesOf deck ↔ entry ∈ store.entries.values ∧ entry.deck = deck := by
  simp [entriesOf, List.mem_mergeSort]

/-- What an entry contributes to the copies of a card in a deck. -/
def countedOf (deck card : Uuid) (entry : DeckEntry) : Int :=
  if entry.deck = deck ∧ entry.card = card then entry.quantity else 0

theorem total_countedOf (valid : store.Valid) (deck card : Uuid) :
    store.entries.total (countedOf deck card) = store.inDeck deck card := by
  have zones : EntryKey.mk deck card .sideboard ≠ ⟨deck, card, .main⟩ := by simp
  rw [Table.total_of_two zones]
  · have row : ∀ zone, (store.entries.get? ⟨deck, card, zone⟩).elim 0 (countedOf deck card) =
        store.placed deck card zone := by
      intro zone
      unfold placed
      cases found : store.entries.get? ⟨deck, card, zone⟩ with
      | none => rfl
      | some entry =>
          have keyed := (valid.entries found).keyed
          have entryDeck : entry.deck = deck := congrArg EntryKey.deck keyed
          have entryCard : entry.card = card := congrArg EntryKey.card keyed
          simp [countedOf, entryDeck, entryCard]
    rw [row, row, inDeck]
  · refine valid.entries.mono fun key entry sound notMain notSideboard => if_neg ?_
    rintro ⟨rfl, rfl⟩
    obtain rfl := sound.keyed
    cases zone : entry.zone with
    | main => exact notMain (by rw [zone])
    | sideboard => exact notSideboard (by rw [zone])

/-- The entries a listing of a deck gives hold what the deck holds of each card. -/
theorem copiesOf_entriesOf (valid : store.Valid) (deck card : Uuid) :
    copiesOf card (store.entriesOf deck) = store.inDeck deck card := by
  have listed : copiesOf card (store.entriesOf deck) =
      copiesOf card (store.entries.values.filter fun entry => entry.deck = deck) :=
    copiesOf_perm card (List.mergeSort_perm _ _)
  rw [listed, copiesOf, List.filter_filter, totalOf_map_filter, ← total_countedOf valid]
  refine congrArg totalOf (List.map_congr_left fun entry _ => ?_)
  simp [countedOf, and_comm]

end Store

end CardInventory.Memory
