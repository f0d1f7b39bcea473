import CardInventory.Inventory.Rules
import CardInventory.Proofs.Memory.Listing
import Mathlib.Data.List.ProdSigma
import Mathlib.Data.List.Perm.Subperm

/-!
# Sums over a deck in machine words

A machine adds and subtracts words of so many bits and has no result where it leaves
their range. A deck has at most two entries for each printing that is registered, and
each of them holds less than 2 ^ 31 copies. So where fewer than 2 ^ 31 printings are
registered every sum over the entries of a deck, in whatever order it is made, takes 64
bits and leaves room for another 32-bit number.
-/

namespace CardInventory

namespace Width

/-- A number if it takes so many bits. -/
def word (bits : Nat) (value : Int) : Option Int :=
  if fits bits value then some value else none

/-- The sum of two words. -/
def add (bits : Nat) (left right : Int) : Option Int :=
  word bits (left + right)

/-- The difference of two words. -/
def sub (bits : Nat) (left right : Int) : Option Int :=
  word bits (left - right)

/-- The sum of words that are added to zero one after another. -/
def sum (bits : Nat) (values : List Int) : Option Int :=
  values.foldlM (add bits) 0

variable {bits : Nat}

theorem least_nonpos (bits : Nat) : least bits ≤ 0 := by
  simp [least]

theorem word_of_nonneg {value : Int} (nonneg : 0 ≤ value) (small : value ≤ greatest bits) :
    word bits value = some value := by
  have least := least_nonpos bits
  have inside : fits bits value = true := by
    simp only [fits, Bool.and_eq_true, decide_eq_true_eq]
    omega
  rw [word, if_pos inside]

/-- Where a sum takes so many bits, so do the sums of its first numbers if none is negative. -/
theorem foldlM_add {values : List Int} {start : Int} (nonneg : 0 ≤ start)
    (others : ∀ value ∈ values, 0 ≤ value) (small : start + totalOf values ≤ greatest bits) :
    values.foldlM (add bits) start = some (start + totalOf values) := by
  induction values generalizing start with
  | nil => simp
  | cons value rest ih =>
      obtain ⟨first, others⟩ := List.forall_mem_cons.mp others
      have remaining := Memory.Table.totalOf_nonneg others
      rw [totalOf_cons, ← Int.add_assoc] at small ⊢
      have next : add bits start value = some (start + value) :=
        word_of_nonneg (by omega) (by omega)
      rw [List.foldlM_cons, next]
      exact ih (by omega) others small

theorem sum_eq_totalOf {values : List Int} (nonneg : ∀ value ∈ values, 0 ≤ value)
    (small : totalOf values ≤ greatest bits) : sum bits values = some (totalOf values) := by
  have added : values.foldlM (add bits) 0 = some (0 + totalOf values) :=
    foldlM_add (Int.le_refl 0) nonneg (by rwa [Int.zero_add])
  rwa [Int.zero_add] at added

end Width

/-! ## The entries of a deck -/

namespace Memory.Store

variable {store : Store}

/-- The keys of the printings that are registered, once for each zone. -/
def slots (store : Store) : List (Uuid × Zone) :=
  store.cards.rows.map Prod.fst ×ˢ [.main, .sideboard]

theorem length_slots (store : Store) : store.slots.length = store.cards.size * 2 := by
  simp [slots, List.length_product, Table.size]

theorem mem_slots {card : Uuid} (registered : store.cards.contains card = true) (zone : Zone) :
    (card, zone) ∈ store.slots := by
  obtain ⟨row, found⟩ := Table.contains_iff.mp registered
  have member := List.mem_map_of_mem (f := Prod.fst) (Table.get?_eq_some_iff.mp found)
  refine List.mem_product.mpr ⟨member, ?_⟩
  cases zone <;> simp

/-- A deck has at most one entry for each printing and zone. -/
theorem length_scanDeck_le (valid : store.Valid) (deck : Uuid) :
    (store.scanDeck deck).length ≤ store.cards.size * 2 := by
  have known : (store.scanDeck deck).map slot ⊆ store.slots := by
    intro place member
    obtain ⟨entry, listed, rfl⟩ := List.mem_map.mp member
    obtain ⟨key, found, -⟩ := mem_scanDeck listed
    have sound := valid.entries found
    have card : store.cards.contains entry.card = true := by
      rw [show entry.card = key.card from congrArg EntryKey.card sound.keyed]
      exact sound.card
    exact mem_slots card entry.zone
  have bound := ((nodup_scanDeck valid deck).subperm known).length_le
  rwa [List.length_map, length_slots] at bound

theorem totalOf_le {quantities : List Int} {bound : Int} (nonneg : 0 ≤ bound)
    (each : ∀ quantity ∈ quantities, quantity ≤ bound) {limit : Nat}
    (few : quantities.length ≤ limit) : totalOf quantities ≤ limit * bound := by
  induction quantities generalizing limit with
  | nil => exact Int.mul_nonneg (Int.natCast_nonneg limit) nonneg
  | cons quantity rest ih =>
      obtain ⟨first, others⟩ := List.forall_mem_cons.mp each
      cases limit with
      | zero => simp at few
      | succ limit =>
          have later := ih others (Nat.le_of_succ_le_succ few)
          rw [totalOf_cons, Int.natCast_succ, Int.add_mul, Int.one_mul]
          omega

/-- The copies in a deck and another 32-bit number together take 64 bits. -/
theorem deckTotal_le (valid : store.Valid) (few : store.cards.size < Width.values 31)
    (deck : Uuid) : store.deckTotal deck ≤ Width.greatest 64 - Width.values 31 := by
  have each : ∀ quantity ∈ (store.scanDeck deck).map DeckEntry.quantity,
      quantity ≤ Width.greatest 32 := by
    intro quantity member
    obtain ⟨entry, listed, rfl⟩ := List.mem_map.mp member
    exact (scanDeck_quantity valid listed).2
  have entries : ((store.scanDeck deck).map DeckEntry.quantity).length ≤
      (Width.values 31 - 1) * 2 := by
    have bound := length_scanDeck_le valid deck
    rw [List.length_map]
    omega
  have total := totalOf_le (by decide) each entries
  have room : (((Width.values 31 - 1) * 2 : Nat) : Int) * Width.greatest 32 ≤
      Width.greatest 64 - Width.values 31 := by decide
  exact Int.le_trans total room

theorem deckTotal_nonneg (valid : store.Valid) (deck : Uuid) : 0 ≤ store.deckTotal deck := by
  refine Table.totalOf_nonneg fun quantity member => ?_
  obtain ⟨entry, listed, rfl⟩ := List.mem_map.mp member
  exact Int.le_trans (by decide) (scanDeck_quantity valid listed).1

theorem totalOf_entriesOf (valid : store.Valid) (deck : Uuid) :
    totalOf ((store.entriesOf deck).map DeckEntry.quantity) = store.deckTotal deck :=
  totalOf_perm ((entriesOf_perm valid deck).map _)

end Memory.Store

/-! ## Totals of zones and of cards -/

namespace Inventory

/-- The totals of a deck with the given entries, in words of 64 bits. -/
def tallyTotals (id : Uuid) (capacity : Option Int) (entries : List DeckEntry) :
    Option DeckTotals := do
  let quantities := fun zone =>
    (entries.filter fun entry => entry.zone = zone).map DeckEntry.quantity
  let main ← Width.sum 64 (quantities .main)
  let sideboard ← Width.sum 64 (quantities .sideboard)
  return ⟨id, main, sideboard, ← Width.add 64 main sideboard, capacity⟩

theorem zoneTotal_cons (zone : Zone) (entry : DeckEntry) (rest : List DeckEntry) :
    zoneTotal zone (entry :: rest) =
      (if entry.zone = zone then entry.quantity else 0) + zoneTotal zone rest := by
  by_cases own : entry.zone = zone <;> simp [zoneTotal, own]

theorem zoneTotal_nonneg {entries : List DeckEntry}
    (positive : ∀ entry ∈ entries, 0 ≤ entry.quantity) (zone : Zone) :
    0 ≤ zoneTotal zone entries := by
  refine Memory.Table.totalOf_nonneg fun quantity member => ?_
  obtain ⟨entry, listed, rfl⟩ := List.mem_map.mp member
  exact positive entry (List.mem_filter.mp listed).1

/-- The copies in the two zones are all copies. -/
theorem zoneTotal_add (entries : List DeckEntry) :
    zoneTotal .main entries + zoneTotal .sideboard entries =
      totalOf (entries.map DeckEntry.quantity) := by
  induction entries with
  | nil => rfl
  | cons entry rest ih =>
      rw [zoneTotal_cons, zoneTotal_cons, List.map_cons, totalOf_cons, ← ih]
      cases entry.zone <;> simp <;> omega

/-- Where the sums of the zones and of both together take 64 bits, so do the totals. -/
theorem tallyTotals_eq {entries : List DeckEntry}
    (zones : ∀ zone, Width.sum 64 ((entries.filter fun entry => entry.zone = zone).map
      DeckEntry.quantity) = some (zoneTotal zone entries))
    (both : Width.add 64 (zoneTotal .main entries) (zoneTotal .sideboard entries) =
      some (zoneTotal .main entries + zoneTotal .sideboard entries))
    (id : Uuid) (capacity : Option Int) :
    tallyTotals id capacity entries = some (totalsOf id capacity entries) := by
  simp only [tallyTotals, zones, both, totalsOf, Option.bind_eq_bind, Option.bind_some,
    Option.pure_def]

end Inventory

namespace Ledger

/-- Check a limit against a total and the copies that are to be added to it, in words of
64 bits. -/
def weighCapacity (limit : Option Int) (current attempted : Int) : Option (Except Failure Unit) :=
  match limit with
  | some limit => do
      let total ← Width.add 64 current attempted
      return if limit < total then .error (.overCapacity current limit attempted) else .ok ()
  | none => some (.ok ())

/-- Where the sum takes 64 bits, the check in words is that in whole numbers. -/
theorem weighCapacity_eq {current attempted : Int}
    (added : Width.add 64 current attempted = some (current + attempted)) (limit : Option Int) :
    weighCapacity limit current attempted = some (checkCapacity limit current attempted) := by
  cases limit with
  | none => rfl
  | some limit =>
      simp only [weighCapacity, added, checkCapacity, Option.bind_eq_bind, Option.bind_some,
        Option.pure_def]

/-- Add a quantity to that of a card in a list of totals, in words of 64 bits. -/
def tally (card : Uuid) (quantity : Int) : List (Uuid × Int) → Option (List (Uuid × Int))
  | [] => do return [(card, ← Width.add 64 0 quantity)]
  | (other, total) :: rest => do
      if card = other then return (other, ← Width.add 64 total quantity) :: rest
      else if card.rank < other.rank then
        return (card, ← Width.add 64 0 quantity) :: (other, total) :: rest
      else return (other, total) :: (← tally card quantity rest)

/-- The copies of each card in a list of entries, in words of 64 bits. -/
def tallyByCard (entries : List DeckEntry) : Option (List (Uuid × Int)) :=
  entries.foldlM (fun totals entry => tally entry.card entry.quantity totals) []

variable {card : Uuid} {quantity : Int} {totals : List (Uuid × Int)}

theorem totalOf_addTotal (card : Uuid) (quantity : Int) (totals : List (Uuid × Int)) :
    totalOf ((addTotal card quantity totals).map Prod.snd) =
      totalOf (totals.map Prod.snd) + quantity := by
  induction totals with
  | nil => simp [addTotal]
  | cons head rest ih =>
      obtain ⟨other, total⟩ := head
      rw [addTotal]
      split
      · simp only [List.map_cons, totalOf_cons]
        omega
      · split
        · simp only [List.map_cons, totalOf_cons]
          omega
        · simp only [List.map_cons, totalOf_cons, ih]
          omega

theorem addTotal_nonneg (nonneg : 0 ≤ quantity) (others : ∀ entry ∈ totals, 0 ≤ entry.2) :
    ∀ entry ∈ addTotal card quantity totals, 0 ≤ entry.2 := by
  induction totals with
  | nil =>
      rintro entry member
      obtain rfl := List.mem_singleton.mp member
      exact nonneg
  | cons head rest ih =>
      obtain ⟨first, later⟩ := List.forall_mem_cons.mp others
      rw [addTotal]
      split
      · exact List.forall_mem_cons.mpr ⟨Int.add_nonneg first nonneg, later⟩
      · split
        · exact List.forall_mem_cons.mpr ⟨nonneg, others⟩
        · exact List.forall_mem_cons.mpr ⟨first, ih later⟩

theorem tally_eq_addTotal (nonneg : 0 ≤ quantity) (others : ∀ entry ∈ totals, 0 ≤ entry.2)
    (small : totalOf (totals.map Prod.snd) + quantity ≤ Width.greatest 64) :
    tally card quantity totals = some (addTotal card quantity totals) := by
  induction totals with
  | nil =>
      have new : Width.add 64 0 quantity = some quantity := by
        rw [Width.add, Int.zero_add]
        simp only [List.map_nil, totalOf_nil] at small
        exact Width.word_of_nonneg nonneg (by omega)
      simp only [tally, new, addTotal, Option.bind_eq_bind, Option.bind_some, Option.pure_def]
  | cons head rest ih =>
      obtain ⟨other, total⟩ := head
      obtain ⟨first, later⟩ := List.forall_mem_cons.mp others
      have remaining : 0 ≤ totalOf (rest.map Prod.snd) :=
        Memory.Table.totalOf_nonneg (List.forall_mem_map.mpr later)
      simp only [List.map_cons, totalOf_cons] at small first
      have grown : Width.add 64 total quantity = some (total + quantity) :=
        Width.word_of_nonneg (by omega) (by omega)
      have new : Width.add 64 0 quantity = some quantity := by
        rw [Width.add, Int.zero_add]
        exact Width.word_of_nonneg nonneg (by omega)
      rw [tally, addTotal]
      split
      · simp only [grown, Option.bind_eq_bind, Option.bind_some, Option.pure_def]
      · split
        · simp only [new, Option.bind_eq_bind, Option.bind_some, Option.pure_def]
        · simp only [ih later (by omega), Option.bind_eq_bind, Option.bind_some, Option.pure_def]

/-- Where all quantities together take 64 bits, so does the total of each card. -/
theorem foldlM_tally {entries : List DeckEntry} (others : ∀ entry ∈ totals, 0 ≤ entry.2)
    (positive : ∀ entry ∈ entries, 0 ≤ entry.quantity)
    (small : totalOf (totals.map Prod.snd) + totalOf (entries.map DeckEntry.quantity) ≤
      Width.greatest 64) :
    entries.foldlM (fun totals entry => tally entry.card entry.quantity totals) totals =
      some (entries.foldl (fun totals entry => addTotal entry.card entry.quantity totals)
        totals) := by
  induction entries generalizing totals with
  | nil => rfl
  | cons entry rest ih =>
      obtain ⟨nonneg, later⟩ := List.forall_mem_cons.mp positive
      have remaining : 0 ≤ totalOf (rest.map DeckEntry.quantity) :=
        Memory.Table.totalOf_nonneg (List.forall_mem_map.mpr later)
      rw [List.map_cons, totalOf_cons] at small
      rw [List.foldlM_cons, tally_eq_addTotal nonneg others (by omega), List.foldl_cons]
      refine ih (addTotal_nonneg nonneg others) later ?_
      rw [totalOf_addTotal]
      omega

theorem totalOf_foldl_addTotal (entries : List DeckEntry) (totals : List (Uuid × Int)) :
    totalOf ((entries.foldl (fun totals entry => addTotal entry.card entry.quantity totals)
        totals).map Prod.snd) =
      totalOf (totals.map Prod.snd) + totalOf (entries.map DeckEntry.quantity) := by
  induction entries generalizing totals with
  | nil => simp
  | cons entry rest ih =>
      rw [List.foldl_cons, ih, totalOf_addTotal, List.map_cons, totalOf_cons]
      omega

theorem tallyByCard_eq {entries : List DeckEntry}
    (positive : ∀ entry ∈ entries, 0 ≤ entry.quantity)
    (small : totalOf (entries.map DeckEntry.quantity) ≤ Width.greatest 64) :
    tallyByCard entries = some (totalsByCard entries) :=
  foldlM_tally (by simp) positive (by simpa using small)

/-- The totals of the cards add up to all copies. -/
theorem totalOf_totalsByCard (entries : List DeckEntry) :
    totalOf ((totalsByCard entries).map Prod.snd) = totalOf (entries.map DeckEntry.quantity) := by
  rw [totalsByCard, totalOf_foldl_addTotal]
  simp

theorem totalsByCard_nonneg {entries : List DeckEntry}
    (positive : ∀ entry ∈ entries, 0 ≤ entry.quantity) :
    ∀ total ∈ totalsByCard entries, 0 ≤ total.2 := by
  have kept : ∀ totals : List (Uuid × Int), (∀ total ∈ totals, 0 ≤ total.2) →
      ∀ total ∈ entries.foldl (fun totals entry => addTotal entry.card entry.quantity totals)
        totals, 0 ≤ total.2 := by
    induction entries with
    | nil => exact fun _ others => others
    | cons entry rest ih =>
        obtain ⟨nonneg, later⟩ := List.forall_mem_cons.mp positive
        exact fun totals others => ih later _ (addTotal_nonneg nonneg others)
  exact kept [] (by simp)

end Ledger

end CardInventory
