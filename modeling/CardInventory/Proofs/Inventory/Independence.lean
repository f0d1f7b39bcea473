import CardInventory.Proofs.Inventory.Attainable
import CardInventory.Proofs.Ledger.Locality

/-!
# Independent operations

Operations on binders and decks work on a footprint of resources, which for some of them
depends on what is stored: on the owner of a deck, and on the cards in it. An operation
is determined by the resources of its footprint and leaves all others as they are. So two
operations whose footprints have nothing in common commute: in either order each comes to
what it comes to in the other, and the same is stored in the end, up to times of change.
-/

namespace CardInventory

open Memory Storage Ledger

namespace Memory.Store

/-- The owner of a deck. -/
def ownerOf (store : Store) (deck : Uuid) : Option Uuid :=
  (store.decks.get? deck).map fun row => row.owner

/-- The row of the binder of a deck's owner that copies of a card go back to. -/
def returnsTo (store : Store) (deck card : Uuid) : List Resource :=
  (store.ownerOf deck).toList.map fun owner => .holding ⟨owner, card⟩

theorem mem_returnsTo {store : Store} {deck card : Uuid} {resource : Resource} :
    resource ∈ store.returnsTo deck card ↔
      ∃ owner, store.ownerOf deck = some owner ∧ resource = .holding ⟨owner, card⟩ := by
  simp only [returnsTo, List.mem_map, Option.mem_toList, eq_comm]

end Memory.Store

namespace Inventory

/-- The resources an operation works on. Operations that create something or only read have
none here. -/
def Operation.footprint? (store : Store) : Operation → Option (List Resource)
  | .creditBinder user card _ => some [.holding ⟨user, card⟩]
  | .debitBinder user card _ => some [.holding ⟨user, card⟩]
  | .updateDeck deck _ => some [.deck deck]
  | .deleteDeck deck =>
      some (.deck deck ::
        (store.entriesOf deck).flatMap fun entry => store.returnsTo deck entry.card)
  | .allocate deck card _ _ => some (.deck deck :: store.returnsTo deck card)
  | .deallocate deck card _ _ => some (.deck deck :: store.returnsTo deck card)
  | .transfer source destination card _ _ =>
      some (.deck source :: .deck destination :: store.returnsTo source card)
  | .moveZone deck _ _ _ _ => some [.deck deck]
  | _ => none

/-- A result without the times of the last changes. -/
def Operation.untimed : (operation : Operation) → operation.Result → operation.Result
  | .creditBinder _ _ _, entry => entry.untimed
  | .debitBinder _ _ _, entry => entry.map BinderEntry.untimed
  | .updateDeck _ _, deck => deck.untimed
  | .deleteDeck _, released => released.untimed
  | .allocate _ _ _ _, entry => entry.untimed
  | .deallocate _ _ _ _, removal => removal.untimed
  | .transfer _ _ _ _ _, outcome => outcome.untimed
  | .moveZone _ _ _ _ _, moved => moved.untimed
  | _, result => result

/-- The scope an operation works within: the resources of its footprint, the owners of the decks
that are stored, and the deck it deletes, the entries of which it lists. -/
def Operation.scope (operation : Operation) (store : Store) (footprint : List Resource) :
    Scope where
  within resource := resource ∈ footprint
  ownerOf := store.ownerOf
  listed deck := operation = .deleteDeck deck

variable {store : Store} {operation : Operation} {footprint : List Resource}

/-- An operation on binders and decks works within its scope. -/
theorem task_confined (defaultCapacity : Int)
    (works : operation.footprint? store = some footprint) :
    Confined (operation.scope store footprint)
      (fun result result' => operation.untimed result = operation.untimed result')
      (operation.task defaultCapacity) (operation.task defaultCapacity) := by
  have moves {deck card : Uuid} (within : .deck deck ∈ footprint)
      (returns : ∀ resource ∈ store.returnsTo deck card, resource ∈ footprint)
      (kept : operation ≠ .deleteDeck deck) : Moves (operation.scope store footprint) deck card :=
    ⟨within, kept, fun owner own => returns _ (Store.mem_returnsTo.mpr ⟨owner, own, rfl⟩)⟩
  cases operation with
  | creditBinder user card quantity =>
      obtain rfl := Option.some.inj works
      exact credit_confined List.mem_cons_self quantity
  | debitBinder user card quantity =>
      obtain rfl := Option.some.inj works
      exact debit_confined List.mem_cons_self quantity
  | updateDeck deck patch =>
      obtain rfl := Option.some.inj works
      rw [Operation.task, Operation.rule]
      rcases checkedPatch patch with failure | patch'
      · exact .fail failure
      · exact changeDeck_confined List.mem_cons_self patch'
  | deleteDeck deck =>
      obtain rfl := Option.some.inj works
      exact releaseDeck_confined List.mem_cons_self rfl
  | allocate deck card quantity zone =>
      obtain rfl := Option.some.inj works
      exact allocate_confined (moves List.mem_cons_self
        (fun _ member => List.mem_cons_of_mem _ member) (by rintro ⟨⟩)) quantity zone
  | deallocate deck card quantity zone =>
      obtain rfl := Option.some.inj works
      exact deallocate_confined (moves List.mem_cons_self
        (fun _ member => List.mem_cons_of_mem _ member) (by rintro ⟨⟩)) quantity zone
  | transfer source destination card quantity zone =>
      obtain rfl := Option.some.inj works
      refine transfer_confined (moves List.mem_cons_self (fun _ member => ?_) (by rintro ⟨⟩)) ?_
        (by rintro ⟨⟩) quantity zone
      · exact List.mem_cons_of_mem _ (List.mem_cons_of_mem _ member)
      · exact List.mem_cons_of_mem _ List.mem_cons_self
  | moveZone deck card quantity source target =>
      obtain rfl := Option.some.inj works
      exact moveZone_confined List.mem_cons_self (by rintro ⟨⟩) card quantity source target
  | _ => cases works

/-- Valid tables that agree with others on the footprint an operation has there fit its scope. -/
theorem fits_of_agree (works : operation.footprint? store = some footprint) {other : Store}
    (valid : other.Valid) (agree : Store.Agree (· ∈ footprint) store other) :
    (operation.scope store footprint).Fits other where
  decks := by
    intro id row found within
    have rows := agree.decks within
    rw [found, Option.map_some, Option.map_eq_some_iff] at rows
    obtain ⟨own, stored, same⟩ := rows
    obtain ⟨time, rfl⟩ := Deck.untimed_eq_iff.mp same
    exact ⟨(valid.decks found).keyed, by simp [Operation.scope, Store.ownerOf, stored]⟩
  filed := valid.entries.mono fun key entry sound =>
    ⟨congrArg EntryKey.deck sound.keyed, congrArg EntryKey.card sound.keyed⟩
  returns := by
    rintro key entry found rfl
    obtain rfl := Option.some.inj works
    have within : Resource.deck key.deck ∈ Resource.deck key.deck ::
        (store.entriesOf key.deck).flatMap fun entry => store.returnsTo key.deck entry.card :=
      List.mem_cons_self
    have sound := valid.entries found
    obtain ⟨row, deckFound⟩ := Table.contains_iff.mp sound.deck
    have decks := agree.decks within
    have entries := agree.entries within
    rw [deckFound, Option.map_some, Option.map_eq_some_iff] at decks
    rw [found, Option.map_some, Option.map_eq_some_iff] at entries
    obtain ⟨row, stored, -⟩ := decks
    obtain ⟨own, ownFound, same⟩ := entries
    obtain ⟨time, rfl⟩ := DeckEntry.untimed_eq_iff.mp same
    have owner : store.ownerOf key.deck = some row.owner := by rw [Store.ownerOf, stored]; rfl
    have card : own.card = key.card := congrArg EntryKey.card sound.keyed
    have listed : own ∈ store.entriesOf key.deck := Store.mem_entriesOf.mpr
      ⟨Table.mem_values.mpr ⟨key, ownFound⟩, congrArg EntryKey.deck sound.keyed⟩
    refine ⟨row.owner, owner, List.mem_cons_of_mem _ (List.mem_flatMap.mpr ⟨own, listed, ?_⟩)⟩
    exact Store.mem_returnsTo.mpr ⟨row.owner, owner, by rw [card]⟩

/-- Two runs of an operation from depots that agree on its footprint: they come to the same up to
times, agree on the footprint afterwards, and have left all else. -/
structure SameOn (operation : Operation) (footprint : List Resource) (depot depot' : Depot)
    (outcome outcome' : Except Failure operation.Result × Depot) : Prop where
  result : Paired (fun result result' => operation.untimed result = operation.untimed result')
    outcome.1 outcome'.1
  agree : Store.Agree (· ∈ footprint) outcome.2.store outcome'.2.store
  frame : Store.Agree (fun resource => ¬resource ∈ footprint) depot.store outcome.2.store
  frame' : Store.Agree (fun resource => ¬resource ∈ footprint) depot'.store outcome'.2.store
  drawn : outcome.2.drawn + depot'.drawn = outcome'.2.drawn + depot.drawn

theorem perform_sameOn {depot depot' : Depot} (free : depot.refusal = none)
    (free' : depot'.refusal = none) (valid : depot.store.Valid) (valid' : depot'.store.Valid)
    (works : operation.footprint? depot.store = some footprint)
    (agree : Store.Agree (· ∈ footprint) depot.store depot'.store)
    (moments moments' : Nat → Moment) (defaultCapacity : Int) :
    SameOn operation footprint depot depot' (depot.perform moments defaultCapacity operation)
      (depot'.perform moments' defaultCapacity operation) := by
  have mutates : operation.mutates = true := by
    cases operation <;> first | rfl | cases works
  have coupled : (operation.scope depot.store footprint).Coupled ⟨depot.store, depot.drawn⟩
      ⟨depot'.store, depot'.drawn⟩ ⟨depot.store, depot.drawn⟩ ⟨depot'.store, depot'.drawn⟩ :=
    ⟨fits_of_agree works valid (.refl _), fits_of_agree works valid' agree, agree, .refl _,
      .refl _, Nat.add_comm _ _⟩
  obtain ⟨paired, after⟩ := (task_confined defaultCapacity works).run
    (fun _ _ _ allowed coupled => coupled.step allowed moments moments') .storage coupled
  rw [Depot.perform_eq_run free, Depot.perform_eq_run free']
  rcases ran : (operation.task defaultCapacity).run (answerNext moments) .storage
    ⟨depot.store, depot.drawn⟩ with ⟨outcome, staged⟩
  rcases ran' : (operation.task defaultCapacity).run (answerNext moments') .storage
    ⟨depot'.store, depot'.drawn⟩ with ⟨outcome', staged'⟩
  rw [ran, ran'] at paired after
  cases paired with
  | ok same =>
      simp only [ran, ran', mutates, if_true]
      exact ⟨.ok same, after.agree, after.frame, after.frame', after.drawn⟩
  | error failure =>
      simp only [ran, ran']
      exact ⟨.error failure, agree, .refl _, .refl _, after.drawn⟩

variable {moments : Nat → Moment} {defaultCapacity : Int} {depot : Depot}

/-- Two operations that work on resources of their own commute at an attainable depot, whatever
is drawn in either order: each comes to the same up to times of change, and so do the depots
they lead to. -/
theorem independent_operations_commute (attainable : Attainable moments defaultCapacity depot)
    {first second : Operation} {resources others : List Resource}
    (works : first.footprint? depot.store = some resources)
    (works' : second.footprint? depot.store = some others)
    (independent : ∀ resource ∈ resources, resource ∉ others)
    (draws draws' : Nat → Moment) :
    let firstDone := depot.perform draws defaultCapacity first
    let thenSecond := firstDone.2.perform draws defaultCapacity second
    let secondDone := depot.perform draws' defaultCapacity second
    let thenFirst := secondDone.2.perform draws' defaultCapacity first
    firstDone.1.map first.untimed = thenFirst.1.map first.untimed ∧
      secondDone.1.map second.untimed = thenSecond.1.map second.untimed ∧
      thenSecond.2.untimed = thenFirst.2.untimed := by
  intro firstDone thenSecond secondDone thenFirst
  have free := attainable.refusal
  have valid := attainable.valid
  have apart (resource : Resource) (member : resource ∈ others) : resource ∉ resources :=
    fun own => independent resource own member
  -- Either operation, made alone, leaves the resources of the other.
  have firstFrame := (perform_sameOn free free valid valid works (.refl _) draws draws
    defaultCapacity).frame
  have secondFrame := (perform_sameOn free free valid valid works' (.refl _) draws' draws'
    defaultCapacity).frame
  have ofFirst : SameOn first resources depot secondDone.2 firstDone thenFirst :=
    perform_sameOn free (Depot.perform_refusal free second) valid (perform_valid valid second)
      works (secondFrame.mono independent) draws draws' defaultCapacity
  have ofSecond : SameOn second others depot firstDone.2 secondDone thenSecond :=
    perform_sameOn free (Depot.perform_refusal free first) valid (perform_valid valid first)
      works' (firstFrame.mono apart) draws' draws defaultCapacity
  refine ⟨ofFirst.result.map_eq, ofSecond.result.map_eq, ?_⟩
  have stores : thenSecond.2.store.untimed = thenFirst.2.store.untimed := by
    refine Store.Agree.untimed_eq (.split (· ∈ resources) ?_ (.split (· ∈ others) ?_ ?_))
    · have unmoved := ofSecond.frame'.symm.mono independent
      exact (unmoved.trans ofFirst.agree).mono fun _ member => member.2
    · have unmoved := ofFirst.frame'.mono apart
      exact (ofSecond.agree.symm.trans unmoved).mono fun _ member => member.2
    · -- What neither works on leads back over the depot both have started from.
      refine .trans (ofSecond.frame'.symm.mono fun _ member => member.2) ?_
      refine .trans (ofFirst.frame.symm.mono fun _ member => member.1.2) ?_
      refine .trans (ofSecond.frame.mono fun _ member => member.2) ?_
      exact ofFirst.frame'.mono fun _ member => member.1.2
  have drawn : thenSecond.2.drawn = thenFirst.2.drawn := by
    have first := ofFirst.drawn
    have second := ofSecond.drawn
    omega
  have refusal : thenSecond.2.refusal = thenFirst.2.refusal :=
    (Depot.perform_refusal (Depot.perform_refusal free first) second).trans
      (Depot.perform_refusal (Depot.perform_refusal free second) first).symm
  simp only [Depot.untimed, stores, drawn, refusal]

/-- To delete a deck with three copies of one card, and to put two copies of another card into
another deck of the same user, come to the same in either order. -/
theorem deletion_and_allocation_commute :
    let moments : Nat → Moment := fun n => ⟨⟨n, 0⟩, .ofNat n⟩
    let later : Nat → Moment := fun n => ⟨⟨n + 3600, 0⟩, .ofNat n⟩
    let user : Uuid := .ofNat 0
    let bolt : CardDraft := ⟨.ofNat 7, "Bolt", none, none, none, none, [default]⟩
    let forest : CardDraft := ⟨.ofNat 8, "Forest", none, none, none, none, [default]⟩
    let made := fun (operation : Operation) (depot : Depot) =>
      (depot.perform moments 60 operation).2
    let depot := made (.allocate (.ofNat 4) bolt.id 3 .main) <|
      made (.creditBinder user forest.id 4) <| made (.creditBinder user bolt.id 4) <|
      made (.createDeck ⟨user, "B", "modern", none, false, none⟩) <|
      made (.createDeck ⟨user, "A", "modern", none, false, none⟩) <|
      made (.registerCard forest) <| made (.registerCard bolt) <|
      made (.createUser ⟨"ada", none⟩) .empty
    let deletion : Operation := .deleteDeck (.ofNat 4)
    let allocation : Operation := .allocate (.ofNat 6) forest.id 2 .sideboard
    let resources : List Resource := [.deck (.ofNat 4), .holding ⟨user, bolt.id⟩]
    let others : List Resource := [.deck (.ofNat 6), .holding ⟨user, forest.id⟩]
    Attainable moments 60 depot ∧ deletion.footprint? depot.store = some resources ∧
      allocation.footprint? depot.store = some others ∧
      (∀ resource ∈ resources, resource ∉ others) ∧
      (depot.perform moments 60 deletion).1.isOk = true ∧
      (depot.perform later 60 allocation).1.isOk = true ∧
      (made allocation (made deletion depot)).untimed =
        ((depot.perform later 60 allocation).2.perform later 60 deletion).2.untimed := by
  intro moments later user bolt forest made depot deletion allocation resources others
  have attainable : Attainable moments 60 depot :=
    .perform (.perform (.perform (.perform (.perform (.perform (.perform (.perform .empty _) _) _)
      _) _) _) _) _
  have works : deletion.footprint? depot.store = some resources := by decide +kernel
  have works' : allocation.footprint? depot.store = some others := by decide +kernel
  have independent : ∀ resource ∈ resources, resource ∉ others := by decide +kernel
  have deleted : (depot.perform moments 60 deletion).1.isOk = true := by decide +kernel
  have allocated : (depot.perform later 60 allocation).1.isOk = true := by decide +kernel
  clear_value depot resources others
  exact ⟨attainable, works, works', independent, deleted, allocated,
    (independent_operations_commute attainable works works' independent moments later).2.2⟩

end Inventory

end CardInventory
