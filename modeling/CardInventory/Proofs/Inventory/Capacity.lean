import CardInventory.Proofs.Inventory.Reachable

/-!
# Capacities of decks

A deck with a capacity never holds more copies than the capacity allows, in whatever
order copies are moved and capacities are changed. What an operation reports about a
capacity is true of the tables it was performed on: it names the copies that are in
the deck, the limit that they would exceed and the copies that were to be added.
-/

namespace CardInventory.Inventory

open Memory Storage Ledger

/-- A report that is true of some tables: the deck that an operation would add copies to
is too full for them, or too full for the capacity that it is to get. -/
inductive Exceeds (store : Store) : Operation → (current limit attempted : Int) → Prop where
  | allocate {deck card : Uuid} {quantity limit : Int} {zone : Zone} {row : Deck}
      (found : store.decks.get? deck = some row) (limited : row.capacity = some limit)
      (beyond : limit < store.copiesIn deck + quantity) :
      Exceeds store (.allocate deck card quantity zone) (store.copiesIn deck) limit quantity
  | transfer {source destination card : Uuid} {quantity limit : Int} {zone : Option Zone}
      {row : Deck} (found : store.decks.get? destination = some row)
      (limited : row.capacity = some limit)
      (beyond : limit < store.copiesIn destination + quantity) :
      Exceeds store (.transfer source destination card quantity zone)
        (store.copiesIn destination) limit quantity
  | updateDeck {deck : Uuid} {patch : DeckPatch} {limit : Int} {row : Deck}
      (found : store.decks.get? deck = some row)
      (requested : patch.capacity = some (some limit)) (beyond : limit < store.copiesIn deck) :
      Exceeds store (.updateDeck deck patch) (store.copiesIn deck) limit 0

/-- A failure that reports an exceeded capacity does so truly. -/
def ReportsTruly (store : Store) (operation : Operation) (failure : Failure) : Prop :=
  ∀ ⦃current limit attempted⦄, failure = .overCapacity current limit attempted →
    Exceeds store operation current limit attempted

variable {moments : Nat → Moment} {defaultCapacity : Int} {store : Store} {drawn : Nat}
  {operation : Operation} {failure : Failure}

theorem Exceeds.beyond {current limit attempted : Int}
    (exceeds : Exceeds store operation current limit attempted) :
    limit < current + attempted := by
  cases exceeds with
  | allocate _ _ beyond => exact beyond
  | transfer _ _ beyond => exact beyond
  | updateDeck _ _ beyond => simpa using beyond

theorem reportsTruly_of_not_exceeds (other : failure.exceeds = false) :
    ReportsTruly store operation failure := by
  rintro current limit attempted rfl
  cases other

theorem reportsTruly_of_causes {cause : Option Failure}
    (causes : Causes (fun failure => failure.exceeds = false) cause) :
    Causes (ReportsTruly store operation) cause :=
  fun _ refused => reportsTruly_of_not_exceeds (causes refused)

theorem allocationRefusal_reportsTruly {deck card : Uuid} {quantity : Int} {zone : Zone} :
    Causes (ReportsTruly store (.allocate deck card quantity zone))
      (store.allocationRefusal deck card quantity zone) := by
  rcases store.allocationRefusal_cases deck card quantity zone with
    ⟨early, refused, -, other⟩ | ⟨row, bound, found, limited, beyond, refused⟩ | ⟨_, -, -, last⟩
  · rw [refused]
    exact .some (reportsTruly_of_not_exceeds other)
  · rw [refused]
    refine .some ?_
    rintro current limit attempted reported
    cases reported
    exact .allocate found limited beyond
  · rw [last]
    exact reportsTruly_of_causes Store.additionRefusal_not_exceeds

theorem transferRefusal_reportsTruly {source destination card : Uuid} {quantity : Int}
    {zone : Option Zone} :
    Causes (ReportsTruly store (.transfer source destination card quantity zone))
      (store.transferRefusal source destination card quantity zone) := by
  rcases store.transferRefusal_cases source destination card quantity zone with
    ⟨early, refused, other⟩ | ⟨row, bound, found, limited, beyond, refused⟩ |
      ⟨_, -, -, -, -, last⟩
  · rw [refused]
    exact .some (reportsTruly_of_not_exceeds other)
  · rw [refused]
    refine .some ?_
    rintro current limit attempted reported
    cases reported
    exact .transfer found limited beyond
  · rw [last]
    exact .or (reportsTruly_of_causes Store.deallocationRefusal_not_exceeds) fun _ =>
      reportsTruly_of_causes Store.additionRefusal_not_exceeds

/-- A rule that is decided by causes that report truly reports truly. -/
theorem ends_reportsTruly {α : Type} {rule : Ledger α} {staged : Staged}
    {good : α → Staged → Prop} {cause : Option Failure} {kept : Failure → Staged → Prop}
    (ends : rule.Ends (answerNext moments) .storage staged good
      fun failure after => cause = some failure ∧ kept failure after)
    (causes : Causes (ReportsTruly store operation) cause) :
    rule.Ends (answerNext moments) .storage staged (fun _ _ => True)
      (fun failure _ => ReportsTruly store operation failure) :=
  ends.mono_error fun _ _ refused => causes refused.1

/-- What a deck is refused for is said of the capacity that was asked for. -/
theorem changeDeck_reportsTruly (valid : store.Valid) {id : Uuid} {patch patch' : DeckPatch}
    (checked : checkedPatch patch = .ok patch') :
    (changeDeck id patch').Ends (answerNext moments) .storage ⟨store, drawn⟩
      (fun _ _ => True) (fun failure _ => ReportsTruly store (.updateDeck id patch) failure) := by
  apply (changeDeck_ends valid id patch').mono_error
  rintro failure after ⟨-, reports⟩ current limit attempted rfl
  obtain ⟨row, bound, found, requested, beyond, reported⟩ := reports rfl
  cases reported
  rw [capacity_of_checkedPatch checked] at requested
  exact .updateDeck found requested beyond

/-- A request alone fails only where storage refuses it. -/
theorem ask_reportsTruly (request : Request) :
    (ask request).Ends (answerNext moments) .storage ⟨store, drawn⟩
      (fun _ _ => True) (fun failure _ => ReportsTruly store operation failure) := by
  rw [ends_ask]
  split
  · exact True.intro
  · exact reportsTruly_of_not_exceeds rfl

/-- A rule that fails on valid tables reports truly. -/
theorem rule_reportsTruly (valid : store.Valid) {rule : Ledger operation.Result}
    (accepted : operation.rule defaultCapacity = .ok rule) :
    rule.Ends (answerNext moments) .storage ⟨store, drawn⟩
      (fun _ _ => True) (fun failure _ => ReportsTruly store operation failure) := by
  cases operation with
  | createUser draft =>
      rw [Operation.rule] at accepted
      split at accepted
      · cases accepted
      · obtain rfl := Except.ok.inj accepted
        exact ask_reportsTruly _
  | registerCard draft =>
      rw [Operation.rule] at accepted
      split at accepted
      · cases accepted
      · split at accepted
        · cases accepted
        · obtain rfl := Except.ok.inj accepted
          exact ask_reportsTruly _
  | creditBinder user card quantity =>
      obtain rfl := Except.ok.inj accepted
      exact ends_reportsTruly (credit_ends valid user card quantity)
        (reportsTruly_of_causes Store.creditRefusal_not_exceeds)
  | debitBinder user card quantity =>
      obtain rfl := Except.ok.inj accepted
      exact ends_reportsTruly (debit_ends valid user card quantity)
        (reportsTruly_of_causes Store.debitRefusal_not_exceeds)
  | createDeck proposal =>
      obtain ⟨draft, -, accepted⟩ := bind_eq_ok_iff.mp accepted
      obtain rfl := Except.ok.inj accepted
      rw [Procedure.ends_bind, ends_ensureUser]
      split
      · exact ask_reportsTruly _
      · exact reportsTruly_of_not_exceeds rfl
  | updateDeck id patch =>
      obtain ⟨patch', checked, accepted⟩ := bind_eq_ok_iff.mp accepted
      obtain rfl := Except.ok.inj accepted
      exact changeDeck_reportsTruly valid checked
  | deleteDeck id =>
      obtain rfl := Except.ok.inj accepted
      apply (releaseDeck_ends valid id).mono_error
      rintro failure after (⟨large, -⟩ | ⟨rfl, -, -⟩)
      · rintro current limit attempted rfl
        cases large
      · exact reportsTruly_of_not_exceeds rfl
  | allocate deck card quantity zone =>
      obtain rfl := Except.ok.inj accepted
      exact ends_reportsTruly (allocate_ends valid deck card quantity zone)
        allocationRefusal_reportsTruly
  | deallocate deck card quantity zone =>
      obtain rfl := Except.ok.inj accepted
      exact ends_reportsTruly (deallocate_ends valid deck card quantity zone)
        (reportsTruly_of_causes Store.deallocationRefusal_not_exceeds)
  | transfer source destination card quantity zone =>
      obtain rfl := Except.ok.inj accepted
      exact ends_reportsTruly (transfer_ends valid source destination card quantity zone)
        transferRefusal_reportsTruly
  | moveZone deck card quantity source target =>
      obtain rfl := Except.ok.inj accepted
      exact ends_reportsTruly (moveZone_ends valid deck card quantity source target)
        (reportsTruly_of_causes Store.zoneMoveRefusal_not_exceeds)
  | _ =>
      rw [← task_of_ok accepted]
      apply (reads_of_not_mutates defaultCapacity rfl drawn).mono_error
      rintro failure after ⟨⟨subject, key, rfl⟩, -⟩
      exact reportsTruly_of_not_exceeds rfl

/-- An operation that fails on valid tables reports truly. -/
theorem operation_reportsTruly (valid : store.Valid) (defaultCapacity : Int)
    (operation : Operation) :
    (operation.task defaultCapacity).Ends (answerNext moments) .storage ⟨store, drawn⟩
      (fun _ _ => True) (fun failure _ => ReportsTruly store operation failure) := by
  cases checked : operation.rule defaultCapacity with
  | error failure =>
      obtain ⟨reason, rfl⟩ := rule_checks defaultCapacity operation checked
      rw [task_of_error checked, Procedure.ends_fail]
      exact reportsTruly_of_not_exceeds rfl
  | ok rule =>
      rw [task_of_ok checked]
      exact rule_reportsTruly valid checked

variable {depot : Depot}

/-- At a reachable depot every deck with a limit holds no more copies than the limit, which is
positive, and an operation that reports an exceeded capacity does so truly. -/
theorem reachable_within_capacity (reachable : Reachable moments defaultCapacity depot) :
    (∀ ⦃deck row limit⦄, depot.store.decks.get? deck = some row → row.capacity = some limit →
        1 ≤ limit ∧ depot.store.copiesIn deck ≤ limit) ∧
      ∀ ⦃operation current limit attempted after⦄,
        depot.perform moments defaultCapacity operation =
            (.error (.overCapacity current limit attempted), after) →
          Exceeds depot.store operation current limit attempted ∧ limit < current + attempted := by
  have sound := reachable.sound
  constructor
  · intro deck row limit found limited
    exact ⟨(sound.valid.decks found).draft.capacity limit limited, sound.limits found limited⟩
  · intro operation current limit attempted after reported
    obtain ⟨-, ⟨fault, other⟩ | ⟨staged, failed⟩⟩ := Depot.perform_eq_error reported
    · cases other
    · have truly : ReportsTruly depot.store operation _ :=
        (operation_reportsTruly sound.valid defaultCapacity operation).error failed
      have exceeds := truly rfl
      exact ⟨exceeds, exceeds.beyond⟩

/-- A deck of at most three copies holds two, and reports truly that it holds no further two. -/
theorem deck_of_three_within_capacity :
    let moments : Nat → Moment := fun n => ⟨⟨n, 0⟩, .ofNat n⟩
    let user : Uuid := .ofNat 0
    let card : Uuid := .ofNat 7
    let deck : Uuid := .ofNat 3
    let operations : List Operation :=
      [.createUser ⟨"ada", none⟩, .registerCard ⟨card, "Forest", none, none, none, none, [default]⟩,
        .createDeck ⟨user, "Elves", "modern", some 3, false, none⟩, .creditBinder user card 5,
        .allocate deck card 2 .main]
    let depot := (Depot.empty.runUnit moments true (inTurn 60 operations)).2
    let allocation : Operation := .allocate deck card 2 .sideboard
    (∃ row, depot.store.decks.get? deck = some row ∧ row.capacity = some 3 ∧
        1 ≤ (3 : Int) ∧ depot.store.copiesIn deck ≤ 3) ∧
      ∃ after, depot.perform moments 60 allocation = (.error (.overCapacity 2 3 2), after) ∧
        Exceeds depot.store allocation 2 3 2 := by
  intro moments user card deck operations depot allocation
  have reachable : Reachable moments 60 depot :=
    .compose .empty true operations (by decide +kernel)
  have limited : (depot.store.decks.get? deck).map (fun row => row.capacity) = some (some 3) := by
    decide +kernel
  have reported : (match (depot.perform moments 60 allocation).1 with
      | .ok _ => false
      | .error failure => decide (failure = .overCapacity 2 3 2)) = true := by decide +kernel
  clear_value depot
  obtain ⟨row, found, limited⟩ := Option.map_eq_some_iff.mp limited
  rcases outcome : depot.perform moments 60 allocation with ⟨failure | entry, after⟩
  · rw [outcome] at reported
    obtain rfl : failure = .overCapacity 2 3 2 := of_decide_eq_true reported
    obtain ⟨within, reports⟩ := reachable_within_capacity reachable
    obtain ⟨positive, fits⟩ := within found limited
    exact ⟨⟨row, found, limited, positive, fits⟩, after, rfl, (reports outcome).1⟩
  · simp [outcome] at reported

end CardInventory.Inventory
