import CardInventory.Proofs.Inventory.CheckedDeck
import CardInventory.Proofs.Inventory.Effect
import CardInventory.Proofs.Ledger.Fault

/-!
# Conflicts with stored records

Storage checks again what the rules have checked: its references, its constraints
and the width of its numbers. Over valid tables none of these checks fails. All that
storage itself refuses is a second user of one name and a second printing of one
identifier.
-/

namespace CardInventory.Inventory

open Memory Storage Ledger Text

/-- The fault of an operation that is to store what some tables hold already: a user's
name, or the identifier of a printing whose other arguments are accepted. -/
inductive Conflict (store : Store) : Operation → Storage.Fault → Prop where
  | username {draft : UserDraft} {id : Uuid} {user : User}
      (found : store.users.get? id = some user) (taken : user.username = draft.username) :
      Conflict store (.createUser draft)
        (duplicateFault "users" "users_username_key" draft.username)
  | printing {draft : CardDraft} (named : isBlankText draft.name = false)
      (faces : draft.faces.isEmpty = false) (taken : store.cards.contains draft.id = true) :
      Conflict store (.registerCard draft) (duplicateFault "cards" "cards_pkey" draft.id.text)

/-- A failure that is a storage fault is one of a conflict. -/
def FaultsOverConflict (store : Store) (operation : Operation) (failure : Failure) : Prop :=
  ∀ ⦃fault⦄, failure = .storage fault → Conflict store operation fault

/-- A rule keeps some tables valid, and fails in storage only over a conflict. -/
def Settles (moments : Nat → Moment) (store : Store) (operation : Operation) {α : Type}
    (rule : Ledger α) : Prop :=
  ∀ drawn, rule.Ends (answerNext moments) .storage ⟨store, drawn⟩
    (fun _ after => after.store.Valid) (fun failure _ => FaultsOverConflict store operation failure)

variable {moments : Nat → Moment} {defaultCapacity : Int} {store : Store} {drawn : Nat}
  {operation : Operation}

theorem faultsOverConflict_of_not_ofStorage {failure : Failure}
    (own : failure.ofStorage = false) : FaultsOverConflict store operation failure := by
  rintro fault rfl
  cases own

/-- A rule that keeps valid tables valid settles where it is refused for causes of its own. -/
theorem settles_of_causes {α : Type} {rule : Ledger α} {good : α → Staged → Prop}
    {cause : Option Failure} {kept : Failure → Staged → Prop}
    (ends : ∀ drawn, rule.Ends (answerNext moments) .storage ⟨store, drawn⟩ good
      fun failure after => cause = some failure ∧ kept failure after)
    (causes : Causes (fun failure => failure.ofStorage = false) cause)
    (valid : ∀ value after, good value after → after.store.Valid) :
    Settles moments store operation rule := by
  intro drawn
  apply (ends drawn).mono valid
  rintro failure after ⟨refused, -⟩
  exact faultsOverConflict_of_not_ofStorage (causes refused)

/-- A request that no storage fault can answer but that of a conflict settles. -/
theorem settles_ask (valid : store.Valid) {request : Request} (narrow : request.narrow = true)
    (faults : ∀ ⦃moment fault⦄, (store.answer moment request).1 = .error fault →
      Conflict store operation fault) :
    Settles moments store operation (ask request) := by
  intro drawn
  have keeps : (store.answer (moments drawn) request).2.Valid := Store.answer_valid valid narrow
  rw [ends_ask]
  rcases outcome : store.answer (moments drawn) request with ⟨fault | reply, changed⟩
  · have refused : (store.answer (moments drawn) request).1 = .error fault := by rw [outcome]
    rintro _ ⟨⟩
    exact faults refused
  · rw [outcome] at keeps
    exact keeps

/-! ## New users and printings -/

theorem settle_eq_error_iff {α : Type} {outcome : Except Storage.Fault (α × Store)}
    {fault : Storage.Fault} : (store.settle outcome).1 = .error fault ↔ outcome = .error fault := by
  rcases outcome with _ | ⟨_, _⟩ <;> simp [Store.settle]

/-- A user with a name is refused where the name is taken, and nowhere else. -/
theorem createUser_eq_error_iff {draft : UserDraft} {moment : Moment} {fault : Storage.Fault}
    (named : isBlankText draft.username = false) :
    store.createUser draft moment = .error fault ↔ Conflict store (.createUser draft) fault := by
  rw [Store.createUser, named]
  cases present : store.users.values.any fun user => user.username = draft.username with
  | false =>
      constructor
      · intro refused
        cases refused
      · rintro ⟨found, taken⟩
        have other := List.any_eq_false.mp present _ (Table.mem_values.mpr ⟨_, found⟩)
        exact absurd (decide_eq_true taken) other
  | true =>
      constructor
      · intro refused
        cases refused
        obtain ⟨user, member, same⟩ := List.any_eq_true.mp present
        obtain ⟨id, found⟩ := Table.mem_values.mp member
        exact .username found (of_decide_eq_true same)
      · rintro ⟨found, taken⟩
        rfl

/-- A printing is refused where its identifier is registered, and nowhere else. -/
theorem createCard_eq_error_iff {draft : CardDraft} {moment : Moment} {fault : Storage.Fault}
    (named : isBlankText draft.name = false) (faces : draft.faces.isEmpty = false) :
    store.createCard draft moment = .error fault ↔ Conflict store (.registerCard draft) fault := by
  rw [Store.createCard]
  cases present : store.cards.contains draft.id with
  | false =>
      constructor
      · intro refused
        cases refused
      · rintro (_ | ⟨-, -, taken⟩)
        cases present.symm.trans taken
  | true =>
      constructor
      · intro refused
        cases refused
        exact .printing named faces present
      · rintro (_ | ⟨-, -, -⟩)
        rfl

/-! ## Decks -/

/-- A deck whose arguments have been checked is stored if its owner exists. -/
theorem createDeck_settles (valid : store.Valid) {draft : DeckDraft} (sound : draft.Sound) :
    Settles moments store operation
      (ensureUser draft.owner >>= fun _ => ask (.createDeck draft)) := by
  intro drawn
  rw [Procedure.ends_bind, ends_ensureUser]
  by_cases owner : store.users.contains draft.owner = true
  · rw [if_pos owner, ends_ask, Store.answer,
      Store.createDeck_eq_ok_iff.mpr ⟨owner, sound, rfl, rfl⟩]
    exact valid.insertDeck ⟨rfl, owner, sound⟩
  · rw [if_neg owner]
    exact faultsOverConflict_of_not_ofStorage rfl

theorem updateDeck_settles (valid : store.Valid) {id : Uuid} {patch : DeckPatch} {row : Deck}
    (found : store.decks.get? id = some row)
    (sound : ∀ now, (patch.apply row now).toDeckDraft.Sound) :
    Settles moments store operation (ask (.updateDeck id patch)) := by
  intro drawn
  have old := valid.decks found
  rw [ends_ask, Store.answer,
    Store.updateDeck_eq_ok_iff.mpr ⟨row, found, rfl, sound (moments drawn).time, rfl⟩]
  exact valid.insertDeck ⟨old.keyed, old.owner, sound (moments drawn).time⟩

/-- A change whose arguments have been checked is made if the deck exists and its capacity
allows for the copies in it. -/
theorem changeDeck_settles (valid : store.Valid) {id : Uuid} {patch patch' : DeckPatch}
    (checked : checkedPatch patch = .ok patch') :
    Settles moments store operation (changeDeck id patch') := by
  intro drawn
  rw [changeDeck, Procedure.ends_bind, ends_lockDeck valid]
  cases found : store.decks.get? id with
  | none => exact faultsOverConflict_of_not_ofStorage rfl
  | some row =>
      have updates : Settles moments store operation (ask (.updateDeck id patch')) :=
        updateDeck_settles valid found
          fun now => sound_of_checkedPatch checked (valid.decks found).draft now
      cases patch'.capacity with
      | none => exact updates _
      | some limit =>
          simp only [Procedure.ends_bind, ends_ask (.totalInDeck id), Store.answer,
            Procedure.ends_ofExcept]
          cases capacity : checkCapacity limit (store.deckTotal id) 0 with
          | error failure =>
              exact faultsOverConflict_of_not_ofStorage (checkCapacity_not_ofStorage capacity)
          | ok _ => exact updates _

/-! ## All operations -/

/-- A rule settles on valid tables. -/
theorem rule_settles (positive : 1 ≤ defaultCapacity) (valid : store.Valid)
    {rule : Ledger operation.Result} (accepted : operation.rule defaultCapacity = .ok rule) :
    Settles moments store operation rule := by
  cases operation with
  | createUser draft =>
      rw [Operation.rule] at accepted
      split at accepted
      · cases accepted
      · rename_i named
        obtain rfl := Except.ok.inj accepted
        apply settles_ask valid rfl
        intro moment fault refused
        rw [Store.answer, settle_eq_error_iff] at refused
        exact (createUser_eq_error_iff (by simpa using named)).mp refused
  | registerCard draft =>
      rw [Operation.rule] at accepted
      split at accepted
      · cases accepted
      · rename_i named
        split at accepted
        · cases accepted
        · rename_i faces
          obtain rfl := Except.ok.inj accepted
          apply settles_ask valid rfl
          intro moment fault refused
          rw [Store.answer, settle_eq_error_iff] at refused
          exact (createCard_eq_error_iff (by simpa using named) (by simpa using faces)).mp refused
  | creditBinder user card quantity =>
      obtain rfl := Except.ok.inj accepted
      apply settles_of_causes (fun _ => credit_ends valid user card quantity)
        Store.creditRefusal_not_ofStorage
      rintro _ after ⟨accepted, time, -, same⟩
      exact same ▸ (valid.moved_credited accepted time).valid
  | debitBinder user card quantity =>
      obtain rfl := Except.ok.inj accepted
      apply settles_of_causes (fun _ => debit_ends valid user card quantity)
        Store.debitRefusal_not_ofStorage
      rintro _ after ⟨accepted, time, same⟩
      exact same ▸ (valid.moved_debited accepted time).valid
  | createDeck proposal =>
      obtain ⟨draft, checked, accepted⟩ := bind_eq_ok_iff.mp accepted
      obtain rfl := Except.ok.inj accepted
      exact createDeck_settles valid (sound_of_draft positive checked)
  | updateDeck id patch =>
      obtain ⟨patch', checked, accepted⟩ := bind_eq_ok_iff.mp accepted
      obtain rfl := Except.ok.inj accepted
      exact changeDeck_settles valid checked
  | deleteDeck id =>
      obtain rfl := Except.ok.inj accepted
      intro drawn
      apply (releaseDeck_ends valid id).mono
      · rintro _ after ⟨-, released, -⟩
        exact released.valid
      · rintro failure after (⟨large, -⟩ | ⟨rfl, -, -⟩) fault failed
        · subst failed
          cases large
        · cases failed
  | allocate deck card quantity zone =>
      obtain rfl := Except.ok.inj accepted
      apply settles_of_causes (fun _ => allocate_ends valid deck card quantity zone)
        Store.allocationRefusal_not_ofStorage
      rintro _ after ⟨-, moved, -⟩
      exact moved.valid
  | deallocate deck card quantity zone =>
      obtain rfl := Except.ok.inj accepted
      apply settles_of_causes (fun _ => deallocate_ends valid deck card quantity zone)
        Store.deallocationRefusal_not_ofStorage
      rintro _ after ⟨-, _, _, _, _, -, -, -, moved⟩
      exact moved.valid
  | transfer source destination card quantity zone =>
      obtain rfl := Except.ok.inj accepted
      apply settles_of_causes
        (fun _ => transfer_ends valid source destination card quantity zone)
        Store.transferRefusal_not_ofStorage
      rintro _ after ⟨-, moved⟩
      exact moved.valid
  | moveZone deck card quantity source target =>
      obtain rfl := Except.ok.inj accepted
      apply settles_of_causes (fun _ => moveZone_ends valid deck card quantity source target)
        Store.zoneMoveRefusal_not_ofStorage
      rintro _ after ⟨-, moved⟩
      exact moved.valid
  | _ =>
      rw [← task_of_ok accepted]
      intro drawn
      apply (reads_of_not_mutates defaultCapacity rfl drawn).mono
      · rintro _ after same
        exact same ▸ valid
      · rintro failure after ⟨⟨subject, key, rfl⟩, -⟩
        exact faultsOverConflict_of_not_ofStorage rfl

/-- An operation settles on valid tables. -/
theorem operation_settles (positive : 1 ≤ defaultCapacity) (valid : store.Valid)
    (operation : Operation) :
    Settles moments store operation (operation.task defaultCapacity) := by
  cases checked : operation.rule defaultCapacity with
  | error failure =>
      obtain ⟨reason, rfl⟩ := rule_checks defaultCapacity operation checked
      rw [task_of_error checked]
      intro drawn
      exact (Procedure.ends_fail _).mpr (faultsOverConflict_of_not_ofStorage rfl)
  | ok rule =>
      rw [task_of_ok checked]
      exact rule_settles positive valid checked

/-- A deck that storage accepts is sound, whether or not its arguments have been checked. -/
theorem createDeck_valid (valid : store.Valid) (draft : DeckDraft) :
    (ensureUser draft.owner >>= fun _ => ask (.createDeck draft)).Ends (answerNext moments) .storage
      ⟨store, drawn⟩ (fun _ after => after.store.Valid) (fun _ _ => True) := by
  rw [Procedure.ends_bind, ends_ensureUser]
  split
  · rw [ends_ask, Store.answer]
    rcases created : store.createDeck draft (moments (drawn + 1)) with fault | ⟨deck, changed⟩
    · trivial
    · obtain ⟨owner, sound, rfl, rfl⟩ := Store.createDeck_eq_ok_iff.mp created
      exact valid.insertDeck ⟨rfl, owner, sound⟩
  · trivial

/-- Whatever the default capacity, an operation leaves valid tables valid. -/
theorem task_valid (valid : store.Valid) (defaultCapacity : Int) (operation : Operation) :
    (operation.task defaultCapacity).Ends (answerNext moments) .storage ⟨store, drawn⟩
      (fun _ after => after.store.Valid) (fun _ _ => True) := by
  by_cases creates : ∃ proposal, operation = .createDeck proposal
  · obtain ⟨proposal, rfl⟩ := creates
    cases checked : Operation.rule defaultCapacity (.createDeck proposal) with
    | error failure =>
        rw [task_of_error checked, Procedure.ends_fail]
        trivial
    | ok rule =>
        rw [task_of_ok checked]
        obtain ⟨draft, -, accepted⟩ := bind_eq_ok_iff.mp checked
        obtain rfl := Except.ok.inj accepted
        exact createDeck_valid valid draft
  -- No other operation looks at the default capacity.
  · have same : operation.task defaultCapacity = operation.task 1 := by
      cases operation with
      | createDeck proposal => exact absurd ⟨proposal, rfl⟩ creates
      | _ => simp only [Operation.task, Operation.rule]
    rw [same]
    exact (operation_settles (Int.le_refl 1) valid operation drawn).mono_ok fun _ _ kept => kept

end CardInventory.Inventory
