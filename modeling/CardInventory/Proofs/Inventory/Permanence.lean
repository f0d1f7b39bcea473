import CardInventory.Proofs.Inventory.Concurrent

/-!
# Records that stay

Users, printings and decks are recorded under identifiers, those of users and decks
drawn when they are created. What an operation does to these records depends on its
kind alone: it adds one, it changes or deletes the deck it names, or it leaves all of
them as they are. As no identifier is drawn twice, a record that is added takes no
other's place, neither that of a record which is there nor that of a deck which is
gone.
-/

namespace CardInventory.Inventory

open Memory Storage Ledger

variable {moments : Nat → Moment} {defaultCapacity : Int}

/-! ## Identifiers that are drawn -/

/-- Whether a request draws the identifier of a new record. -/
def drawsId : Request → Bool
  | .createUser _ => true
  | .createDeck _ => true
  | _ => false

/-- The identifiers that are drawn for new records in a run of a rule. -/
def drawnIds {α : Type} (moments : Nat → Moment) : Ledger α → Staged → List Uuid
  | Procedure.done _, _ => []
  | Procedure.fail _, _ => []
  | Procedure.ask request next, staged =>
      match answerNext moments request staged with
      | (.ok reply, after) =>
          let later := drawnIds moments (next reply) after
          if drawsId request then (moments staged.drawn).fresh :: later else later
      | (.error _, _) => []

/-- The identifiers that are drawn for new records by operations one after another. -/
def allDrawnIds (moments : Nat → Moment) (defaultCapacity : Int) :
    List Operation → Depot → List Uuid
  | [], _ => []
  | operation :: rest, depot =>
      drawnIds moments (operation.task defaultCapacity) ⟨depot.store, depot.drawn⟩ ++
        allDrawnIds moments defaultCapacity rest
          (depot.perform moments defaultCapacity operation).2

theorem allDrawnIds_append (operations others : List Operation) (depot : Depot) :
    allDrawnIds moments defaultCapacity (operations ++ others) depot =
      allDrawnIds moments defaultCapacity operations depot ++
        allDrawnIds moments defaultCapacity others
          (performAll moments defaultCapacity operations depot).2 := by
  induction operations generalizing depot with
  | nil => rfl
  | cons operation rest ih =>
      simp only [List.cons_append, allDrawnIds, ih, performAll, List.append_assoc]

theorem drawnIds_ask {request : Request} {staged after : Staged} {reply : request.Reply}
    (draws : drawsId request = true)
    (answered : answerNext moments request staged = (.ok reply, after)) :
    (moments staged.drawn).fresh ∈ drawnIds moments (ask request) staged := by
  simp only [ask, Procedure.request, drawnIds, answered, draws, if_true, List.mem_singleton]

/-- A check that a user exists draws nothing. -/
theorem drawnIds_ensureUser {α : Type} {store : Store} {drawn : Nat} {owner : Uuid}
    (known : store.users.contains owner = true) (rest : Ledger α) :
    drawnIds moments (ensureUser owner >>= fun _ => rest) ⟨store, drawn⟩ =
      drawnIds moments rest ⟨store, drawn + 1⟩ := by
  simp only [ensureUser, ask, Procedure.request, bind, Procedure.bind, drawnIds, answerNext,
    Store.answer, drawsId, known, ensure, if_true]
  rfl

/-! ## The effect of one operation -/

/-- What is fixed when a deck is created is the same of two decks. -/
structure SameOrigin (old new : Deck) : Prop where
  id : new.id = old.id
  owner : new.owner = old.owner
  createdAt : new.createdAt = old.createdAt

/-- What an operation that succeeds does to users, printings and decks, given the
identifiers that it draws. -/
structure Recorded (operation : Operation) (drawn : List Uuid) (before after : Store) : Prop where
  users : ∀ id, id ∉ drawn → after.users.get? id = before.users.get? id
  cards : ∀ ⦃id card⦄, before.cards.get? id = some card → after.cards.get? id = some card
  decks : ∀ id, id ∉ drawn → operation ≠ .deleteDeck id →
    (∀ patch, operation ≠ .updateDeck id patch) → after.decks.get? id = before.decks.get? id
  updated : ∀ id patch, operation = .updateDeck id patch → ∃ old new,
    before.decks.get? id = some old ∧ after.decks.get? id = some new ∧ SameOrigin old new
  deleted : ∀ id, operation = .deleteDeck id →
    (∃ old, before.decks.get? id = some old) ∧ after.decks.get? id = none

section Recorded

variable {store : Store} {drawn : Nat} {operation : Operation} {ids : List Uuid}

/-- An operation that leaves these tables as they are. -/
theorem recorded_of_same {after : Store} (users : after.users = store.users)
    (cards : after.cards = store.cards) (decks : after.decks = store.decks)
    (neither : ∀ id, operation ≠ .deleteDeck id ∧ ∀ patch, operation ≠ .updateDeck id patch) :
    Recorded operation ids store after where
  users id _ := by rw [users]
  cards id card found := by rw [cards, found]
  decks id _ _ _ := by rw [decks]
  updated id patch changes := absurd changes ((neither id).2 patch)
  deleted id deletes := absurd deletes (neither id).1

theorem recorded_of_moved {after : Store} {gained : Uuid → Uuid → Int} {grown : Uuid → Int}
    (moved : Store.Moved store after gained grown)
    (neither : ∀ id, operation ≠ .deleteDeck id ∧ ∀ patch, operation ≠ .updateDeck id patch) :
    Recorded operation ids store after :=
  recorded_of_same moved.users moved.cards moved.decks neither

theorem createUser_recorded (draft : UserDraft) :
    (ask (.createUser draft)).Ends (answerNext moments) .storage ⟨store, drawn⟩
      (fun _ after => Recorded (.createUser draft)
        (drawnIds moments (ask (.createUser draft)) ⟨store, drawn⟩) store after.store)
      (fun _ _ => True) := by
  rw [ends_ask]
  cases created : store.createUser draft (moments drawn) with
  | error fault => simp [Store.answer, Store.settle, created]
  | ok made =>
      obtain ⟨user, changed⟩ := made
      have answered : answerNext moments (.createUser draft) ⟨store, drawn⟩ =
          (.ok user, ⟨changed, drawn + 1⟩) := by
        simp only [answerNext, Store.answer, created, Store.settle]
      have own := drawnIds_ask rfl answered
      obtain ⟨-, -, rfl, rfl⟩ := Store.createUser_eq_ok_iff.mp created
      simp only [Store.answer, created, Store.settle]
      exact {
        users := fun id other =>
          Table.get?_insert_of_ne _ (ne_of_mem_of_not_mem own other).symm _
        cards := fun _ _ found => found
        decks := fun _ _ _ _ => rfl
        updated := by rintro _ _ ⟨⟩
        deleted := by rintro _ ⟨⟩ }

theorem registerCard_recorded (draft : CardDraft) :
    (ask (.createCard draft)).Ends (answerNext moments) .storage ⟨store, drawn⟩
      (fun _ after => Recorded (.registerCard draft) ids store after.store)
      (fun _ _ => True) := by
  rw [ends_ask]
  cases created : store.createCard draft (moments drawn) with
  | error fault => simp [Store.answer, Store.settle, created]
  | ok made =>
      obtain ⟨card, changed⟩ := made
      obtain ⟨unused, rfl, rfl⟩ := Store.createCard_eq_ok_iff.mp created
      simp only [Store.answer, created, Store.settle]
      refine ⟨fun _ _ => rfl, fun id card found => ?_, fun _ _ _ _ => rfl,
        by rintro _ _ ⟨⟩, by rintro _ ⟨⟩⟩
      -- The printing is registered under an identifier that no printing has.
      have different : id ≠ draft.id := by
        rintro rfl
        simp [Table.contains, found] at unused
      rw [Table.get?_insert_of_ne _ different, found]

theorem createDeck_recorded (proposal : DeckProposal) (draft : DeckDraft) :
    (ensureUser draft.owner >>= fun _ => ask (.createDeck draft)).Ends (answerNext moments)
      .storage ⟨store, drawn⟩
      (fun _ after => Recorded (.createDeck proposal)
        (drawnIds moments (ensureUser draft.owner >>= fun _ => ask (.createDeck draft))
          ⟨store, drawn⟩) store after.store)
      (fun _ _ => True) := by
  rw [Procedure.ends_bind, ends_ensureUser]
  by_cases known : store.users.contains draft.owner = true
  · rw [if_pos known, drawnIds_ensureUser known, ends_ask]
    cases created : store.createDeck draft (moments (drawn + 1)) with
    | error fault => simp [Store.answer, Store.settle, created]
    | ok made =>
        obtain ⟨deck, changed⟩ := made
        have answered : answerNext moments (.createDeck draft) ⟨store, drawn + 1⟩ =
            (.ok deck, ⟨changed, drawn + 1 + 1⟩) := by
          simp only [answerNext, Store.answer, created, Store.settle]
        have own := drawnIds_ask rfl answered
        obtain ⟨-, -, rfl, rfl⟩ := Store.createDeck_eq_ok_iff.mp created
        simp only [Store.answer, created, Store.settle]
        exact {
          users := fun _ _ => rfl
          cards := fun _ _ found => found
          decks := fun id other _ _ =>
            Table.get?_insert_of_ne _ (ne_of_mem_of_not_mem own other).symm _
          updated := by rintro _ _ ⟨⟩
          deleted := by rintro _ ⟨⟩ }
  · rw [if_neg known]
    exact True.intro

theorem changeDeck_recorded (valid : store.Valid) (id : Uuid) (patch patch' : DeckPatch) :
    (changeDeck id patch').Ends (answerNext moments) .storage ⟨store, drawn⟩
      (fun _ after => Recorded (.updateDeck id patch) ids store after.store)
      (fun _ _ => True) := by
  apply (changeDeck_ends valid id patch').mono_ok
  rintro deck ⟨after, _⟩ ⟨-, moment, updated⟩
  obtain ⟨old, found, rfl, -, rfl⟩ := Store.updateDeck_eq_ok_iff.mp updated
  refine ⟨fun _ _ => rfl, fun _ _ found => found, fun other _ _ named => ?_, ?_,
    by rintro _ ⟨⟩⟩
  · have different : other ≠ id := by
      rintro rfl
      exact named patch rfl
    exact Table.get?_insert_of_ne _ different _
  · rintro _ _ ⟨⟩
    exact ⟨old, _, found, Table.get?_insert_self _ _ _, rfl, rfl, rfl⟩

theorem releaseDeck_recorded (valid : store.Valid) (id : Uuid) :
    (releaseDeck id).Ends (answerNext moments) .storage ⟨store, drawn⟩
      (fun _ after => Recorded (.deleteDeck id) ids store after.store) (fun _ _ => True) := by
  apply (releaseDeck_ends valid id).mono_ok
  rintro _ after ⟨found, released, -⟩
  refine ⟨fun _ _ => by rw [released.users], fun _ _ found => by rw [released.cards, found],
    fun other _ named _ => ?_, by rintro _ _ ⟨⟩, ?_⟩
  · have different : other ≠ id := by
      rintro rfl
      exact named rfl
    rw [released.decks, Table.get?_erase_of_ne _ different]
  · rintro _ ⟨⟩
    exact ⟨found, by rw [released.decks, Table.get?_erase_self]⟩

/-- An operation that succeeds adds a record under an identifier it draws, registers a
printing that is not there, or changes or deletes the deck it names. -/
theorem rule_recorded (valid : store.Valid) {rule : Ledger operation.Result}
    (accepted : operation.rule defaultCapacity = .ok rule) :
    rule.Ends (answerNext moments) .storage ⟨store, drawn⟩
      (fun _ after => Recorded operation (drawnIds moments rule ⟨store, drawn⟩) store after.store)
      (fun _ _ => True) := by
  cases operation with
  | createUser draft =>
      rw [Operation.rule] at accepted
      split at accepted
      · cases accepted
      · obtain rfl := Except.ok.inj accepted
        exact createUser_recorded draft
  | registerCard draft =>
      rw [Operation.rule] at accepted
      split at accepted
      · cases accepted
      · split at accepted
        · cases accepted
        · obtain rfl := Except.ok.inj accepted
          exact registerCard_recorded draft
  | creditBinder user card quantity =>
      obtain rfl := Except.ok.inj accepted
      apply (credit_ends valid user card quantity).mono_ok
      rintro _ ⟨_, _⟩ ⟨-, time, -, rfl⟩
      exact recorded_of_same rfl rfl rfl fun _ => by simp
  | debitBinder user card quantity =>
      obtain rfl := Except.ok.inj accepted
      apply (debit_ends valid user card quantity).mono_ok
      rintro _ ⟨_, _⟩ ⟨-, time, rfl⟩
      exact recorded_of_same rfl rfl rfl fun _ => by simp
  | createDeck proposal =>
      obtain ⟨draft, -, accepted⟩ := bind_eq_ok_iff.mp accepted
      obtain rfl := Except.ok.inj accepted
      exact createDeck_recorded proposal draft
  | updateDeck id patch =>
      obtain ⟨patch', -, accepted⟩ := bind_eq_ok_iff.mp accepted
      obtain rfl := Except.ok.inj accepted
      exact changeDeck_recorded valid id patch patch'
  | deleteDeck id =>
      obtain rfl := Except.ok.inj accepted
      exact releaseDeck_recorded valid id
  | allocate deck card quantity zone =>
      obtain rfl := Except.ok.inj accepted
      apply (allocate_ends valid deck card quantity zone).mono_ok
      rintro _ _ ⟨-, moved, -⟩
      exact recorded_of_moved moved fun _ => by simp
  | deallocate deck card quantity zone =>
      obtain rfl := Except.ok.inj accepted
      apply (deallocate_ends valid deck card quantity zone).mono_ok
      rintro _ _ ⟨-, _, _, _, _, -, -, -, moved⟩
      exact recorded_of_moved moved fun _ => by simp
  | transfer source destination card quantity zone =>
      obtain rfl := Except.ok.inj accepted
      apply (transfer_ends valid source destination card quantity zone).mono_ok
      rintro _ _ ⟨-, moved⟩
      exact recorded_of_moved moved fun _ => by simp
  | moveZone deck card quantity source target =>
      obtain rfl := Except.ok.inj accepted
      apply (moveZone_ends valid deck card quantity source target).mono_ok
      rintro _ _ ⟨-, moved⟩
      exact recorded_of_moved moved fun _ => by simp
  | _ =>
      rw [← task_of_ok accepted]
      apply (reads_of_not_mutates defaultCapacity rfl drawn).mono_ok
      rintro _ ⟨_, _⟩ rfl
      exact recorded_of_same rfl rfl rfl fun _ => by simp

theorem task_recorded (valid : store.Valid) :
    (operation.task defaultCapacity).Ends (answerNext moments) .storage ⟨store, drawn⟩
      (fun _ after => Recorded operation
        (drawnIds moments (operation.task defaultCapacity) ⟨store, drawn⟩) store after.store)
      (fun _ _ => True) := by
  cases checked : operation.rule defaultCapacity with
  | error failure =>
      rw [task_of_error checked, Procedure.ends_fail]
      exact True.intro
  | ok rule =>
      rw [task_of_ok checked]
      exact rule_recorded valid checked

end Recorded

/-! ## Operations one after another -/

/-- A deck is deleted among the operations that are made. -/
def Deletes (made : List Made) (id : Uuid) : Prop :=
  ∃ released, ⟨.deleteDeck id, .ok released⟩ ∈ made

/-- A deck is changed among the operations that are made. -/
def Changes (made : List Made) (id : Uuid) : Prop :=
  ∃ patch deck, ⟨.updateDeck id patch, .ok deck⟩ ∈ made

/-- Whether what has been made is the deletion of a deck. -/
def Made.deletes (id : Uuid) : Made → Bool
  | ⟨.deleteDeck other, .ok _⟩ => other = id
  | _ => false

theorem deletes_iff_any {made : List Made} {id : Uuid} :
    made.any (Made.deletes id) = true ↔ Deletes made id := by
  rw [List.any_eq_true]
  constructor
  · rintro ⟨⟨operation, outcome⟩, member, deletes⟩
    unfold Made.deletes at deletes
    split at deletes
    · rename_i other released same
      cases same
      obtain rfl := of_decide_eq_true deletes
      exact ⟨released, member⟩
    · cases deletes
  · rintro ⟨released, member⟩
    exact ⟨_, member, decide_eq_true rfl⟩

instance (made : List Made) (id : Uuid) : Decidable (Deletes made id) :=
  decidable_of_iff _ deletes_iff_any

/-- Operations that are made leave alone what is recorded: a deck is as it was but for
changes of its own, until it is deleted, and is not there after that. What the
identifiers are that have been drawn before is known. -/
structure Stays (past : List Uuid) (made : List Made) (before after : Store) : Prop where
  users : ∀ id ∈ past, after.users.get? id = before.users.get? id
  cards : ∀ ⦃id card⦄, before.cards.get? id = some card → after.cards.get? id = some card
  absent : ∀ id ∈ past, before.decks.get? id = none → after.decks.get? id = none
  kept : ∀ ⦃id old⦄, before.decks.get? id = some old → ¬ Deletes made id →
    ∃ new, after.decks.get? id = some new ∧ SameOrigin old new ∧ (¬ Changes made id → new = old)
  gone : ∀ id, Deletes made id → after.decks.get? id = none

/-- All identifiers of users and decks are among those that have been drawn. -/
structure Known (past : List Uuid) (store : Store) : Prop where
  valid : store.Valid
  users : ∀ ⦃id⦄, store.users.contains id = true → id ∈ past
  decks : ∀ ⦃id⦄, store.decks.contains id = true → id ∈ past

section Runs

variable {past ids : List Uuid} {made more : List Made} {before between after : Store}

theorem SameOrigin.refl (deck : Deck) : SameOrigin deck deck :=
  ⟨rfl, rfl, rfl⟩

theorem SameOrigin.trans {old middle new : Deck} (first : SameOrigin old middle)
    (second : SameOrigin middle new) : SameOrigin old new :=
  ⟨second.id.trans first.id, second.owner.trans first.owner,
    second.createdAt.trans first.createdAt⟩

theorem deletes_append {id : Uuid} :
    Deletes (made ++ more) id ↔ Deletes made id ∨ Deletes more id := by
  simp only [Deletes, List.mem_append, exists_or]

theorem changes_append {id : Uuid} :
    Changes (made ++ more) id ↔ Changes made id ∨ Changes more id := by
  simp only [Changes, List.mem_append, exists_or]

/-- Where no deck is deleted, tables that are the same have stayed. -/
theorem Stays.same (store : Store) (idle : ∀ id, ¬ Deletes made id) :
    Stays past made store store where
  users _ _ := rfl
  cards _ _ found := found
  absent _ _ missing := missing
  kept _ old found _ := ⟨old, found, .refl old, fun _ => rfl⟩
  gone id deletes := absurd deletes (idle id)

theorem not_deletes_nil (id : Uuid) : ¬ Deletes [] id := by
  simp [Deletes]

theorem not_deletes_of_error {operation : Operation} (failure : Failure) (id : Uuid) :
    ¬ Deletes [⟨operation, .error failure⟩] id := by
  rintro ⟨released, member⟩
  obtain ⟨rfl, same⟩ := Made.mk.inj (List.mem_singleton.mp member)
  cases same

theorem Known.mem_of_get? (known : Known past before) {id : Uuid} {deck : Deck}
    (found : before.decks.get? id = some deck) : id ∈ past :=
  known.decks (Table.contains_of_get? found)

/-- A deck that is gone stays so, as its identifier has been drawn before. -/
theorem Stays.append (first : Stays past made before between)
    (second : Stays (past ++ ids) more between after)
    (drawn : ∀ id, Deletes made id → id ∈ past) : Stays past (made ++ more) before after where
  users id old := (second.users id (List.mem_append_left _ old)).trans (first.users id old)
  cards _ _ found := second.cards (first.cards found)
  absent id old missing :=
    second.absent id (List.mem_append_left _ old) (first.absent id old missing)
  kept id old found keeps := by
    rw [deletes_append, not_or] at keeps
    obtain ⟨middle, found', same, unchanged⟩ := first.kept found keeps.1
    obtain ⟨new, found'', same', unchanged'⟩ := second.kept found' keeps.2
    refine ⟨new, found'', same.trans same', fun untouched => ?_⟩
    rw [changes_append, not_or] at untouched
    exact (unchanged' untouched.2).trans (unchanged untouched.1)
  gone id deletes := by
    rcases deletes_append.mp deletes with earlier | later
    · exact second.absent id (List.mem_append_left _ (drawn id earlier)) (first.gone id earlier)
    · exact second.gone id later

/-- What an operation does that succeeds leaves alone what has been recorded before, as
the identifiers that it draws are new. -/
theorem Recorded.stays {operation : Operation} {result : operation.Result}
    (known : Known past before) (recorded : Recorded operation ids before after)
    (distinct : (past ++ ids).Nodup) : Stays past [⟨operation, .ok result⟩] before after := by
  have fresh : ∀ id ∈ past, id ∉ ids := fun id old new =>
    (List.nodup_append.mp distinct).2.2 id old id new rfl
  refine ⟨fun id old => recorded.users id (fresh id old), recorded.cards, ?_, ?_, ?_⟩
  · intro id old missing
    by_cases deletes : operation = .deleteDeck id
    · exact (recorded.deleted id deletes).2
    · rw [recorded.decks id (fresh id old) deletes, missing]
      rintro patch changes
      obtain ⟨row, -, found, -⟩ := recorded.updated id patch changes
      rw [missing] at found
      cases found
  · intro id old found keeps
    have own := fresh id (known.mem_of_get? found)
    have stands : operation ≠ .deleteDeck id := by
      rintro rfl
      exact keeps ⟨result, List.mem_singleton_self _⟩
    by_cases changes : ∃ patch, operation = .updateDeck id patch
    · obtain ⟨patch, rfl⟩ := changes
      obtain ⟨old', new, found', updated, same⟩ := recorded.updated id patch rfl
      obtain rfl := Option.some.inj (found.symm.trans found')
      exact ⟨new, updated, same, fun untouched =>
        absurd ⟨patch, result, List.mem_singleton_self _⟩ untouched⟩
    · have same := recorded.decks id own stands (not_exists.mp changes)
      exact ⟨old, same.trans found, .refl old, fun _ => rfl⟩
  · rintro id ⟨released, member⟩
    obtain ⟨rfl, -⟩ := Made.mk.inj (List.mem_singleton.mp member)
    exact (recorded.deleted id rfl).2

theorem Recorded.known {operation : Operation} (known : Known past before)
    (recorded : Recorded operation ids before after) (valid : after.Valid) :
    Known (past ++ ids) after where
  valid := valid
  users id present := by
    by_cases new : id ∈ ids
    · exact List.mem_append_right _ new
    · rw [Table.contains, recorded.users id new] at present
      exact List.mem_append_left _ (known.users present)
  decks id present := by
    by_cases new : id ∈ ids
    · exact List.mem_append_right _ new
    · obtain ⟨row, found⟩ := Table.contains_iff.mp present
      refine List.mem_append_left _ ?_
      by_cases changes : ∃ patch, operation = .updateDeck id patch
      · obtain ⟨patch, rfl⟩ := changes
        obtain ⟨old, -, found', -⟩ := recorded.updated id patch rfl
        exact known.mem_of_get? found'
      · have stands : operation ≠ .deleteDeck id := fun deletes => by
          rw [(recorded.deleted id deletes).2] at found
          cases found
        rw [recorded.decks id new stands (not_exists.mp changes)] at found
        exact known.mem_of_get? found

theorem Known.mono (known : Known past before) (ids : List Uuid) : Known (past ++ ids) before where
  valid := known.valid
  users _ present := List.mem_append_left _ (known.users present)
  decks _ present := List.mem_append_left _ (known.decks present)

/-- An operation that is performed leaves alone what has been recorded before, and the deck
it deletes has been recorded. -/
theorem perform_stays {depot after : Depot} {operation : Operation}
    {outcome : Except Failure operation.Result} (known : Known past depot.store)
    (distinct : (past ++
      drawnIds moments (operation.task defaultCapacity) ⟨depot.store, depot.drawn⟩).Nodup)
    (performed : depot.perform moments defaultCapacity operation = (outcome, after)) :
    Stays past [⟨operation, outcome⟩] depot.store after.store ∧
      Known (past ++ drawnIds moments (operation.task defaultCapacity)
        ⟨depot.store, depot.drawn⟩) after.store ∧
      ∀ id, Deletes [⟨operation, outcome⟩] id → id ∈ past := by
  cases outcome with
  | error failure =>
      have idle (id : Uuid) : ¬ Deletes [⟨operation, .error failure⟩] id :=
        not_deletes_of_error failure id
      rw [(Depot.perform_eq_error performed).1]
      exact ⟨.same _ idle, known.mono _, fun id deletes => absurd deletes (idle id)⟩
  | ok result =>
      have valid : (depot.perform moments defaultCapacity operation).2.store.Valid :=
        perform_valid known.valid operation
      rw [performed] at valid
      have recorded : Recorded operation (drawnIds moments (operation.task defaultCapacity)
          ⟨depot.store, depot.drawn⟩) depot.store after.store := by
        obtain ⟨staged, ran, same⟩ := Depot.perform_eq_ok performed
        have effect := (task_recorded known.valid).ok ran
        cases mutating : operation.mutates with
        | true => rwa [same, if_pos mutating]
        | false =>
            have kept := (reads_of_not_mutates defaultCapacity mutating _).ok ran
            rw [same, if_neg (by simp [mutating])]
            exact kept ▸ effect
      refine ⟨recorded.stays known distinct, recorded.known known valid, ?_⟩
      rintro id ⟨released, member⟩
      obtain ⟨rfl, -⟩ := Made.mk.inj (List.mem_singleton.mp member)
      obtain ⟨old, found⟩ := (recorded.deleted id rfl).1
      exact known.mem_of_get? found

/-- Operations one after another leave alone what has been recorded before them. -/
theorem performAll_stays (operations : List Operation) {depot : Depot}
    (known : Known past depot.store)
    (distinct : (past ++ allDrawnIds moments defaultCapacity operations depot).Nodup) :
    let (made, after) := performAll moments defaultCapacity operations depot
    Stays past made depot.store after.store ∧
      Known (past ++ allDrawnIds moments defaultCapacity operations depot) after.store := by
  induction operations generalizing past depot with
  | nil => exact ⟨.same _ not_deletes_nil, known.mono _⟩
  | cons operation rest ih =>
      rw [allDrawnIds, ← List.append_assoc] at distinct ⊢
      obtain ⟨first, known', drawn⟩ :=
        perform_stays known (List.nodup_append.mp distinct).1 rfl
      obtain ⟨second, known''⟩ := ih known' distinct
      exact ⟨first.append second drawn, known''⟩

theorem known_empty : Known [] Store.empty where
  valid := Store.valid_empty
  users _ present := by cases present
  decks _ present := by cases present

end Runs

/-- Over operations one after another, in which no identifier is drawn twice, whatever is
recorded stays: users and printings are what they are, a deck keeps its identifier, its
owner and the time of its creation until it is deleted and changes in nothing else but by
changes of its own, and of a deck that has been deleted nothing comes back. -/
theorem records_stay (moments : Nat → Moment) (defaultCapacity : Int)
    (earlier later : List Operation)
    (distinct : (allDrawnIds moments defaultCapacity (earlier ++ later) .empty).Nodup) :
    let before := (performAll moments defaultCapacity earlier .empty).2
    let made := (performAll moments defaultCapacity later before).1
    let after := (performAll moments defaultCapacity later before).2
    (∀ id user, before.store.users.get? id = some user →
        after.store.users.get? id = some user) ∧
      (∀ id card, before.store.cards.get? id = some card →
        after.store.cards.get? id = some card) ∧
      (∀ id old, before.store.decks.get? id = some old → ¬ Deletes made id →
        ∃ new, after.store.decks.get? id = some new ∧ SameOrigin old new ∧
          (¬ Changes made id → new = old)) ∧
      ∀ id, Deletes made id → after.store.decks.get? id = none ∧
        ∀ card zone, after.store.entries.get? ⟨id, card, zone⟩ = none := by
  intro before made after
  rw [allDrawnIds_append] at distinct
  have early : ([] ++ allDrawnIds moments defaultCapacity earlier .empty).Nodup :=
    (List.nodup_append.mp distinct).1
  obtain ⟨-, known⟩ := performAll_stays earlier known_empty early
  obtain ⟨stays, known'⟩ := performAll_stays later known distinct
  refine ⟨fun id user found => ?_, stays.cards, stays.kept, fun id deletes => ?_⟩
  · rw [stays.users id (known.users (Table.contains_of_get? found)), found]
  · have missing := stays.gone id deletes
    refine ⟨missing, fun card zone => ?_⟩
    cases listed : after.store.entries.get? ⟨id, card, zone⟩ with
    | none => rfl
    | some entry =>
        -- An entry that were left would refer to a deck that is gone.
        have present := (known'.valid.entries listed).deck
        rw [Table.contains, missing] at present
        cases present

/-- Of two decks one is renamed and then the other deleted: what is left of the first is its
origin, what is left of the other nothing, and the user and the printing are as they were. -/
theorem renamed_and_deleted_deck_stay :
    let moments : Nat → Moment := fun n => ⟨⟨n, 0⟩, .ofNat n⟩
    let user : Uuid := .ofNat 0
    let card : Uuid := .ofNat 7
    let earlier : List Operation :=
      [.createUser ⟨"ada", none⟩, .registerCard ⟨card, "Bolt", none, none, none, none, [default]⟩,
        .createDeck ⟨user, "A", "modern", none, false, none⟩,
        .createDeck ⟨user, "B", "modern", none, false, none⟩, .creditBinder user card 4,
        .allocate (.ofNat 5) card 3 .main]
    let later : List Operation :=
      [.updateDeck (.ofNat 3) ⟨some "C", none, none, none⟩, .deleteDeck (.ofNat 5),
        .createDeck ⟨user, "B", "modern", none, false, none⟩]
    let before := (performAll moments 60 earlier .empty).2
    let after := (performAll moments 60 later before).2
    (allDrawnIds moments 60 (earlier ++ later) .empty).Nodup ∧
      (∃ row, before.store.users.get? user = some row ∧ after.store.users.get? user = some row) ∧
      (∃ row, before.store.cards.get? card = some row ∧ after.store.cards.get? card = some row) ∧
      (∃ old new, before.store.decks.get? (.ofNat 3) = some old ∧
        after.store.decks.get? (.ofNat 3) = some new ∧ SameOrigin old new ∧
        old.name = "A" ∧ new.name = "C") ∧
      after.store.decks.get? (.ofNat 5) = none ∧
      ∀ card zone, after.store.entries.get? ⟨.ofNat 5, card, zone⟩ = none := by
  intro moments user card earlier later
  have distinct : (allDrawnIds moments 60 (earlier ++ later) .empty).Nodup := by decide +kernel
  have stay := records_stay moments 60 earlier later distinct
  have known : (performAll moments 60 earlier .empty).2.store.users.contains user = true := by
    decide +kernel
  have registered : (performAll moments 60 earlier .empty).2.store.cards.contains card = true := by
    decide +kernel
  have named : ((performAll moments 60 earlier .empty).2.store.decks.get? (.ofNat 3)).map
      (fun deck => deck.name) = some "A" := by decide +kernel
  have renamed : ((performAll moments 60 later
      (performAll moments 60 earlier .empty).2).2.store.decks.get? (.ofNat 3)).map
      (fun deck => deck.name) = some "C" := by decide +kernel
  have keeps : ¬ Deletes (performAll moments 60 later
      (performAll moments 60 earlier .empty).2).1 (.ofNat 3) := by decide +kernel
  have deletes : Deletes (performAll moments 60 later
      (performAll moments 60 earlier .empty).2).1 (.ofNat 5) := by decide +kernel
  -- From here on nothing is to be computed.
  dsimp only at stay ⊢
  generalize performAll moments 60 earlier .empty = first at *
  generalize performAll moments 60 later first.2 = second at *
  obtain ⟨users, cards, decks, gone⟩ := stay
  obtain ⟨row, foundUser⟩ := Table.contains_iff.mp known
  obtain ⟨printing, foundCard⟩ := Table.contains_iff.mp registered
  obtain ⟨old, foundDeck, oldName⟩ := Option.map_eq_some_iff.mp named
  obtain ⟨new, kept, same, -⟩ := decks _ old foundDeck keeps
  obtain ⟨new', kept', newName⟩ := Option.map_eq_some_iff.mp renamed
  obtain rfl := Option.some.inj (kept.symm.trans kept')
  exact ⟨distinct, ⟨row, foundUser, users _ row foundUser⟩,
    ⟨printing, foundCard, cards _ printing foundCard⟩,
    ⟨old, new, foundDeck, kept, same, oldName, newName⟩, gone _ deletes⟩

end CardInventory.Inventory
