import CardInventory.Proofs.Inventory.Reading
import CardInventory.Proofs.Ledger.Release

/-!
# Effects of operations

What an operation that succeeds does to sound tables: they stay sound, and the
copies each user owns change by what the operation is for. A credit and a debit
change one number, every other operation none. The identifier under which a deck
is created must not be that of a deck that exists.
-/

namespace CardInventory.Inventory

open Memory Storage Ledger

/-- Whether a deck that is to be created gets an identifier that no deck has. -/
def hasNewId (moments : Nat → Moment) : Request → Staged → Bool
  | .createDeck _, staged => !staged.store.decks.contains (moments staged.drawn).fresh
  | _, _ => true

/-- Every deck that a rule creates gets an identifier that no deck has. -/
def NewIds {α : Type} (moments : Nat → Moment) (rule : Ledger α) (staged : Staged) : Prop :=
  rule.Meets (answerNext moments) (fun request staged => hasNewId moments request staged = true)
    staged

instance {α : Type} (moments : Nat → Moment) (rule : Ledger α) (staged : Staged) :
    Decidable (NewIds moments rule staged) :=
  Procedure.decidableMeets rule staged

/-- The copies of a card a user gains by an operation that succeeds. -/
def Operation.gain (operation : Operation) (user card : Uuid) : Int :=
  match operation with
  | .creditBinder owner credited quantity =>
      if user = owner ∧ card = credited then quantity else 0
  | .debitBinder owner debited quantity =>
      if user = owner ∧ card = debited then -quantity else 0
  | _ => 0

/-- The tables stay sound, and users own what they have owned and what they have gained. -/
structure Effect (before after : Store) (gained : Uuid → Uuid → Int) : Prop where
  sound : after.Sound
  owned : ∀ user card, after.owned user card = before.owned user card + gained user card

variable {moments : Nat → Moment} {store : Store} {drawn : Nat}

theorem Effect.refl (sound : store.Sound) : Effect store store fun _ _ => 0 :=
  ⟨sound, fun _ _ => (Int.add_zero _).symm⟩

theorem Effect.trans {between after : Store} {gained gained' : Uuid → Uuid → Int}
    (first : Effect store between gained) (second : Effect between after gained') :
    Effect store after fun user card => gained user card + gained' user card :=
  ⟨second.sound, fun user card => by rw [second.owned, first.owned, Int.add_assoc]⟩

theorem effect_of_moved {after : Store} {gained : Uuid → Uuid → Int} {grown : Uuid → Int}
    (moved : Store.Moved store after gained grown)
    (fits : ∀ ⦃deck row limit⦄, store.decks.get? deck = some row → row.capacity = some limit →
      store.copiesIn deck + grown deck ≤ limit) : Effect store after gained :=
  ⟨⟨moved.valid, moved.withinLimits fits⟩, moved.owned⟩

/-! ## Users, cards and decks -/

theorem effect_insertUser (sound : store.Sound) {draft : UserDraft} {user : User}
    {moment : Moment} {changed : Store}
    (created : store.createUser draft moment = .ok (user, changed)) :
    Effect store changed fun _ _ => 0 := by
  obtain ⟨named, unused, rfl, rfl⟩ := Store.createUser_eq_ok_iff.mp created
  exact ⟨⟨sound.valid.insertUser ⟨rfl, named⟩ unused, sound.limits⟩,
    fun _ _ => (Int.add_zero _).symm⟩

theorem effect_insertCard (sound : store.Sound) {draft : CardDraft} {card : Card}
    {moment : Moment} {changed : Store}
    (created : store.createCard draft moment = .ok (card, changed)) :
    Effect store changed fun _ _ => 0 := by
  obtain ⟨_, rfl, rfl⟩ := Store.createCard_eq_ok_iff.mp created
  exact ⟨⟨sound.valid.insertCard rfl, sound.limits⟩, fun _ _ => (Int.add_zero _).symm⟩

/-- A deck under a new identifier holds nothing yet, so that any limit allows for it. -/
theorem effect_createDeck (sound : store.Sound) {draft : DeckDraft} {deck : Deck}
    {moment : Moment} {changed : Store} (unused : store.decks.contains moment.fresh = false)
    (created : store.createDeck draft moment = .ok (deck, changed)) :
    Effect store changed fun _ _ => 0 := by
  have missing := Table.contains_eq_false_iff.mp unused
  obtain ⟨owner, draftSound, rfl, rfl⟩ := Store.createDeck_eq_ok_iff.mp created
  refine ⟨⟨sound.valid.insertDeck ⟨rfl, owner, draftSound⟩,
    sound.limits.insertDeck fun limit limited => ?_⟩, fun user card => ?_⟩
  · have positive := draftSound.capacity limit limited
    rw [Store.copiesIn_eq_zero sound.valid missing]
    omega
  · rw [Int.add_zero]
    exact Store.owned_insertDeck_of_new missing user card
      (Store.inDeck_eq_zero sound.valid missing card)

/-- A deck that is changed keeps its owner, and a limit that is set has been checked. -/
theorem effect_updateDeck (sound : store.Sound) {id : Uuid} {patch : DeckPatch} {deck : Deck}
    {moment : Moment} {changed : Store}
    (fits : ∀ limit, patch.capacity = some (some limit) → store.copiesIn id ≤ limit)
    (updated : store.updateDeck id patch moment = .ok (deck, changed)) :
    Effect store changed fun _ _ => 0 := by
  obtain ⟨old, found, rfl, draftSound, rfl⟩ := Store.updateDeck_eq_ok_iff.mp updated
  refine ⟨⟨sound.valid.insertDeck
    ⟨(sound.valid.decks found).keyed, (sound.valid.decks found).owner, draftSound⟩,
    sound.limits.insertDeck fun limit limited => ?_⟩, fun user card => ?_⟩
  · cases requested : patch.capacity with
    | none => exact sound.limits found (by simpa [DeckPatch.apply, requested] using limited)
    | some capacity =>
        refine fits limit ?_
        simpa [DeckPatch.apply, requested] using limited
  · rw [Int.add_zero]
    have sameId : (patch.apply old moment.time).id = old.id := rfl
    exact Store.owned_insertDeck_of_same found sameId rfl user card

theorem createUser_effect (sound : store.Sound) (draft : UserDraft) :
    (ask (.createUser draft)).Ends (answerNext moments) .storage ⟨store, drawn⟩
      (fun _ after => Effect store after.store fun _ _ => 0) (fun _ _ => True) := by
  simp only [ends_ask (.createUser draft), Store.answer]
  rcases created : store.createUser draft (moments drawn) with fault | ⟨user, changed⟩
  · exact True.intro
  · exact effect_insertUser sound created

theorem registerCard_effect (sound : store.Sound) (draft : CardDraft) :
    (ask (.createCard draft)).Ends (answerNext moments) .storage ⟨store, drawn⟩
      (fun _ after => Effect store after.store fun _ _ => 0) (fun _ _ => True) := by
  simp only [ends_ask (.createCard draft), Store.answer]
  rcases created : store.createCard draft (moments drawn) with fault | ⟨card, changed⟩
  · exact True.intro
  · exact effect_insertCard sound created

theorem createDeck_effect (sound : store.Sound) (draft : DeckDraft)
    (newIds : NewIds moments (ensureUser draft.owner >>= fun _ => ask (.createDeck draft))
      ⟨store, drawn⟩) :
    (ensureUser draft.owner >>= fun _ => ask (.createDeck draft)).Ends (answerNext moments)
      .storage ⟨store, drawn⟩
      (fun _ after => Effect store after.store fun _ _ => 0) (fun _ _ => True) := by
  have asked := ((Procedure.meets_bind .storage _ _ _).mp newIds).2
  rw [ends_ensureUser] at asked
  rw [Procedure.ends_bind, ends_ensureUser]
  by_cases owner : store.users.contains draft.owner = true
  · rw [if_pos owner] at asked
    rw [if_pos owner]
    have unused : store.decks.contains (moments (drawn + 1)).fresh = false := by
      simpa [hasNewId] using (Procedure.meets_request _ _).mp asked
    simp only [ends_ask (.createDeck draft), Store.answer]
    rcases created : store.createDeck draft (moments (drawn + 1)) with fault | ⟨deck, changed⟩
    · exact True.intro
    · exact effect_createDeck sound unused created
  · rw [if_neg owner]
    exact True.intro

theorem changeDeck_ends (valid : store.Valid) (id : Uuid) (patch : DeckPatch) :
    (changeDeck id patch).Ends (answerNext moments) .storage ⟨store, drawn⟩
      (fun deck after =>
        (∀ limit, patch.capacity = some (some limit) → store.copiesIn id ≤ limit) ∧
          ∃ moment, store.updateDeck id patch moment = .ok (deck, after.store))
      (fun failure after => after.store = store ∧
        (failure.exceeds = true → ∃ row limit, store.decks.get? id = some row ∧
          patch.capacity = some (some limit) ∧ limit < store.copiesIn id ∧
          failure = .overCapacity (store.copiesIn id) limit 0)) := by
  simp only [changeDeck, Procedure.ends_bind, ends_lockDeck valid]
  cases found : store.decks.get? id with
  | none => exact ⟨trivial, fun beyond => by cases beyond⟩
  | some row =>
      cases requested : patch.capacity with
      | none =>
          simp only [ends_ask (.updateDeck id patch), Store.answer]
          rcases updated : store.updateDeck id patch (moments (drawn + 1)) with
            fault | ⟨deck, changed⟩
          · exact ⟨rfl, fun beyond => by cases beyond⟩
          · exact ⟨fun limit limited => by simp at limited, _, updated⟩
      | some limit =>
          simp only [Procedure.ends_bind, ends_ask (.totalInDeck id), Store.answer,
            Procedure.ends_ofExcept, Store.deckTotal_eq_copiesIn valid]
          cases capacity : checkCapacity limit (store.copiesIn id) 0 with
          | error failure =>
              obtain ⟨bound, rfl, beyond, rfl⟩ := checkCapacity_eq_error_iff.mp capacity
              exact ⟨trivial, fun _ => ⟨row, bound, rfl, rfl, by omega, rfl⟩⟩
          | ok _ =>
              have fits := checkCapacity_eq_ok_iff.mp capacity
              simp only [ends_ask (.updateDeck id patch), Store.answer]
              rcases updated : store.updateDeck id patch (moments (drawn + 1 + 1)) with
                fault | ⟨deck, changed⟩
              · exact ⟨rfl, fun beyond => by cases beyond⟩
              · refine ⟨fun bound limited => ?_, _, updated⟩
                have room := fits bound (Option.some.inj limited)
                omega

theorem changeDeck_effect (sound : store.Sound) (id : Uuid) (patch : DeckPatch) :
    (changeDeck id patch).Ends (answerNext moments) .storage ⟨store, drawn⟩
      (fun _ after => Effect store after.store fun _ _ => 0) (fun _ _ => True) := by
  apply (changeDeck_ends sound.valid id patch).mono_ok
  rintro deck after ⟨fits, moment, updated⟩
  exact effect_updateDeck sound fits updated

/-! ## Movements -/

theorem effect_of_kept {after : Store} {gained : Uuid → Uuid → Int} (sound : store.Sound)
    (moved : Store.Moved store after gained fun _ => 0) : Effect store after gained :=
  effect_of_moved moved fun deck row limit found limited => by
    rw [Int.add_zero]
    exact sound.limits found limited

theorem credit_effect (sound : store.Sound) (user card : Uuid) (quantity : Int) :
    (credit user card quantity).Ends (answerNext moments) .storage ⟨store, drawn⟩
      (fun _ after => Effect store after.store fun user' card' =>
        if user' = user ∧ card' = card then quantity else 0)
      (fun _ _ => True) := by
  apply (credit_ends sound.valid user card quantity).mono_ok
  rintro _ after ⟨accepted, time, -, same⟩
  rw [same]
  exact effect_of_kept sound (sound.valid.moved_credited accepted time)

theorem debit_effect (sound : store.Sound) (user card : Uuid) (quantity : Int) :
    (debit user card quantity).Ends (answerNext moments) .storage ⟨store, drawn⟩
      (fun _ after => Effect store after.store fun user' card' =>
        if user' = user ∧ card' = card then -quantity else 0)
      (fun _ _ => True) := by
  apply (debit_ends sound.valid user card quantity).mono_ok
  rintro _ after ⟨accepted, time, same⟩
  rw [same]
  exact effect_of_kept sound (sound.valid.moved_debited accepted time)

theorem releaseDeck_effect (sound : store.Sound) (deck : Uuid) :
    (releaseDeck deck).Ends (answerNext moments) .storage ⟨store, drawn⟩
      (fun _ after => Effect store after.store fun _ _ => 0) (fun _ _ => True) := by
  apply (releaseDeck_ends sound.valid deck).mono_ok
  rintro _ after ⟨-, released, -⟩
  refine ⟨⟨released.valid, released.withinLimits sound.limits⟩, fun user card => ?_⟩
  rw [Int.add_zero]
  exact released.owned user card

theorem allocate_effect (sound : store.Sound) (deck card : Uuid) (quantity : Int)
    (zone : Zone) :
    (allocate deck card quantity zone).Ends (answerNext moments) .storage ⟨store, drawn⟩
      (fun _ after => Effect store after.store fun _ _ => 0) (fun _ _ => True) := by
  apply (allocate_ends sound.valid deck card quantity zone).mono_ok
  rintro _ after ⟨accepted, moved, -⟩
  refine effect_of_moved moved fun other row limit found limited => ?_
  rcases Store.allocationRefusal_cases store deck card quantity zone with
    ⟨_, refused, -⟩ | ⟨_, _, -, -, -, refused⟩ | ⟨row', found', fits, -⟩
  · cases refused.symm.trans accepted
  · cases refused.symm.trans accepted
  · split
    · rename_i same
      subst same
      obtain rfl := Option.some.inj (found.symm.trans found')
      exact fits limit limited
    · rw [Int.add_zero]
      exact sound.limits found limited

theorem deallocate_effect (sound : store.Sound) (deck card : Uuid) (quantity : Int)
    (zone : Option Zone) :
    (deallocate deck card quantity zone).Ends (answerNext moments) .storage ⟨store, drawn⟩
      (fun _ after => Effect store after.store fun _ _ => 0) (fun _ _ => True) := by
  apply (deallocate_ends sound.valid deck card quantity zone).mono_ok
  rintro _ after ⟨accepted, _, _, _, _, -, -, -, moved⟩
  have positive := Store.positive_of_deallocationRefusal accepted
  refine effect_of_moved moved fun other row limit found limited => ?_
  have fits := sound.limits found limited
  split <;> omega

theorem transfer_effect (sound : store.Sound) (source destination card : Uuid)
    (quantity : Int) (zone : Option Zone) :
    (transfer source destination card quantity zone).Ends (answerNext moments) .storage
      ⟨store, drawn⟩
      (fun _ after => Effect store after.store fun _ _ => 0) (fun _ _ => True) := by
  apply (transfer_ends sound.valid source destination card quantity zone).mono_ok
  rintro _ after ⟨accepted, moved⟩
  refine effect_of_moved moved fun other row limit found limited => ?_
  have before := sound.limits found limited
  rcases Store.transferRefusal_cases store source destination card quantity zone with
    ⟨_, refused, -⟩ | ⟨_, _, -, -, -, refused⟩ | ⟨row', positive, different, found', fits, -⟩
  · cases refused.symm.trans accepted
  · cases refused.symm.trans accepted
  · by_cases same : other = destination
    · subst same
      obtain rfl := Option.some.inj (found.symm.trans found')
      have room := fits limit limited
      rw [if_neg (Ne.symm different), if_pos rfl]
      omega
    · rw [if_neg same]
      split <;> omega

theorem moveZone_effect (sound : store.Sound) (deck card : Uuid) (quantity : Int)
    (source target : Zone) :
    (moveZone deck card quantity source target).Ends (answerNext moments) .storage
      ⟨store, drawn⟩
      (fun _ after => Effect store after.store fun _ _ => 0) (fun _ _ => True) := by
  apply (moveZone_ends sound.valid deck card quantity source target).mono_ok
  rintro _ after ⟨-, moved⟩
  exact effect_of_kept sound moved

/-! ## All operations -/

theorem effect_of_reading (sound : store.Sound) (defaultCapacity : Int) {operation : Operation}
    (reading : operation.mutates = false) (gainless : ∀ user card, operation.gain user card = 0) :
    (operation.task defaultCapacity).Ends (answerNext moments) .storage ⟨store, drawn⟩
      (fun _ after => Effect store after.store operation.gain) (fun _ _ => True) := by
  apply (reads_of_not_mutates defaultCapacity reading drawn).mono_ok
  rintro _ after same
  rw [same]
  exact ⟨sound, fun user card => by rw [gainless, Int.add_zero]⟩

/-- A rule that succeeds on sound tables leaves them sound, and changes what users own by
the gain of its operation alone. -/
theorem rule_effect (sound : store.Sound) {defaultCapacity : Int} {operation : Operation}
    {rule : Ledger operation.Result} (accepted : operation.rule defaultCapacity = .ok rule)
    (newIds : NewIds moments rule ⟨store, drawn⟩) :
    rule.Ends (answerNext moments) .storage ⟨store, drawn⟩
      (fun _ after => Effect store after.store operation.gain) (fun _ _ => True) := by
  cases operation with
  | createUser draft =>
      rw [Operation.rule] at accepted
      split at accepted
      · cases accepted
      · obtain rfl := Except.ok.inj accepted
        exact createUser_effect sound draft
  | registerCard draft =>
      rw [Operation.rule] at accepted
      split at accepted
      · cases accepted
      · split at accepted
        · cases accepted
        · obtain rfl := Except.ok.inj accepted
          exact registerCard_effect sound draft
  | creditBinder user card quantity =>
      obtain rfl := Except.ok.inj accepted
      exact credit_effect sound user card quantity
  | debitBinder user card quantity =>
      obtain rfl := Except.ok.inj accepted
      exact debit_effect sound user card quantity
  | createDeck proposal =>
      obtain ⟨draft, -, accepted⟩ := bind_eq_ok_iff.mp accepted
      obtain rfl := Except.ok.inj accepted
      exact createDeck_effect sound draft newIds
  | updateDeck id patch =>
      obtain ⟨patch', -, accepted⟩ := bind_eq_ok_iff.mp accepted
      obtain rfl := Except.ok.inj accepted
      exact changeDeck_effect sound id patch'
  | deleteDeck id =>
      obtain rfl := Except.ok.inj accepted
      exact releaseDeck_effect sound id
  | allocate deck card quantity zone =>
      obtain rfl := Except.ok.inj accepted
      exact allocate_effect sound deck card quantity zone
  | deallocate deck card quantity zone =>
      obtain rfl := Except.ok.inj accepted
      exact deallocate_effect sound deck card quantity zone
  | transfer source destination card quantity zone =>
      obtain rfl := Except.ok.inj accepted
      exact transfer_effect sound source destination card quantity zone
  | moveZone deck card quantity source target =>
      obtain rfl := Except.ok.inj accepted
      exact moveZone_effect sound deck card quantity source target
  | _ =>
      rw [← task_of_ok accepted]
      exact effect_of_reading sound defaultCapacity rfl fun _ _ => rfl

/-- An operation that succeeds on sound tables leaves them sound, and changes what users
own by its gain alone. -/
theorem effect_ends (sound : store.Sound) (defaultCapacity : Int) (operation : Operation)
    (newIds : NewIds moments (operation.task defaultCapacity) ⟨store, drawn⟩) :
    (operation.task defaultCapacity).Ends (answerNext moments) .storage ⟨store, drawn⟩
      (fun _ after => Effect store after.store operation.gain) (fun _ _ => True) := by
  cases checked : operation.rule defaultCapacity with
  | error failure =>
      rw [task_of_error checked, Procedure.ends_fail]
      exact True.intro
  | ok rule =>
      rw [task_of_ok checked] at newIds ⊢
      exact rule_effect sound checked newIds

end CardInventory.Inventory
