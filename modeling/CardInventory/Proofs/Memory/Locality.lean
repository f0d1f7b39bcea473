import CardInventory.Proofs.Memory.Agreement

/-!
# Requests within resources

A rule that works on some resources asks its requests within a scope. The scope tells
the resources, the owners of the decks among them, and the decks whose entries may be
listed; to those no entry is added. Within its scope a request is answered alike by
tables that agree on the resources, keeps them in agreement, and leaves everything else
as it is. This is carried through a whole rule by coupling two units of work.
-/

namespace CardInventory

open Memory Storage

/-- A reply without the times of the last changes. -/
def Storage.Request.untimed : (request : Request) → request.Reply → request.Reply
  | .lockBinderEntry _ _, entry => entry.map BinderEntry.untimed
  | .addToBinder _ _ _, entry => entry.untimed
  | .setInBinder _ _ _, entry => entry.untimed
  | .findDeck _, deck => deck.map Deck.untimed
  | .lockDecks _, decks => decks.map Deck.untimed
  | .updateDeck _ _, deck => deck.untimed
  | .entriesOfDeck _, entries => entries.map DeckEntry.untimed
  | .lockDeckEntry _ _ _, entry => entry.map DeckEntry.untimed
  | .addToDeck _ _ _ _, entry => entry.untimed
  | .setInDeck _ _ _ _, entry => entry.untimed
  | _, reply => reply

namespace Memory

/-- What a rule is to work within: resources, the owners of the decks among them, and decks
whose entries are to be listed. -/
structure Scope where
  within : Resource → Prop
  ownerOf : Uuid → Option Uuid
  listed : Uuid → Prop

namespace Scope

/-- The requests that may be asked within a scope. -/
def Allows (scope : Scope) : Request → Prop
  | .cardExists _ => True
  | .userExists _ => True
  | .lockBinderEntry user card => scope.within (.holding ⟨user, card⟩)
  | .addToBinder user card _ => scope.within (.holding ⟨user, card⟩)
  | .setInBinder user card _ => scope.within (.holding ⟨user, card⟩)
  | .deleteFromBinder user card => scope.within (.holding ⟨user, card⟩)
  | .findDeck deck => scope.within (.deck deck)
  | .lockDecks decks => ∀ deck ∈ decks, scope.within (.deck deck)
  | .updateDeck deck _ => scope.within (.deck deck)
  | .deleteDeck deck => scope.within (.deck deck)
  | .entriesOfDeck deck => scope.within (.deck deck) ∧ scope.listed deck
  | .lockDeckEntry deck _ _ => scope.within (.deck deck)
  | .addToDeck deck _ _ _ => scope.within (.deck deck) ∧ ¬scope.listed deck
  | .setInDeck deck _ _ _ => scope.within (.deck deck)
  | .deleteFromDeck deck _ _ => scope.within (.deck deck)
  | .clearDeck deck => scope.within (.deck deck)
  | .totalInDeck deck => scope.within (.deck deck)
  | _ => False

/-- The holding of a deck's owner that the copies of a card in the deck go back to. -/
def Returns (scope : Scope) (deck card : Uuid) : Prop :=
  ∃ owner, scope.ownerOf deck = some owner ∧ scope.within (.holding ⟨owner, card⟩)

/-- What is known of a reply within a scope. -/
def Tells (scope : Scope) : (request : Request) → request.Reply → Prop
  | .lockDecks _, rows => ∀ row ∈ rows, scope.ownerOf row.id = some row.owner
  | .entriesOfDeck deck, entries => ∀ entry ∈ entries, scope.Returns deck entry.card
  | _, _ => True

/-- Replies to a request within a scope are alike up to times, and tell what is known. -/
def Replies (scope : Scope) (request : Request) (reply reply' : request.Reply) : Prop :=
  request.untimed reply = request.untimed reply' ∧ scope.Tells request reply

/-- The decks of a scope have the owners it tells, and entries of a deck that is to be listed are
of cards that its owner's holdings within the scope are for. -/
structure Fits (scope : Scope) (store : Store) : Prop where
  decks : store.decks.Forall fun id row =>
    scope.within (.deck id) → row.id = id ∧ scope.ownerOf id = some row.owner
  filed : store.entries.Forall fun key entry => entry.deck = key.deck ∧ entry.card = key.card
  returns : store.entries.Forall fun key _ =>
    scope.listed key.deck → scope.Returns key.deck key.card

variable {scope : Scope} {store left right : Store} {request : Request}

/-! ## What a request can do -/

/-- What may become of tables when a request is answered within a scope. -/
inductive Changes (scope : Scope) (store : Store) : Store → Prop where
  | kept : Changes scope store store
  | hold {key : BinderKey} (within : scope.within (.holding key)) (entry : BinderEntry) :
      Changes scope store { store with binder := store.binder.insert key entry }
  | release {key : BinderKey} (within : scope.within (.holding key)) :
      Changes scope store { store with binder := store.binder.erase key }
  | update {id : Uuid} (within : scope.within (.deck id)) {old row : Deck}
      (found : store.decks.get? id = some old) (sameId : row.id = old.id)
      (sameOwner : row.owner = old.owner) :
      Changes scope store { store with decks := store.decks.insert id row }
  | place {key : EntryKey} (within : scope.within (.deck key.deck)) {entry : DeckEntry}
      (filed : entry.deck = key.deck ∧ entry.card = key.card)
      (fresh : scope.listed key.deck → store.entries.contains key = true) :
      Changes scope store { store with entries := store.entries.insert key entry }
  | remove {key : EntryKey} (within : scope.within (.deck key.deck)) :
      Changes scope store { store with entries := store.entries.erase key }
  | clear {deck : Uuid} (within : scope.within (.deck deck)) :
      Changes scope store (store.clearDeck deck)
  | delete {deck : Uuid} (within : scope.within (.deck deck)) :
      Changes scope store (store.deleteDeck deck)

theorem answer_changes (allowed : scope.Allows request) (moment : Moment) :
    scope.Changes store (store.answer moment request).2 := by
  cases request with
  | addToBinder user card quantity =>
      refine Store.settle_keeps .kept fun entry changed done => ?_
      obtain ⟨-, -, -, put⟩ := Store.addToBinder_eq_ok_iff.mp done
      obtain ⟨-, rfl, rfl⟩ := Store.putInBinder_eq_ok_iff.mp put
      exact .hold allowed _
  | setInBinder user card quantity =>
      refine Store.settle_keeps .kept fun entry changed done => ?_
      obtain ⟨-, put⟩ := Store.setInBinder_eq_ok_iff.mp done
      obtain ⟨-, rfl, rfl⟩ := Store.putInBinder_eq_ok_iff.mp put
      exact .hold allowed _
  | deleteFromBinder user card => exact .release allowed
  | updateDeck deck patch =>
      refine Store.settle_keeps .kept fun row changed done => ?_
      obtain ⟨old, found, rfl, -, rfl⟩ := Store.updateDeck_eq_ok_iff.mp done
      exact .update allowed found rfl rfl
  | deleteDeck deck => exact .delete allowed
  | addToDeck deck card zone quantity =>
      refine Store.settle_keeps .kept fun entry changed done => ?_
      obtain ⟨-, -, -, put⟩ := Store.addToDeck_eq_ok_iff.mp done
      obtain ⟨-, rfl, rfl⟩ := Store.putInDeck_eq_ok_iff.mp put
      exact .place allowed.1 ⟨rfl, rfl⟩ fun listed => absurd listed allowed.2
  | setInDeck deck card zone quantity =>
      refine Store.settle_keeps .kept fun entry changed done => ?_
      obtain ⟨present, put⟩ := Store.setInDeck_eq_ok_iff.mp done
      obtain ⟨-, rfl, rfl⟩ := Store.putInDeck_eq_ok_iff.mp put
      exact .place allowed ⟨rfl, rfl⟩ fun _ => present
  | deleteFromDeck deck card zone =>
      have within : scope.within (.deck (EntryKey.mk deck card zone).deck) := allowed
      exact .remove within
  | clearDeck deck => exact .clear allowed
  | createCard draft => cases allowed
  | createUser draft => cases allowed
  | createDeck draft => cases allowed
  | _ => exact .kept

/-- Tables go on fitting the scope within which they are changed. -/
theorem Changes.fits {after : Store} (changes : scope.Changes store after)
    (fits : scope.Fits store) : scope.Fits after := by
  have selected (keep : EntryKey → Bool) :
      scope.Fits { store with entries := store.entries.select keep } :=
    { fits with
      filed := (fits.filed.select keep).mono fun _ _ kept => kept.2
      returns := (fits.returns.select keep).mono fun _ _ kept => kept.2 }
  cases changes with
  | kept => exact fits
  | hold => exact ⟨fits.decks, fits.filed, fits.returns⟩
  | release => exact ⟨fits.decks, fits.filed, fits.returns⟩
  | update _ found sameId sameOwner =>
      refine { fits with decks := fits.decks.insert fun within => ?_ }
      rw [sameId, sameOwner]
      exact fits.decks found within
  | place _ filed fresh =>
      refine { fits with
        filed := fits.filed.insert filed
        returns := fits.returns.insert fun listed => ?_ }
      obtain ⟨old, found⟩ := Table.contains_iff.mp (fresh listed)
      exact fits.returns found listed
  | remove => exact selected _
  | clear => exact selected _
  | delete =>
      exact { selected _ with decks := (fits.decks.erase _).mono fun _ _ kept => kept.2 }

/-- Within a scope nothing is changed outside of its resources. -/
theorem Changes.frame {after : Store} (changes : scope.Changes store after) :
    Store.Agree (fun resource => ¬scope.within resource) store after := by
  have same : Store.Agree (fun resource => ¬scope.within resource) store store := .refl store
  have cleared {deck : Uuid} (within : scope.within (.deck deck)) :
      Store.Agree (fun resource => ¬scope.within resource) store (store.clearDeck deck) :=
    { same with
      entries := Table.agreeOn_select fun key outside =>
        decide_eq_true fun own => outside (own ▸ within) }
  cases changes with
  | kept => exact same
  | hold within entry =>
      exact { same with binder := Table.agreeOn_insert (fun outside => outside within) entry }
  | release within =>
      exact { same with binder := Table.agreeOn_erase fun outside => outside within }
  | update within =>
      exact { same with decks := Table.agreeOn_insert (fun outside => outside within) _ }
  | place within =>
      exact { same with entries := Table.agreeOn_insert (fun outside => outside within) _ }
  | remove within =>
      exact { same with entries := Table.agreeOn_erase fun outside => outside within }
  | clear within => exact cleared within
  | delete within =>
      exact { cleared within with decks := Table.agreeOn_erase fun outside => outside within }

/-- Tables that agree on the resources of a scope answer a request within it alike, and agree
afterwards. -/
theorem answer_alike (agree : Store.Agree scope.within left right) (fits : scope.Fits left)
    (fits' : scope.Fits right) (allowed : scope.Allows request) (moment moment' : Moment) :
    Paired (fun reply reply' => request.untimed reply = request.untimed reply')
        (left.answer moment request).1 (right.answer moment' request).1 ∧
      Store.Agree scope.within (left.answer moment request).2
        (right.answer moment' request).2 := by
  cases request with
  | cardExists card => exact ⟨.ok (congrArg (Table.contains · card) agree.cards), agree⟩
  | userExists user => exact ⟨.ok (congrArg (Table.contains · user) agree.users), agree⟩
  | lockBinderEntry user card => exact ⟨.ok (agree.binder allowed), agree⟩
  | addToBinder user card quantity =>
      exact agree.settle (agree.addToBinder moment moment' allowed quantity)
  | setInBinder user card quantity =>
      exact agree.settle (agree.setInBinder moment moment' allowed quantity)
  | deleteFromBinder user card =>
      exact ⟨.ok (agree.binder.contains_eq allowed),
        { agree with binder := agree.binder.erase _ }⟩
  | findDeck deck => exact ⟨.ok (agree.decks allowed), agree⟩
  | lockDecks decks =>
      refine ⟨.ok ?_, agree⟩
      simp only [Request.untimed, List.map_filterMap]
      exact List.filterMap_congr fun deck member => agree.decks (allowed deck member)
  | updateDeck deck patch =>
      exact agree.settle (agree.updateDeck moment moment' allowed patch)
  | deleteDeck deck => exact ⟨.ok (agree.decks.contains_eq allowed), agree.deleteDeck deck⟩
  | entriesOfDeck deck =>
      exact ⟨.ok (agree.entriesOf_eq allowed.1 (fits.filed.mono fun _ _ filed => filed.1)
        (fits'.filed.mono fun _ _ filed => filed.1)), agree⟩
  | lockDeckEntry deck card zone => exact ⟨.ok (agree.entries allowed), agree⟩
  | addToDeck deck card zone quantity =>
      exact agree.settle (agree.addToDeck moment moment' allowed.1 card zone quantity)
  | setInDeck deck card zone quantity =>
      exact agree.settle (agree.setInDeck moment moment' allowed card zone quantity)
  | deleteFromDeck deck card zone =>
      exact ⟨.ok (agree.entries.contains_eq allowed),
        { agree with entries := agree.entries.erase _ }⟩
  | clearDeck deck => exact ⟨.ok (agree.size_clearDeck_eq allowed), agree.clearDeck deck⟩
  | totalInDeck deck => exact ⟨.ok (agree.deckTotal_eq allowed), agree⟩
  | _ => cases allowed

/-- What is known of a reply within a scope is so where the tables fit the scope. -/
theorem answer_tells (fits : scope.Fits store) (allowed : scope.Allows request)
    {moment : Moment} {reply : request.Reply}
    (replied : (store.answer moment request).1 = .ok reply) : scope.Tells request reply := by
  cases request with
  | lockDecks decks =>
      obtain rfl := Except.ok.inj replied
      intro row member
      obtain ⟨deck, asked, found⟩ := List.mem_filterMap.mp member
      obtain ⟨keyed, owner⟩ := fits.decks found (allowed deck asked)
      rw [keyed, owner]
  | entriesOfDeck deck =>
      obtain rfl := Except.ok.inj replied
      intro entry member
      obtain ⟨stored, own⟩ := Store.mem_entriesOf.mp member
      obtain ⟨key, found⟩ := Table.mem_values.mp stored
      obtain ⟨sameDeck, sameCard⟩ := fits.filed found
      have sameKey : key.deck = deck := sameDeck.symm.trans own
      have returns : scope.Returns key.deck key.card := fits.returns found (sameKey ▸ allowed.2)
      rwa [sameKey, ← sameCard] at returns
  | _ => trivial

/-! ## A unit of work -/

/-- Two units of work whose tables agree on the resources of a scope, have left all others, and
have drawn as many moments. -/
structure Coupled (scope : Scope) (start start' work work' : Staged) : Prop where
  fits : scope.Fits work.store
  fits' : scope.Fits work'.store
  agree : Store.Agree scope.within work.store work'.store
  frame : Store.Agree (fun resource => ¬scope.within resource) start.store work.store
  frame' : Store.Agree (fun resource => ¬scope.within resource) start'.store work'.store
  drawn : work.drawn + start'.drawn = work'.drawn + start.drawn

/-- A request within a scope keeps units of work coupled. -/
theorem Coupled.step {start start' work work' : Staged}
    (coupled : scope.Coupled start start' work work') (allowed : scope.Allows request)
    (moments moments' : Nat → Moment) :
    Paired (scope.Replies request) (answerNext moments request work).1
        (answerNext moments' request work').1 ∧
      scope.Coupled start start' (answerNext moments request work).2
        (answerNext moments' request work').2 := by
  obtain ⟨alike, agree⟩ := answer_alike coupled.agree coupled.fits coupled.fits' allowed
    (moments work.drawn) (moments' work'.drawn)
  have changes : scope.Changes work.store _ := answer_changes allowed (moments work.drawn)
  have changes' : scope.Changes work'.store _ := answer_changes allowed (moments' work'.drawn)
  have drawn := coupled.drawn
  refine ⟨alike.and_ok fun reply replied => answer_tells coupled.fits allowed replied, ?_⟩
  exact {
    fits := changes.fits coupled.fits
    fits' := changes'.fits coupled.fits'
    agree := agree
    frame := coupled.frame.trans changes.frame
    frame' := coupled.frame'.trans changes'.frame
    drawn := by simp only [answerNext]; omega }

end Scope

end Memory

end CardInventory
