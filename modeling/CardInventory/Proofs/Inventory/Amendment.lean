import CardInventory.Proofs.Database.Assignment
import CardInventory.Proofs.Inventory.Permanence
import CardInventory.Proofs.Memory.Untimed

/-!
# Changes of a deck

A change of a deck is accepted if its fields are well-formed, the deck is there and a limit
that is set is not below the copies in it; it then changes the record of the deck and nothing
else. Two changes one after another come to one change, which takes each field from the later
one if it is there. The update that is written for a change makes the same of a row.
-/

namespace CardInventory

open Memory Storage Ledger Inventory Text Database

/-- Two changes in one: each field is that of the later change, or of the earlier one where the
later has none. -/
def DeckPatch.andThen (earlier later : DeckPatch) : DeckPatch where
  name := later.name.or earlier.name
  format := later.format.or earlier.format
  notes := later.notes.or earlier.notes
  capacity := later.capacity.or earlier.capacity

theorem DeckPatch.apply_andThen (earlier later : DeckPatch) (deck : Deck) (between now : Instant) :
    (earlier.andThen later).apply deck now = later.apply (earlier.apply deck between) now := by
  simp only [apply, andThen, Option.getD_or]

namespace Inventory

variable {moments : Nat → Moment} {defaultCapacity : Int} {depot : Depot} {store : Store}
  {id : Uuid} {patch checked : DeckPatch}

/-! ## Checked changes -/

theorem nonBlank_eq_ok {text checked : String} {reason : Reason}
    (accepted : nonBlank text reason = .ok checked) : checked = trim text := by
  unfold nonBlank at accepted
  split at accepted
  · cases accepted
  · exact (Except.ok.inj accepted).symm

theorem checkedPatch_eq_ok_iff :
    checkedPatch patch = .ok checked ↔
      patch.name.mapM (nonBlank · .blankDeckName) = .ok checked.name ∧
        patch.format.mapM (nonBlank · .blankDeckFormat) = .ok checked.format ∧
        patch.notes = checked.notes ∧
        patch.capacity.mapM (fun capacity => capacity.mapM validCapacity) =
          .ok checked.capacity := by
  simp only [checkedPatch, bind_eq_ok_iff, pure, Except.pure, Except.ok.injEq]
  constructor
  · rintro ⟨name, named, format, formatted, capacity, limited, rfl⟩
    exact ⟨named, formatted, rfl, limited⟩
  · rintro ⟨named, formatted, noted, limited⟩
    exact ⟨_, named, _, formatted, _, limited, by rw [noted]⟩

/-- The one of two arguments that comes first is checked as it is by itself. -/
theorem mapM_or {α β : Type} {check : α → Except Failure β} {first second : Option α}
    {checked checked' : Option β} (accepted : first.mapM check = .ok checked)
    (accepted' : second.mapM check = .ok checked') :
    (first.or second).mapM check = .ok (checked.or checked') := by
  cases first with
  | none =>
      obtain rfl : none = checked := Except.ok.inj accepted
      simpa using accepted'
  | some value =>
      rw [Option.mapM_some] at accepted
      cases outcome : check value with
      | error failure =>
          rw [outcome] at accepted
          cases accepted
      | ok result =>
          rw [outcome] at accepted
          cases accepted
          rw [Option.some_or, Option.mapM_some, outcome]
          rfl

/-- Two changes that are well-formed are so in one. -/
theorem checkedPatch_andThen {earlier later first second : DeckPatch}
    (accepted : checkedPatch earlier = .ok first) (accepted' : checkedPatch later = .ok second) :
    checkedPatch (earlier.andThen later) = .ok (first.andThen second) := by
  obtain ⟨name, format, notes, capacity⟩ := checkedPatch_eq_ok_iff.mp accepted
  obtain ⟨name', format', notes', capacity'⟩ := checkedPatch_eq_ok_iff.mp accepted'
  refine checkedPatch_eq_ok_iff.mpr
    ⟨mapM_or name' name, mapM_or format' format, ?_, mapM_or capacity' capacity⟩
  simp only [DeckPatch.andThen, notes, notes']

/-! ## What a change of a deck does -/

/-- A deck as a change leaves it: each field is what the change gives for it, a name or a format
without its blank ends, and is as it was where the change gives nothing. -/
structure Amended (patch : DeckPatch) (old new : Deck) : Prop extends SameOrigin old new where
  name : new.name = (patch.name.map trim).getD old.name
  format : new.format = (patch.format.map trim).getD old.format
  notes : new.notes = patch.notes.getD old.notes
  capacity : new.capacity = patch.capacity.getD old.capacity

theorem amended_of_checkedPatch (accepted : checkedPatch patch = .ok checked) (deck : Deck)
    (now : Instant) : Amended patch deck (checked.apply deck now) := by
  have capacity := capacity_of_checkedPatch accepted
  obtain ⟨name, format, notes, -⟩ := checkedPatch_eq_ok_iff.mp accepted
  have trimmed := mapM_eq_map (fun _ _ => nonBlank_eq_ok) name
  have trimmed' := mapM_eq_map (fun _ _ => nonBlank_eq_ok) format
  refine ⟨⟨rfl, rfl, rfl⟩, ?_, ?_, ?_, ?_⟩ <;>
    simp only [DeckPatch.apply, trimmed, trimmed', notes, capacity]

/-- A change of a deck that is accepted: it is well-formed, the deck is there, and a limit that
is set is not below the copies in it. -/
structure Accepted (store : Store) (id : Uuid) (patch checked : DeckPatch) (old : Deck) : Prop where
  wellFormed : checkedPatch patch = .ok checked
  found : store.decks.get? id = some old
  fits : ∀ limit, checked.capacity = some (some limit) → store.copiesIn id ≤ limit

/-- The tables with another record of a deck. -/
def withDeck (store : Store) (id : Uuid) (deck : Deck) : Store :=
  { store with decks := store.decks.insert id deck }

/-- A change that is accepted is made. -/
theorem Accepted.ends {old : Deck} (accepted : Accepted store id patch checked old)
    (valid : store.Valid) (drawn : Nat) :
    (changeDeck id checked).Ends (answerNext moments) .storage ⟨store, drawn⟩
      (fun deck after => ∃ now, deck = checked.apply old now ∧ after.store = withDeck store id deck)
      fun _ _ => False := by
  have updates : ∀ drawn, (ask (.updateDeck id checked)).Ends (answerNext moments) .storage
      ⟨store, drawn⟩
      (fun deck after => ∃ now, deck = checked.apply old now ∧ after.store = withDeck store id deck)
      fun _ _ => False := by
    intro drawn
    have sound := sound_of_checkedPatch accepted.wellFormed (valid.decks accepted.found).draft
    rw [ends_ask, Store.answer, Store.updateDeck_eq_ok_iff.mpr
      ⟨old, accepted.found, rfl, sound (moments drawn).time, rfl⟩]
    exact ⟨(moments drawn).time, rfl, rfl⟩
  simp only [changeDeck, Procedure.ends_bind, ends_lockDeck valid, accepted.found]
  cases limited : checked.capacity with
  | none => exact updates _
  | some limit =>
      have fits : checkCapacity limit (store.copiesIn id) 0 = .ok () := by
        refine checkCapacity_eq_ok_iff.mpr fun bound bounded => ?_
        have room := accepted.fits bound (by rw [limited, bounded])
        omega
      simp only [Procedure.ends_bind, ends_ask (.totalInDeck id), Store.answer,
        Procedure.ends_ofExcept, Store.deckTotal_eq_copiesIn valid, fits]
      exact updates _

section Attainable

variable (attainable : Attainable moments defaultCapacity depot)

include attainable

theorem perform_of_accepted {old : Deck} (accepted : Accepted depot.store id patch checked old) :
    ∃ now after,
      depot.perform moments defaultCapacity (.updateDeck id patch) =
        (.ok (checked.apply old now), after) ∧
      after.store = withDeck depot.store id (checked.apply old now) := by
  have rule : (Operation.updateDeck id patch).rule defaultCapacity = .ok (changeDeck id checked) :=
    bind_eq_ok_iff.mpr ⟨checked, accepted.wellFormed, rfl⟩
  have ends : (changeDeck id checked).Ends (answerNext moments) .storage
      ⟨depot.store, depot.drawn⟩ _ _ := accepted.ends attainable.valid depot.drawn
  rw [Depot.perform_eq_run attainable.refusal, task_of_ok rule]
  rcases ran : (changeDeck id checked).run (answerNext moments) .storage
    ⟨depot.store, depot.drawn⟩ with ⟨failure | deck, staged⟩
  · exact (ends.error ran).elim
  · obtain ⟨now, rfl, same⟩ := ends.ok ran
    exact ⟨now, depot.commit staged, by rw [ran]; rfl, same⟩

/-- A change that is made has been accepted. -/
theorem accepted_of_perform {deck : Deck} {after : Depot}
    (performed : depot.perform moments defaultCapacity (.updateDeck id patch) = (.ok deck, after)) :
    ∃ checked old now, Accepted depot.store id patch checked old ∧ deck = checked.apply old now ∧
      after.store = withDeck depot.store id deck := by
  obtain ⟨staged, ran, same⟩ := Depot.perform_eq_ok performed
  cases outcome : checkedPatch patch with
  | error failure =>
      have rule : (Operation.updateDeck id patch).rule defaultCapacity = .error failure := by
        rw [Operation.rule, outcome]
        rfl
      rw [task_of_error rule] at ran
      cases ran
  | ok checked =>
      have rule : (Operation.updateDeck id patch).rule defaultCapacity =
        .ok (changeDeck id checked) := bind_eq_ok_iff.mpr ⟨checked, outcome, rfl⟩
      rw [task_of_ok rule] at ran
      obtain ⟨fits, moment, updated⟩ := (changeDeck_ends attainable.valid id checked).ok ran
      obtain ⟨old, found, made, -, stored⟩ := Store.updateDeck_eq_ok_iff.mp updated
      exact ⟨checked, old, moment.time, ⟨outcome, found, fits⟩, made, same.trans stored⟩

end Attainable

/-- Where one change is accepted and another is after it, both are in one. -/
theorem Accepted.andThen {earlier later first second : DeckPatch} {old : Deck} {between : Instant}
    {middle : Deck} (opened : Accepted store id earlier first old)
    (closed : Accepted (withDeck store id (first.apply old between)) id later second middle) :
    middle = first.apply old between ∧
      Accepted store id (earlier.andThen later) (first.andThen second) old := by
  have found : some (first.apply old between) = some middle := by
    rw [← closed.found]
    exact (Table.get?_insert_self _ _ _).symm
  refine ⟨(Option.some.inj found).symm, checkedPatch_andThen opened.wellFormed closed.wellFormed,
    opened.found, fun limit limited => ?_⟩
  cases capacity : second.capacity with
  | none => exact opened.fits limit (by simpa [DeckPatch.andThen, capacity] using limited)
  | some bound => exact closed.fits limit (by simpa [DeckPatch.andThen, capacity] using limited)

/-! ## Changes one after another -/

/-- What a change of a deck comes to: it is refused and the tables are as they were, or the
record of the deck is amended and the tables are otherwise as they were. -/
inductive Changed (depot : Depot) (id : Uuid) (patch : DeckPatch) :
    Except Failure Deck × Depot → Prop where
  | refused {failure : Failure} {after : Depot} (same : after.store = depot.store) :
      Changed depot id patch (.error failure, after)
  | made {old deck : Deck} {after : Depot} (found : depot.store.decks.get? id = some old)
      (amended : Amended patch old deck) (same : after.store = withDeck depot.store id deck) :
      Changed depot id patch (.ok deck, after)

theorem withDeck_withDeck (store : Store) (id : Uuid) (deck deck' : Deck) :
    withDeck (withDeck store id deck) id deck' = withDeck store id deck' := by
  simp only [withDeck, Table.insert_insert]

section Attainable

variable (attainable : Attainable moments defaultCapacity depot)

include attainable

theorem changed_of_perform (patch : DeckPatch) :
    Changed depot id patch (depot.perform moments defaultCapacity (.updateDeck id patch)) := by
  rcases outcome : depot.perform moments defaultCapacity (.updateDeck id patch) with
    ⟨failure | deck, after⟩
  · exact .refused (Depot.perform_eq_error outcome).1
  · obtain ⟨checked, old, now, accepted, rfl, stored⟩ := accepted_of_perform attainable outcome
    exact .made accepted.found (amended_of_checkedPatch accepted.wellFormed old now) stored

/-- What two changes one after another do to a deck, they do in one. -/
theorem perform_andThen {earlier later : DeckPatch} {first second : Deck} {between after : Depot}
    (opened : depot.perform moments defaultCapacity (.updateDeck id earlier) =
      (.ok first, between))
    (closed : between.perform moments defaultCapacity (.updateDeck id later) =
      (.ok second, after)) :
    ∃ old deck once, depot.store.decks.get? id = some old ∧
      depot.perform moments defaultCapacity (.updateDeck id (earlier.andThen later)) =
        (.ok deck, once) ∧
      deck.untimed = second.untimed ∧ Amended (earlier.andThen later) old second ∧
      after.store = withDeck depot.store id second ∧ once.store = withDeck depot.store id deck := by
  obtain ⟨checked, old, now, accepted, rfl, stored⟩ := accepted_of_perform attainable opened
  have next : (depot.perform moments defaultCapacity (.updateDeck id earlier)).2 = between :=
    congrArg Prod.snd opened
  have attainable' : Attainable moments defaultCapacity between := next ▸ attainable.perform _
  obtain ⟨checked', middle, now', accepted', rfl, stored'⟩ :=
    accepted_of_perform attainable' closed
  rw [stored] at accepted' stored'
  obtain ⟨rfl, both⟩ := accepted.andThen accepted'
  obtain ⟨now'', once, performed, kept⟩ := perform_of_accepted attainable both
  rw [← DeckPatch.apply_andThen] at stored' ⊢
  exact ⟨old, _, once, accepted.found, performed, rfl,
    amended_of_checkedPatch both.wellFormed old now', stored'.trans (withDeck_withDeck _ _ _ _),
    kept⟩

end Attainable

/-- Two changes of a deck that are made one after another are made in one, which leaves the same
deck but for the time of its last change: each field as the later change gives it, or else the
earlier one, or else as it was. The origin of a deck stays, and nothing but its record is ever
changed. What is assigned by the update that is written for a change makes the row of the deck
that of the deck as it is changed in memory. -/
theorem deck_changes_compose (attainable : Attainable moments defaultCapacity depot) (id : Uuid) :
    let change (patch : DeckPatch) (depot : Depot) :=
      depot.perform moments defaultCapacity (.updateDeck id patch)
    (∀ earlier later first second between after,
      change earlier depot = (.ok first, between) → change later between = (.ok second, after) →
        ∃ old deck once, depot.store.decks.get? id = some old ∧
          change (earlier.andThen later) depot = (.ok deck, once) ∧
          deck.untimed = second.untimed ∧ Amended (earlier.andThen later) old second ∧
          after.store = withDeck depot.store id second ∧
          once.store = withDeck depot.store id deck) ∧
      (∀ patch, Changed depot id patch (change patch depot)) ∧
      ∀ (patch : DeckPatch) (deck : Deck) (stamp : Instant → Value), ∃ update,
        readUpdate "decks" (Statement.updateDeck id patch).written = some update ∧
          update.condition.holds (fieldOf (deckFields stamp deck)) = decide (deck.id = id) ∧
          (∀ now, update.over (fieldOf (deckFields stamp deck)) (stamp now) =
            fieldOf (deckFields stamp (patch.apply deck now))) ∧
          ∀ (store changed : Store) (moment : Moment) (new : Deck),
            store.decks.get? id = some deck →
            store.updateDeck id patch moment = .ok (new, changed) →
            update.over (fieldOf (deckFields stamp deck)) (stamp moment.time) =
              fieldOf (deckFields stamp new) := by
  intro change
  refine ⟨fun earlier later first second between after opened closed =>
    perform_andThen attainable opened closed, changed_of_perform attainable, ?_⟩
  intro patch deck stamp
  refine ⟨deckUpdate id patch, readUpdate_deck id patch, deckUpdate_condition id patch stamp deck,
    deckUpdate_over id patch stamp deck, ?_⟩
  intro store changed moment new found updated
  obtain ⟨old, found', rfl, -, -⟩ := Store.updateDeck_eq_ok_iff.mp updated
  obtain rfl := Option.some.inj (found.symm.trans found')
  exact deckUpdate_over id patch stamp deck moment.time

/-- A deck is renamed and limited, and then its notes are cleared and its format changed: in one
change it becomes the same deck. -/
theorem renamed_then_cleared_deck :
    let moments : Nat → Moment := fun n => ⟨⟨n, 0⟩, .ofNat n⟩
    let depot := ((Depot.empty.perform moments 60 (.createUser ⟨"ada", none⟩)).2.perform moments 60
      (.createDeck ⟨.ofNat 0, "A", "modern", none, false, some "first"⟩)).2
    let change (patch : DeckPatch) (depot : Depot) :=
      depot.perform moments 60 (.updateDeck (.ofNat 2) patch)
    let earlier : DeckPatch := ⟨some " B ", none, some (some "second"), some (some 40)⟩
    let later : DeckPatch := ⟨none, some "legacy", some none, none⟩
    Attainable moments 60 depot ∧ ∃ first second deck,
      (change earlier depot).1 = .ok first ∧
        (change later (change earlier depot).2).1 = .ok second ∧
        (change (earlier.andThen later) depot).1 = .ok deck ∧ deck.untimed = second.untimed ∧
        second.name = "B" ∧ second.format = "legacy" ∧ second.notes = none ∧
        second.capacity = some 40 := by
  intro moments depot change earlier later
  have attainable : Attainable moments 60 depot := .perform (.perform .empty _) _
  have opens : ((change earlier depot).1.toOption).isSome = true := by decide +kernel
  have closes : ((change later (change earlier depot).2).1.toOption.map fun deck =>
      (deck.name, deck.format, deck.notes, deck.capacity)) =
        some ("B", "legacy", none, some 40) := by decide +kernel
  clear_value depot
  rcases opened : change earlier depot with ⟨failure | first, between⟩
  · rw [opened] at opens
    cases opens
  rw [opened] at closes
  rcases closed : change later between with ⟨failure | second, after⟩
  · rw [closed] at closes
    cases closes
  obtain ⟨old, deck, once, -, performed, same, -⟩ :=
    (deck_changes_compose attainable (.ofNat 2)).1 earlier later first second between after
      opened closed
  rw [closed] at closes
  obtain ⟨name, format, notes, capacity⟩ :
      second.name = "B" ∧ second.format = "legacy" ∧ second.notes = none ∧
        second.capacity = some 40 := by simpa [Except.toOption] using closes
  exact ⟨attainable, first, second, deck, rfl, rfl, congrArg Prod.fst performed, same,
    name, format, notes, capacity⟩

end Inventory

end CardInventory
