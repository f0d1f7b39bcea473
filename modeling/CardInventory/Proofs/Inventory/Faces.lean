import CardInventory.Api.Body.Card
import CardInventory.Proofs.Inventory.Arithmetic
import CardInventory.Proofs.Inventory.Concurrent
import CardInventory.Proofs.Ledger.DeckList

/-!
# Faces in the catalog

A printing gets into the tables by a registration and is never altered after that. So its
faces are those of the registration, in the order of their indices. Nothing looks at indices
that occur twice: the faces of a printing have distinct indices just if they came with
distinct ones, as they do when they are numbered in the order in which they come.
-/

namespace CardInventory

/-! ## Faces in order -/

namespace Face

/-- The faces of a printing are told apart by their indices, and listed by them. -/
def Keyed (faces : List Face) : Prop :=
  faces.Pairwise fun left right => left.index < right.index

instance (faces : List Face) : Decidable (Keyed faces) :=
  inferInstanceAs (Decidable (faces.Pairwise fun left right => left.index < right.index))

theorem index_le_trans (first second third : Face) :
    decide (first.index ≤ second.index) → decide (second.index ≤ third.index) →
      decide (first.index ≤ third.index) := by
  simp only [decide_eq_true_eq]
  omega

theorem index_le_total (first second : Face) :
    decide (first.index ≤ second.index) || decide (second.index ≤ first.index) := by
  simp only [Bool.or_eq_true, decide_eq_true_eq]
  omega

theorem inOrder_perm (faces : List Face) : (inOrder faces).Perm faces :=
  List.mergeSort_perm _ _

theorem pairwise_inOrder (faces : List Face) :
    (inOrder faces).Pairwise fun left right => left.index ≤ right.index := by
  have sorted : (inOrder faces).Pairwise fun left right => decide (left.index ≤ right.index) :=
    List.pairwise_mergeSort index_le_trans index_le_total faces
  exact sorted.imp of_decide_eq_true

/-- Faces of one index keep the order in which they came. -/
theorem filter_inOrder (faces : List Face) (index : Int) :
    (inOrder faces).filter (fun face => face.index = index) =
      faces.filter fun face => face.index = index := by
  have equal : (faces.filter fun face => face.index = index).Pairwise
      fun left right => decide (left.index ≤ right.index) = true := by
    refine List.pairwise_of_forall_mem_list fun left member right member' => ?_
    have own : left.index = index := by simpa using (List.mem_filter.mp member).2
    have own' : right.index = index := by simpa using (List.mem_filter.mp member').2
    exact decide_eq_true (by omega)
  rw [inOrder, Ledger.filter_mergeSort index_le_trans index_le_total,
    List.mergeSort_of_pairwise equal]

theorem keyed_inOrder_iff {faces : List Face} :
    Keyed (inOrder faces) ↔ (faces.map Face.index).Nodup := by
  rw [← ((inOrder_perm faces).map Face.index).nodup_iff, List.Nodup, List.pairwise_map]
  constructor
  · exact List.Pairwise.imp fun {left right} before => by omega
  · intro distinct
    refine ((pairwise_inOrder faces).and distinct).imp fun {left right} both => ?_
    obtain ⟨ordered, different⟩ := both
    omega

theorem inOrder_of_keyed {faces : List Face} (keyed : Keyed faces) : inOrder faces = faces :=
  List.mergeSort_of_pairwise (keyed.imp fun {left right} before => decide_eq_true (by omega))

/-- Faces that are numbered in the order in which they come have distinct indices. -/
theorem keyed_numberFaces (faces : List Face) : Keyed (Api.numberFaces faces) := by
  have numbers : (faces.zipIdx.map Prod.snd).Pairwise (· < ·) := by
    rw [List.zipIdx_map_snd]
    exact List.pairwise_lt_range'
  rw [List.pairwise_map] at numbers
  rw [Keyed, Api.numberFaces, List.pairwise_map]
  exact numbers.imp fun {left right} before => Int.ofNat_lt.mpr before

end Face

namespace Inventory

open Memory Storage Ledger Text

/-! ## What an operation does to the catalog -/

/-- The printing that a registration makes of a draft. -/
structure Registers (draft : CardDraft) (card : Card) (before after : Store) : Prop where
  unused : before.cards.contains draft.id = false
  made : ∃ time, card = { draft with faces := Face.inOrder draft.faces, createdAt := time }
  added : after.cards = before.cards.insert draft.id card

/-- What an operation that succeeds does to the printings: a registration adds one, any other
operation leaves them as they are. -/
def Catalogs (before after : Store) : (operation : Operation) → operation.Result → Prop
  | .registerCard draft, card => Registers draft card before after
  | _, _ => after.cards = before.cards

section Catalogs

variable {moments : Nat → Moment} {defaultCapacity : Int} {store : Store} {drawn : Nat}
  {operation : Operation}

theorem catalogs_of_same {after : Store} {result : operation.Result}
    (other : ∀ draft, operation ≠ .registerCard draft) (same : after.cards = store.cards) :
    Catalogs store after operation result := by
  cases operation with
  | registerCard draft => exact absurd rfl (other draft)
  | _ => exact same

theorem registerCard_catalogs (draft : CardDraft) :
    (ask (.createCard draft)).Ends (answerNext moments) .storage ⟨store, drawn⟩
      (fun card after => Registers draft card store after.store) (fun _ _ => True) := by
  rw [ends_ask]
  cases created : store.createCard draft (moments drawn) with
  | error fault => simp [Store.answer, Store.settle, created]
  | ok made =>
      obtain ⟨card, changed⟩ := made
      obtain ⟨unused, rfl, rfl⟩ := Store.createCard_eq_ok_iff.mp created
      simp only [Store.answer, created, Store.settle]
      exact ⟨unused, ⟨_, rfl⟩, rfl⟩

/-- A request for anything but a registration leaves the printings as they are. -/
theorem ask_keeps_cards {request : Request} (other : ∀ draft, request ≠ .createCard draft) :
    (ask request).Ends (answerNext moments) .storage ⟨store, drawn⟩
      (fun _ after => after.store.cards = store.cards) (fun _ _ => True) := by
  have kept : (store.answer (moments drawn) request).2.cards = store.cards :=
    answer_cards other (moments drawn)
  rw [ends_ask]
  rcases answered : store.answer (moments drawn) request with ⟨_ | reply, after⟩
  · trivial
  · rwa [answered] at kept

/-- A rule that registers no printing leaves the printings as they are. -/
theorem rule_keeps_cards (valid : store.Valid) (other : ∀ draft, operation ≠ .registerCard draft)
    {rule : Ledger operation.Result} (accepted : operation.rule defaultCapacity = .ok rule) :
    rule.Ends (answerNext moments) .storage ⟨store, drawn⟩
      (fun _ after => after.store.cards = store.cards) (fun _ _ => True) := by
  cases operation with
  | registerCard draft => exact absurd rfl (other draft)
  | createUser draft =>
      rw [Operation.rule] at accepted
      split at accepted
      · cases accepted
      · obtain rfl := Except.ok.inj accepted
        exact ask_keeps_cards (by simp)
  | createDeck proposal =>
      obtain ⟨draft, -, accepted⟩ := bind_eq_ok_iff.mp accepted
      obtain rfl := Except.ok.inj accepted
      rw [Procedure.ends_bind, ends_ensureUser]
      split
      · exact ask_keeps_cards (by simp)
      · trivial
  | creditBinder user card quantity =>
      obtain rfl := Except.ok.inj accepted
      apply (credit_ends valid user card quantity).mono_ok
      rintro _ ⟨_, _⟩ ⟨-, time, -, rfl⟩
      rfl
  | debitBinder user card quantity =>
      obtain rfl := Except.ok.inj accepted
      apply (debit_ends valid user card quantity).mono_ok
      rintro _ ⟨_, _⟩ ⟨-, time, rfl⟩
      rfl
  | updateDeck id patch =>
      obtain ⟨patch', -, accepted⟩ := bind_eq_ok_iff.mp accepted
      obtain rfl := Except.ok.inj accepted
      apply (changeDeck_ends valid id patch').mono_ok
      rintro deck ⟨after, _⟩ ⟨-, moment, updated⟩
      obtain ⟨old, -, -, -, rfl⟩ := Store.updateDeck_eq_ok_iff.mp updated
      rfl
  | deleteDeck id =>
      obtain rfl := Except.ok.inj accepted
      apply (releaseDeck_ends valid id).mono_ok
      rintro _ after ⟨-, released, -⟩
      exact released.cards
  | allocate deck card quantity zone =>
      obtain rfl := Except.ok.inj accepted
      apply (allocate_ends valid deck card quantity zone).mono_ok
      rintro _ _ ⟨-, moved, -⟩
      exact moved.cards
  | deallocate deck card quantity zone =>
      obtain rfl := Except.ok.inj accepted
      apply (deallocate_ends valid deck card quantity zone).mono_ok
      rintro _ _ ⟨-, _, _, _, _, -, -, -, moved⟩
      exact moved.cards
  | transfer source destination card quantity zone =>
      obtain rfl := Except.ok.inj accepted
      apply (transfer_ends valid source destination card quantity zone).mono_ok
      rintro _ _ ⟨-, moved⟩
      exact moved.cards
  | moveZone deck card quantity source target =>
      obtain rfl := Except.ok.inj accepted
      apply (moveZone_ends valid deck card quantity source target).mono_ok
      rintro _ _ ⟨-, moved⟩
      exact moved.cards
  | _ =>
      rw [← task_of_ok accepted]
      apply (reads_of_not_mutates defaultCapacity rfl drawn).mono_ok
      rintro _ ⟨_, _⟩ rfl
      rfl

/-- A registration has a rule just if the printing has a name and a face. -/
theorem registerCard_rule_eq_ok_iff {draft : CardDraft} {rule : Ledger Card} :
    (Operation.registerCard draft).rule defaultCapacity = .ok rule ↔
      isBlankText draft.name = false ∧ draft.faces.isEmpty = false ∧
        ask (.createCard draft) = rule := by
  rw [Operation.rule]
  cases isBlankText draft.name with
  | true => simp
  | false => cases draft.faces.isEmpty <;> simp

theorem task_catalogs (valid : store.Valid) :
    (operation.task defaultCapacity).Ends (answerNext moments) .storage ⟨store, drawn⟩
      (fun result after => Catalogs store after.store operation result) (fun _ _ => True) := by
  cases checked : operation.rule defaultCapacity with
  | error failure =>
      rw [task_of_error checked, Procedure.ends_fail]
      trivial
  | ok rule =>
      rw [task_of_ok checked]
      by_cases registers : ∃ draft, operation = .registerCard draft
      · obtain ⟨draft, rfl⟩ := registers
        obtain ⟨-, -, rfl⟩ := registerCard_rule_eq_ok_iff.mp checked
        exact registerCard_catalogs draft
      · have other := not_exists.mp registers
        exact (rule_keeps_cards valid other checked).mono_ok fun _ _ same =>
          catalogs_of_same other same

theorem perform_catalogs {depot after : Depot} (valid : depot.store.Valid)
    {result : operation.Result}
    (performed : depot.perform moments defaultCapacity operation = (.ok result, after)) :
    Catalogs depot.store after.store operation result := by
  obtain ⟨staged, ran, same⟩ := Depot.perform_eq_ok performed
  have catalogs := (task_catalogs valid).ok ran
  cases mutating : operation.mutates with
  | true => rwa [same, if_pos mutating]
  | false =>
      rw [same, if_neg (by simp [mutating])]
      refine catalogs_of_same ?_ rfl
      rintro draft rfl
      cases mutating

/-- A printing is registered just if it has a name and a face and its identifier is that of no
other, whatever the indices of its faces are. -/
theorem registration_accepted_iff {depot : Depot} (free : depot.refusal = none)
    (draft : CardDraft) :
    (depot.perform moments defaultCapacity (.registerCard draft)).1.isOk = true ↔
      isBlankText draft.name = false ∧ draft.faces.isEmpty = false ∧
        depot.store.cards.contains draft.id = false := by
  rw [Depot.perform_fst free]
  cases checked : (Operation.registerCard draft).rule defaultCapacity with
  | error failure =>
      rw [task_of_error checked]
      refine iff_of_false (fun accepted => by cases accepted) fun ⟨named, faces, _⟩ => ?_
      cases checked.symm.trans (registerCard_rule_eq_ok_iff.mpr ⟨named, faces, rfl⟩)
  | ok rule =>
      obtain ⟨named, faces, rfl⟩ := registerCard_rule_eq_ok_iff.mp checked
      rw [task_of_ok checked]
      simp only [ask, Procedure.request, Procedure.run, answerNext, Store.answer, Store.createCard,
        named, faces, true_and]
      cases depot.store.cards.contains draft.id with
      | true => exact iff_of_false Bool.false_ne_true (by simp)
      | false => exact iff_of_true rfl rfl

end Catalogs

/-! ## Operations one after another -/

/-- The printings are those that have been registered by what has been made, each with the faces
of its registration in order. -/
structure Cataloged (made : List Made) (store : Store) : Prop where
  found : ∀ id card, store.cards.get? id = some card ↔
    ∃ draft : CardDraft, draft.id = id ∧ ⟨.registerCard draft, .ok card⟩ ∈ made
  faithful : ∀ draft card, ⟨.registerCard draft, .ok card⟩ ∈ made →
    ∃ time, card = { draft with faces := Face.inOrder draft.faces, createdAt := time }

section Cataloged

variable {moments : Nat → Moment} {defaultCapacity : Int} {made : List Made} {store after : Store}
  {operation : Operation}

theorem cataloged_empty : Cataloged [] Depot.empty.store where
  found _ _ := by
    constructor
    · intro found
      cases found
    · rintro ⟨draft, -, member⟩
      cases member
  faithful _ _ member := by cases member

/-- What registers nothing and leaves the printings as they are adds nothing to the catalog. -/
theorem Cataloged.same (cataloged : Cataloged made store) {last : Made}
    (other : ∀ draft card, ⟨.registerCard draft, .ok card⟩ ≠ last)
    (same : after.cards = store.cards) : Cataloged (made ++ [last]) after where
  found id card := by
    simp only [same, cataloged.found, List.mem_append, List.mem_singleton, other, or_false]
  faithful draft card member := by
    simp only [List.mem_append, List.mem_singleton, other, or_false] at member
    exact cataloged.faithful draft card member

theorem Cataloged.register (cataloged : Cataloged made store) {draft : CardDraft} {card : Card}
    (registers : Registers draft card store after) :
    Cataloged (made ++ [⟨.registerCard draft, .ok card⟩]) after where
  found id other := by
    -- An earlier registration under the same identifier would have left its printing.
    have earlier : ∀ draft' : CardDraft, ⟨.registerCard draft', .ok other⟩ ∈ made →
        draft'.id ≠ draft.id := by
      intro draft' member same
      have present := (cataloged.found draft'.id other).mpr ⟨draft', rfl, member⟩
      have unused := registers.unused
      rw [← same, Table.contains_of_get? present] at unused
      cases unused
    rw [registers.added, Table.get?_insert_eq_ite]
    by_cases own : id = draft.id
    · rw [if_pos own]
      constructor
      · intro same
        obtain rfl := Option.some.inj same
        exact ⟨draft, own.symm, List.mem_append_right _ (List.mem_singleton_self _)⟩
      · rintro ⟨draft', same, member⟩
        rcases List.mem_append.mp member with before | last
        · exact absurd (same.trans own) (earlier draft' before)
        · cases List.mem_singleton.mp last
          rfl
    · rw [if_neg own, cataloged.found]
      constructor
      · rintro ⟨draft', same, member⟩
        exact ⟨draft', same, List.mem_append_left _ member⟩
      · rintro ⟨draft', same, member⟩
        rcases List.mem_append.mp member with before | last
        · exact ⟨draft', same, before⟩
        · cases List.mem_singleton.mp last
          exact absurd same.symm own
  faithful other card' member := by
    rcases List.mem_append.mp member with earlier | last
    · exact cataloged.faithful other card' earlier
    · cases List.mem_singleton.mp last
      exact registers.made

theorem perform_cataloged {depot after : Depot} {outcome : Except Failure operation.Result}
    (valid : depot.store.Valid) (cataloged : Cataloged made depot.store)
    (performed : depot.perform moments defaultCapacity operation = (outcome, after)) :
    Cataloged (made ++ [⟨operation, outcome⟩]) after.store := by
  cases outcome with
  | error failure =>
      refine cataloged.same (fun draft card same => ?_) ?_
      · cases same
      · rw [(Depot.perform_eq_error performed).1]
  | ok result =>
      have catalogs := perform_catalogs valid performed
      cases operation with
      | registerCard draft => exact cataloged.register catalogs
      | _ => exact cataloged.same (fun _ _ same => by cases same) catalogs

theorem performAll_cataloged (moments : Nat → Moment) (defaultCapacity : Int)
    (operations : List Operation) {depot : Depot} (valid : depot.store.Valid)
    (cataloged : Cataloged made depot.store) :
    Cataloged (made ++ (performAll moments defaultCapacity operations depot).1)
      (performAll moments defaultCapacity operations depot).2.store := by
  induction operations generalizing made depot with
  | nil =>
      rw [performAll, List.append_nil]
      exact cataloged
  | cons operation rest ih =>
      rcases performed : depot.perform moments defaultCapacity operation with ⟨outcome, after⟩
      have valid' : (depot.perform moments defaultCapacity operation).2.store.Valid :=
        perform_valid valid operation
      rw [performed] at valid'
      have next := ih valid' (perform_cataloged valid cataloged performed)
      rw [List.append_assoc] at next
      simp only [performAll, performed]
      exact next

end Cataloged

/-- The printings in the tables are those that have been registered, and the faces of each are
those of its registration: none is lost, added or altered, and they are listed in the order of
their indices, those of one index as they came. Their indices are distinct just if they came so,
as those do that are numbered in the order in which they come. Nothing else is asked of them: a
printing is registered if it has a name, a face and an identifier of its own. -/
theorem faces_as_registered (moments : Nat → Moment) (defaultCapacity : Int)
    (operations : List Operation) :
    let (made, depot) := performAll moments defaultCapacity operations .empty
    (∀ id card, depot.store.cards.get? id = some card ↔
      ∃ draft : CardDraft, draft.id = id ∧ ⟨.registerCard draft, .ok card⟩ ∈ made) ∧
    (∀ draft card, ⟨.registerCard draft, .ok card⟩ ∈ made →
      (∃ time, card = { draft with faces := Face.inOrder draft.faces, createdAt := time }) ∧
      card.faces.Perm draft.faces ∧
      (∀ index, card.faces.filter (fun face => face.index = index) =
        draft.faces.filter fun face => face.index = index) ∧
      (card.faces.Pairwise fun left right => left.index ≤ right.index) ∧
      (Face.Keyed card.faces ↔ (draft.faces.map Face.index).Nodup) ∧
      ∀ faces, draft.faces = Api.numberFaces faces → card.faces = draft.faces) ∧
    ∀ draft, (depot.perform moments defaultCapacity (.registerCard draft)).1.isOk = true ↔
      isBlankText draft.name = false ∧ draft.faces.isEmpty = false ∧
        depot.store.cards.contains draft.id = false := by
  have start : Attainable moments defaultCapacity .empty := .empty
  have attained := start.performAll operations
  have cataloged := performAll_cataloged moments defaultCapacity operations start.valid
    cataloged_empty
  rw [List.nil_append] at cataloged
  refine ⟨cataloged.found, fun draft card member => ?_, registration_accepted_iff attained.refusal⟩
  obtain ⟨time, rfl⟩ := cataloged.faithful draft card member
  refine ⟨⟨time, rfl⟩, Face.inOrder_perm _, Face.filter_inOrder _, Face.pairwise_inOrder _,
    Face.keyed_inOrder_iff, fun faces numbered => ?_⟩
  have keyed : Face.Keyed draft.faces := numbered ▸ Face.keyed_numberFaces faces
  exact Face.inOrder_of_keyed keyed

/-- A printing whose faces come with one index is registered, and keeps them both. -/
theorem equal_indices_registered :
    let moments : Nat → Moment := fun n => ⟨⟨n, 0⟩, .ofNat n⟩
    let face (name : String) : Face := ⟨0, name, none, none, none, none, [], none, none, none⟩
    let draft : CardDraft :=
      ⟨.ofNat 7, "Fire // Ice", none, none, none, none, [face "Fire", face "Ice"]⟩
    let depot := (performAll moments 60 [.registerCard draft] .empty).2
    ∃ card, depot.store.cards.get? (.ofNat 7) = some card ∧
      card.faces.map Face.name = ["Fire", "Ice"] ∧ card.faces.map Face.index = [0, 0] ∧
      ¬ Face.Keyed card.faces := by
  intro moments face draft depot
  have accepted : (Depot.empty.perform moments 60 (.registerCard draft)).1.isOk = true :=
    ((faces_as_registered moments 60 []).2.2 draft).mpr ⟨by decide, rfl, rfl⟩
  have run := faces_as_registered moments 60 [.registerCard draft]
  have listed : Face.inOrder draft.faces = draft.faces := List.mergeSort_of_pairwise (by decide)
  have same : ¬ (draft.faces.map Face.index).Nodup := by decide
  have kept : draft.faces.map Face.name = ["Fire", "Ice"] ∧ draft.faces.map Face.index = [0, 0] :=
    ⟨rfl, rfl⟩
  have own : draft.id = .ofNat 7 := rfl
  simp only [depot, performAll] at run ⊢
  -- From here on nothing is to be computed.
  generalize Depot.empty.perform moments 60 (.registerCard draft) = performed at *
  clear_value draft
  obtain ⟨failure | card, after⟩ := performed
  · cases accepted
  · obtain ⟨found, faithful, -⟩ := run
    obtain ⟨⟨time, rfl⟩, -, -, -, keyed, -⟩ := faithful draft card (List.mem_singleton_self _)
    refine ⟨_, (found _ _).mpr ⟨draft, own, List.mem_singleton_self _⟩, ?_, ?_, ?_⟩
    · rw [listed, kept.1]
    · rw [listed, kept.2]
    · rwa [keyed]

end Inventory

end CardInventory
