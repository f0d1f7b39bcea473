import CardInventory.Memory.Depot
import CardInventory.Proofs.Inventory.Effect

/-!
# Reachable depots

The depots that come about when operations are performed one after another, each
in a unit of work of its own or several in one, whether they succeed or fail. The
committed tables of all of them are sound: what a unit leaves behind is either
what it has found or the effect of operations that have all succeeded.
-/

namespace CardInventory

open Memory Storage Ledger Inventory

namespace Memory.Depot

variable {moments : Nat → Moment} {depot after : Depot} {α : Type}

/-- A unit of work that succeeds leaves what its rule has staged, if it is committed. -/
theorem runUnit_eq_ok {commits : Bool} {rule : Ledger α} {value : α}
    (outcome : depot.runUnit moments commits rule = (.ok value, after)) :
    ∃ staged, rule.run (answerNext moments) .storage ⟨depot.store, depot.drawn⟩ =
        (.ok value, staged) ∧
      after.store = if commits = true then staged.store else depot.store := by
  rcases depot with ⟨store, drawn, _ | fault⟩
  · simp only [runUnit, begin] at outcome
    split at outcome
    · rename_i result staged ran
      obtain ⟨rfl, rfl⟩ : _ = value ∧ _ = after := by simpa using outcome
      refine ⟨staged, ran, ?_⟩
      cases commits <;> rfl
    · simp at outcome
  · simp [runUnit, begin] at outcome

/-- A unit of work that fails leaves the committed tables, whether it could not begin or
its rule has failed. -/
theorem runUnit_eq_error {commits : Bool} {rule : Ledger α} {failure : Failure}
    (outcome : depot.runUnit moments commits rule = (.error failure, after)) :
    after.store = depot.store ∧
      ((∃ fault, failure = .storage fault) ∨
        ∃ staged, rule.run (answerNext moments) .storage ⟨depot.store, depot.drawn⟩ =
          (.error failure, staged)) := by
  rcases depot with ⟨store, drawn, _ | fault⟩
  · simp only [runUnit, begin] at outcome
    split at outcome
    · simp at outcome
    · rename_i cause staged ran
      obtain ⟨rfl, rfl⟩ : _ = failure ∧ _ = after := by simpa using outcome
      exact ⟨rfl, .inr ⟨staged, ran⟩⟩
  · obtain ⟨rfl, rfl⟩ : _ = failure ∧ _ = after := by simpa [runUnit, begin] using outcome
    exact ⟨rfl, .inl ⟨fault, rfl⟩⟩

variable {defaultCapacity : Int} {operation : Operation}

theorem perform_eq_ok {result : operation.Result}
    (outcome : depot.perform moments defaultCapacity operation = (.ok result, after)) :
    ∃ staged, (operation.task defaultCapacity).run (answerNext moments) .storage
        ⟨depot.store, depot.drawn⟩ = (.ok result, staged) ∧
      after.store = if operation.mutates = true then staged.store else depot.store := by
  unfold perform at outcome
  unfold Operation.task
  cases checked : operation.rule defaultCapacity with
  | error failure => simp [checked] at outcome
  | ok rule =>
      simp only [checked] at outcome
      exact runUnit_eq_ok outcome

theorem perform_eq_error {failure : Failure}
    (outcome : depot.perform moments defaultCapacity operation = (.error failure, after)) :
    after.store = depot.store ∧
      ((∃ fault, failure = .storage fault) ∨
        ∃ staged, (operation.task defaultCapacity).run (answerNext moments) .storage
          ⟨depot.store, depot.drawn⟩ = (.error failure, staged)) := by
  unfold perform at outcome
  unfold Operation.task
  cases checked : operation.rule defaultCapacity with
  | error cause =>
      obtain ⟨rfl, rfl⟩ : cause = failure ∧ depot = after := by simpa [checked] using outcome
      exact ⟨rfl, .inr ⟨_, rfl⟩⟩
  | ok rule =>
      simp only [checked] at outcome
      exact runUnit_eq_error outcome

/-- What comes of an operation where nothing keeps its unit from beginning, and of the depot: the
unit is committed if the operation changes something and succeeds, and dropped otherwise. -/
theorem perform_eq_run (free : depot.refusal = none) (defaultCapacity : Int)
    (operation : Operation) :
    depot.perform moments defaultCapacity operation =
      match (operation.task defaultCapacity).run (answerNext moments) .storage
          ⟨depot.store, depot.drawn⟩ with
      | (.ok value, staged) =>
          (.ok value, if operation.mutates then depot.commit staged else depot.drop staged)
      | (.error failure, staged) => (.error failure, depot.drop staged) := by
  rcases depot with ⟨store, drawn, _ | fault⟩
  · unfold perform Operation.task
    cases operation.rule defaultCapacity with
    | error failure => rfl
    | ok rule =>
        simp only [runUnit, begin]
        rcases ran : rule.run (answerNext moments) .storage ⟨store, drawn⟩ with ⟨_ | _, _⟩ <;>
          simp only [ran]
  · cases free

theorem perform_fst (free : depot.refusal = none) (defaultCapacity : Int)
    (operation : Operation) :
    (depot.perform moments defaultCapacity operation).1 =
      ((operation.task defaultCapacity).run (answerNext moments) .storage
        ⟨depot.store, depot.drawn⟩).1 := by
  rw [perform_eq_run free]
  split
  · rename_i ran
    rw [ran]
  · rename_i ran
    rw [ran]

end Memory.Depot

namespace Inventory

/-- Operations one after another in one unit of work. -/
def inTurn (defaultCapacity : Int) : List Operation → Ledger Unit
  | [] => return ()
  | operation :: rest => do
      let _ ← operation.task defaultCapacity
      inTurn defaultCapacity rest

/-- The copies of a card a user gains by operations that all succeed. -/
def totalGain (operations : List Operation) (user card : Uuid) : Int :=
  totalOf (operations.map fun operation => operation.gain user card)

/-- The depots that operations lead to, each in a unit of work of its own or several in one
that is committed or dropped. Any unit may be kept from beginning. -/
inductive Reachable (moments : Nat → Moment) (defaultCapacity : Int) : Depot → Prop where
  | empty : Reachable moments defaultCapacity .empty
  | refuse {depot : Depot} (before : Reachable moments defaultCapacity depot)
      (fault : Storage.Fault) :
      Reachable moments defaultCapacity { depot with refusal := some fault }
  | perform {depot : Depot} (before : Reachable moments defaultCapacity depot)
      (operation : Operation)
      (newIds : NewIds moments (operation.task defaultCapacity) ⟨depot.store, depot.drawn⟩) :
      Reachable moments defaultCapacity (depot.perform moments defaultCapacity operation).2
  | compose {depot : Depot} (before : Reachable moments defaultCapacity depot)
      (commits : Bool) (operations : List Operation)
      (newIds : NewIds moments (inTurn defaultCapacity operations) ⟨depot.store, depot.drawn⟩) :
      Reachable moments defaultCapacity
        (depot.runUnit moments commits (inTurn defaultCapacity operations)).2

variable {moments : Nat → Moment} {defaultCapacity : Int} {depot after : Depot}

/-- Operations that all succeed in one unit of work have their effects added up. -/
theorem inTurn_effect {store : Store} {drawn : Nat} (sound : store.Sound)
    (operations : List Operation)
    (newIds : NewIds moments (inTurn defaultCapacity operations) ⟨store, drawn⟩) :
    (inTurn defaultCapacity operations).Ends (answerNext moments) .storage ⟨store, drawn⟩
      (fun _ after => Effect store after.store (totalGain operations)) (fun _ _ => True) := by
  induction operations generalizing store drawn with
  | nil => exact (Procedure.ends_pure ()).mpr (Effect.refl sound)
  | cons operation rest ih =>
      obtain ⟨firstIds, restIds⟩ := (Procedure.meets_bind .storage _ _ _).mp newIds
      rw [inTurn, Procedure.ends_bind]
      apply ((effect_ends sound defaultCapacity operation firstIds).and restIds).mono_ok
      rintro _ after ⟨first, onward⟩
      apply (ih first.sound onward).mono_ok
      exact fun _ _ second => first.trans second

/-- An operation performed on sound tables has its effect where it succeeds. -/
theorem perform_effect (sound : depot.store.Sound) {operation : Operation}
    (newIds : NewIds moments (operation.task defaultCapacity) ⟨depot.store, depot.drawn⟩)
    {result : operation.Result}
    (outcome : depot.perform moments defaultCapacity operation = (.ok result, after)) :
    Effect depot.store after.store operation.gain := by
  obtain ⟨staged, ran, same⟩ := Depot.perform_eq_ok outcome
  have effect := (effect_ends sound defaultCapacity operation newIds).ok ran
  cases mutating : operation.mutates with
  | true =>
      rw [same, if_pos mutating]
      exact effect
  | false =>
      have kept := (reads_of_not_mutates defaultCapacity mutating _).ok ran
      rw [same, if_neg (by simp [mutating])]
      exact kept ▸ effect

theorem compose_effect (sound : depot.store.Sound) {operations : List Operation}
    (newIds : NewIds moments (inTurn defaultCapacity operations) ⟨depot.store, depot.drawn⟩)
    (outcome : depot.runUnit moments true (inTurn defaultCapacity operations) = (.ok (), after)) :
    Effect depot.store after.store (totalGain operations) := by
  obtain ⟨staged, ran, same⟩ := Depot.runUnit_eq_ok outcome
  rw [same]
  exact (inTurn_effect sound operations newIds).ok ran

/-- The committed tables of a reachable depot are sound. -/
theorem Reachable.sound (reachable : Reachable moments defaultCapacity depot) :
    depot.store.Sound := by
  induction reachable with
  | empty => exact Store.sound_empty
  | refuse _ _ ih => exact ih
  | @perform depot _ operation newIds ih =>
      rcases outcome : depot.perform moments defaultCapacity operation with
        ⟨failure | result, after⟩
      · exact (Depot.perform_eq_error outcome).1 ▸ ih
      · exact (perform_effect ih newIds outcome).sound
  | @compose depot _ commits operations newIds ih =>
      rcases outcome : depot.runUnit moments commits (inTurn defaultCapacity operations) with
        ⟨failure | _, after⟩
      · exact (Depot.runUnit_eq_error outcome).1 ▸ ih
      · cases commits with
        | true => exact (compose_effect ih newIds outcome).sound
        | false =>
            obtain ⟨_, -, same⟩ := Depot.runUnit_eq_ok outcome
            exact same ▸ ih

end Inventory

end CardInventory
