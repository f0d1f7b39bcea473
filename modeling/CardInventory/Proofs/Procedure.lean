import CardInventory.Procedure

/-!
# Outcomes of procedures

A run ends with a value or with a failure, in either case in some state. What is
known of the outcome is carried by a pair of conditions, and the outcome of a
composed procedure follows from those of its parts, so that a rule can be read
one request at a time. What a procedure fails with of itself is known without the
answers, and told apart from their faults.
-/

namespace CardInventory.Procedure

variable {Request : Type} {Reply : Request → Type} {Failure Fault α β σ : Type}

/-- A run either ends with a value in a state that satisfies the first condition, or
with a failure in a state that satisfies the second. -/
structure Ends (answer : Answerer Request Reply Fault σ) (lift : Fault → Failure)
    (procedure : Procedure Request Reply Failure α) (state : σ)
    (good : α → σ → Prop) (bad : Failure → σ → Prop) : Prop where
  ok : ∀ ⦃value after⦄, procedure.run answer lift state = (.ok value, after) → good value after
  error : ∀ ⦃failure after⦄, procedure.run answer lift state = (.error failure, after) →
    bad failure after

/-- Every request of a run is asked in a state that satisfies a condition. -/
def Meets (answer : Answerer Request Reply Fault σ) (condition : Request → σ → Prop) :
    Procedure Request Reply Failure α → σ → Prop
  | done _, _ => True
  | fail _, _ => True
  | ask question next, state =>
      condition question state ∧
        match answer question state with
        | (.ok reply, after) => (next reply).Meets answer condition after
        | (.error _, _) => True

section Outcome

variable {answer : Answerer Request Reply Fault σ} {lift : Fault → Failure} {state : σ}
  {good : α → σ → Prop} {bad : Failure → σ → Prop}

theorem ends_iff {procedure : Procedure Request Reply Failure α} :
    procedure.Ends answer lift state good bad ↔
      match procedure.run answer lift state with
      | (.ok value, after) => good value after
      | (.error failure, after) => bad failure after := by
  rcases outcome : procedure.run answer lift state with ⟨failure | value, after⟩
  · refine ⟨fun ends => ends.error outcome, fun failed => ⟨fun value after done => ?_, ?_⟩⟩
    · simp [outcome] at done
    · intro failure after done
      obtain ⟨rfl, rfl⟩ : _ ∧ _ := by simpa [outcome] using done
      exact failed
  · refine ⟨fun ends => ends.ok outcome, fun ended => ⟨?_, fun failure after done => ?_⟩⟩
    · intro value after done
      obtain ⟨rfl, rfl⟩ : _ ∧ _ := by simpa [outcome] using done
      exact ended
    · simp [outcome] at done

@[simp]
theorem ends_done (value : α) :
    (done value : Procedure Request Reply Failure α).Ends answer lift state good bad ↔
      good value state :=
  ends_iff

@[simp]
theorem ends_pure (value : α) :
    (pure value : Procedure Request Reply Failure α).Ends answer lift state good bad ↔
      good value state :=
  ends_iff

@[simp]
theorem ends_fail (failure : Failure) :
    (fail failure : Procedure Request Reply Failure α).Ends answer lift state good bad ↔
      bad failure state :=
  ends_iff

theorem ends_ofExcept (outcome : Except Failure α) :
    (ofExcept outcome : Procedure Request Reply Failure α).Ends answer lift state good bad ↔
      match outcome with
      | .ok value => good value state
      | .error failure => bad failure state := by
  cases outcome with
  | ok value => exact ends_done value
  | error failure => exact ends_fail failure

/-- A sequence fails where its first part fails, and goes on with the value of the
first part from the state in which that part has ended. -/
theorem ends_bind {good : β → σ → Prop} (first : Procedure Request Reply Failure α)
    (second : α → Procedure Request Reply Failure β) :
    (first >>= second).Ends answer lift state good bad ↔
      first.Ends answer lift state
        (fun value after => (second value).Ends answer lift after good bad) bad := by
  simp only [ends_iff, run_bind]
  rcases first.run answer lift state with ⟨_ | _, _⟩ <;> rfl

/-- Known conditions may be replaced by weaker ones. -/
theorem Ends.mono {good' : α → σ → Prop} {bad' : Failure → σ → Prop}
    {procedure : Procedure Request Reply Failure α}
    (ends : procedure.Ends answer lift state good bad)
    (weakerGood : ∀ value after, good value after → good' value after)
    (weakerBad : ∀ failure after, bad failure after → bad' failure after) :
    procedure.Ends answer lift state good' bad' :=
  ⟨fun value after done => weakerGood value after (ends.ok done),
    fun failure after done => weakerBad failure after (ends.error done)⟩

/-- What is known of values may be weakened where failures do not matter. -/
theorem Ends.mono_ok {good' : α → σ → Prop} {procedure : Procedure Request Reply Failure α}
    (ends : procedure.Ends answer lift state good bad)
    (weaker : ∀ value after, good value after → good' value after) :
    procedure.Ends answer lift state good' fun _ _ => True :=
  ends.mono weaker fun _ _ _ => True.intro

/-- What is known of failures may be weakened where values do not matter. -/
theorem Ends.mono_error {bad' : Failure → σ → Prop}
    {procedure : Procedure Request Reply Failure α}
    (ends : procedure.Ends answer lift state good bad)
    (weaker : ∀ failure after, bad failure after → bad' failure after) :
    procedure.Ends answer lift state (fun _ _ => True) bad' :=
  ends.mono (fun _ _ _ => True.intro) weaker

/-- Two things known of an outcome are known together. -/
theorem Ends.and {good' : α → σ → Prop} {bad' : Failure → σ → Prop}
    {procedure : Procedure Request Reply Failure α}
    (first : procedure.Ends answer lift state good bad)
    (second : procedure.Ends answer lift state good' bad') :
    procedure.Ends answer lift state (fun value after => good value after ∧ good' value after)
      (fun failure after => bad failure after ∧ bad' failure after) :=
  ⟨fun _ _ done => ⟨first.ok done, second.ok done⟩,
    fun _ _ done => ⟨first.error done, second.error done⟩⟩

end Outcome

section Requests

variable {answer : Answerer Request Reply Fault σ} {condition : Request → σ → Prop}

/-- Where the condition can be decided, a run can be checked for it. -/
instance decidableMeets [∀ question state, Decidable (condition question state)] :
    (procedure : Procedure Request Reply Failure α) → (state : σ) →
      Decidable (procedure.Meets answer condition state)
  | done _, _ => .isTrue trivial
  | fail _, _ => .isTrue trivial
  | ask question next, state =>
      match outcome : answer question state with
      | (.ok reply, after) =>
          have := decidableMeets (next reply) after
          decidable_of_iff (condition question state ∧ (next reply).Meets answer condition after)
            (by simp only [Meets, outcome])
      | (.error _, _) =>
          decidable_of_iff (condition question state) (by simp only [Meets, outcome, and_true])

theorem meets_request (question : Request) (state : σ) :
    (request question : Procedure Request Reply Failure (Reply question)).Meets answer condition
        state ↔
      condition question state := by
  simp only [request, Meets, and_iff_left_iff_imp]
  intro _
  split <;> trivial

/-- The requests of a sequence are those of its first part and, where that ends with a
value, those of the second. -/
theorem meets_bind (lift : Fault → Failure) (first : Procedure Request Reply Failure α)
    (second : α → Procedure Request Reply Failure β) (state : σ) :
    (first >>= second).Meets answer condition state ↔
      first.Meets answer condition state ∧
        first.Ends answer lift state
          (fun value after => (second value).Meets answer condition after)
          (fun _ _ => True) := by
  change (first.bind second).Meets answer condition state ↔ _
  induction first generalizing state with
  | done value => simp [bind, Meets]
  | fail failure => simp [bind, Meets]
  | ask question next ih =>
      simp only [bind, Meets, ends_iff, run]
      rcases answer question state with ⟨_ | reply, rest⟩
      · simp
      · simp only [ih reply rest, ends_iff, and_assoc]

/-- What each request that meets a condition keeps is kept by a run whose requests meet it. -/
theorem Meets.ends (kept : σ → Prop) (lift : Fault → Failure)
    (step : ∀ question state, condition question state → kept state →
      kept (answer question state).2)
    {procedure : Procedure Request Reply Failure α} {state : σ}
    (meets : procedure.Meets answer condition state) (before : kept state) :
    procedure.Ends answer lift state (fun _ after => kept after) (fun _ after => kept after) := by
  induction procedure generalizing state with
  | done value => exact (ends_done value).mpr before
  | fail failure => exact (ends_fail failure).mpr before
  | ask question next ih =>
      rw [Meets] at meets
      obtain ⟨asked, rest⟩ := meets
      have after := step question state asked before
      rw [ends_iff, run]
      rcases outcome : answer question state with ⟨fault | reply, between⟩
      · rw [outcome] at after
        exact after
      · rw [outcome] at after rest
        exact ends_iff.mp (ih reply rest after)

end Requests

section Failures

variable {property : Failure → Prop}

/-- Wherever the replies lead, what a procedure fails with of itself has a property. -/
inductive Raises (property : Failure → Prop) : Procedure Request Reply Failure α → Prop where
  | done (value : α) : Raises property (done value)
  | fail {failure : Failure} (holds : property failure) : Raises property (fail failure)
  | ask (question : Request) {next : Reply question → Procedure Request Reply Failure α}
      (raises : ∀ reply, Raises property (next reply)) : Raises property (ask question next)

theorem Raises.bind {first : Procedure Request Reply Failure α}
    {second : α → Procedure Request Reply Failure β} (raises : first.Raises property)
    (raises' : ∀ value, (second value).Raises property) : (first >>= second).Raises property := by
  change (first.bind second).Raises property
  induction raises with
  | done value => exact raises' value
  | fail holds => exact .fail holds
  | ask question raises ih => exact .ask question ih

/-- A run that fails does so by its procedure, or by a fault in an answer. -/
theorem Raises.error {answer : Answerer Request Reply Fault σ}
    {lift : Fault → Failure} {procedure : Procedure Request Reply Failure α}
    (raises : procedure.Raises property) {state after : σ} {failure : Failure}
    (failed : procedure.run answer lift state = (.error failure, after)) :
    property failure ∨ ∃ fault, failure = lift fault := by
  induction raises generalizing state with
  | done value => cases failed
  | fail holds =>
      cases failed
      exact .inl holds
  | ask question raises ih =>
      rw [run] at failed
      split at failed
      · exact ih _ failed
      · cases failed
        exact .inr ⟨_, rfl⟩

end Failures

end CardInventory.Procedure
