import CardInventory.Proofs.Procedure

/-!
# What procedures assure

What each request leads to is specified, and a specification of requests is folded
over a procedure: it assures something if that holds wherever the specified answers
lead to. A failure is where a procedure may always end. Nothing is said of what
answers the requests; where an answerer meets a specification, a run ends with
what its procedure assures.
-/

namespace CardInventory.Procedure

variable {Request : Type} {Reply : Request → Type} {Failure α β σ : Type}

/-- What is to hold before a request, so that a condition holds of its reply and of the state
after it. -/
abbrev Specification (Request : Type) (Reply : Request → Type) (σ : Type) :=
  (question : Request) → (Reply question → σ → Prop) → σ → Prop

/-- A condition holds of the value that a procedure is done with, wherever the specified
answers lead. -/
def Assures (specified : Specification Request Reply σ) (good : α → σ → Prop) :
    Procedure Request Reply Failure α → σ → Prop
  | done value, state => good value state
  | fail _, _ => True
  | ask question next, state =>
      specified question (fun reply after => (next reply).Assures specified good after) state

/-- What is specified of an answer may be weakened. -/
def Monotone (specified : Specification Request Reply σ) : Prop :=
  ∀ ⦃question state⦄ ⦃good better : Reply question → σ → Prop⦄,
    (∀ reply after, better reply after → good reply after) →
      specified question better state → specified question good state

/-- Every specified answer leads along a relation of states. -/
def Along (relation : σ → σ → Prop) (specified : Specification Request Reply σ) : Prop :=
  ∀ ⦃question state⦄ ⦃good : Reply question → σ → Prop⦄, specified question good state →
    specified question (fun reply after => good reply after ∧ relation state after) state

variable {specified : Specification Request Reply σ} {good : α → σ → Prop} {state : σ}

@[simp]
theorem assures_pure (value : α) :
    (pure value : Procedure Request Reply Failure α).Assures specified good state ↔
      good value state :=
  Iff.rfl

@[simp]
theorem assures_fail (failure : Failure) :
    (fail failure : Procedure Request Reply Failure α).Assures specified good state ↔ True :=
  Iff.rfl

theorem assures_ofExcept (outcome : Except Failure α) :
    (ofExcept outcome : Procedure Request Reply Failure α).Assures specified good state ↔
      ∀ value, outcome = .ok value → good value state := by
  cases outcome with
  | ok value => simp [ofExcept, Assures]
  | error failure => simp [ofExcept]

theorem Assures.mono (monotone : Monotone specified) {better : α → σ → Prop}
    (weaker : ∀ value after, better value after → good value after)
    {procedure : Procedure Request Reply Failure α}
    (assured : procedure.Assures specified better state) :
    procedure.Assures specified good state := by
  induction procedure generalizing state with
  | done value => exact weaker value state assured
  | fail failure => trivial
  | ask question next ih => exact monotone (fun reply after => ih reply) assured

/-- The second part of a sequence is to assure what the sequence does, of what the first
part has assured. -/
theorem assures_bind (monotone : Monotone specified) {good : β → σ → Prop}
    (first : Procedure Request Reply Failure α)
    (second : α → Procedure Request Reply Failure β) :
    (first >>= second).Assures specified good state ↔
      first.Assures specified (fun value after => (second value).Assures specified good after)
        state := by
  change (first.bind second).Assures specified good state ↔ _
  induction first generalizing state with
  | done value => rfl
  | fail failure => rfl
  | ask question next ih =>
      constructor
      · exact monotone fun reply after => (ih reply).mp
      · exact monotone fun reply after => (ih reply).mpr

/-- Where every answer leads along a relation, so does every run. -/
theorem Assures.along {relation : σ → σ → Prop} (refl : ∀ state, relation state state)
    (trans : ∀ first second third, relation first second → relation second third →
      relation first third)
    (monotone : Monotone specified) (along : Along relation specified)
    {procedure : Procedure Request Reply Failure α}
    (assured : procedure.Assures specified good state) :
    procedure.Assures specified (fun value after => good value after ∧ relation state after)
      state := by
  induction procedure generalizing state with
  | done value => exact ⟨assured, refl state⟩
  | fail failure => trivial
  | ask question next ih =>
      apply monotone ?_ (along assured)
      rintro reply between ⟨rest, first⟩
      apply (ih reply rest).mono monotone
      rintro value after ⟨ended, second⟩
      exact ⟨ended, trans _ _ _ first second⟩

/-- Where an answerer leads on as specified or stops, a run ends with what its procedure assures,
or it has stopped. What `going` says of the answerer's state is told by a condition on the states
of the specification. -/
theorem Assures.ends {Fault τ : Type} {answer : Answerer Request Reply Fault τ}
    {lift : Fault → Failure} {going : (σ → Prop) → τ → Prop} {stopped : Failure → τ → Prop}
    (serves : ∀ ⦃question : Request⦄ ⦃condition : Reply question → σ → Prop⦄ ⦃state : τ⦄,
      going (specified question condition) state →
        match answer question state with
        | (.ok reply, after) => going (condition reply) after
        | (.error fault, after) => stopped (lift fault) after)
    (fails : ∀ ⦃condition : σ → Prop⦄ (failure : Failure) ⦃state : τ⦄,
      going condition state → stopped failure state)
    {procedure : Procedure Request Reply Failure α} {state : τ}
    (assured : going (procedure.Assures specified good) state) :
    procedure.Ends answer lift state (fun value after => going (good value) after) stopped := by
  induction procedure generalizing state with
  | done value => exact (ends_done value).mpr assured
  | fail failure => exact (ends_fail failure).mpr (fails failure assured)
  | ask question next ih =>
      have served := serves assured
      rw [ends_iff, run]
      rcases outcome : answer question state with ⟨fault | reply, after⟩
      · rw [outcome] at served
        exact served
      · rw [outcome] at served
        exact ends_iff.mp (ih reply served)

end CardInventory.Procedure
