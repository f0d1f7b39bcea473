import CardInventory.Procedure

/-!
# Procedures side by side

Two procedures are twins if they ask the same requests, go on with any two replies that
are alike, and come to the same failure or to values that are alike. Where two answerers
give replies that are alike to the requests of twins, and keep their states coupled, the
twins come to outcomes that are alike, in states that are coupled.
-/

namespace CardInventory

/-- Two outcomes are the same error, or two values that are alike. -/
inductive Paired {ε α β : Type} (alike : α → β → Prop) : Except ε α → Except ε β → Prop where
  | ok {value : α} {value' : β} (same : alike value value') : Paired alike (.ok value) (.ok value')
  | error (fault : ε) : Paired alike (.error fault) (.error fault)

namespace Paired

variable {ε α β γ δ : Type} {alike : α → β → Prop} {alike' : γ → δ → Prop}

theorem bind {first : Except ε α} {first' : Except ε β} {second : α → Except ε γ}
    {second' : β → Except ε δ} (paired : Paired alike first first')
    (goOn : ∀ ⦃value value'⦄, alike value value' → Paired alike' (second value) (second' value')) :
    Paired alike' (first >>= second) (first' >>= second') := by
  cases paired with
  | ok same => exact goOn same
  | error fault => exact .error fault

/-- The outcome of a check is the same wherever it is made. -/
theorem refl {outcome : Except ε α} :
    Paired (fun value value' => value = value') outcome outcome := by
  cases outcome with
  | ok value => exact .ok rfl
  | error fault => exact .error fault

/-- What is known of the first of two values may be told together with what they share. -/
theorem and_ok {known : α → Prop} {outcome : Except ε α} {outcome' : Except ε β}
    (paired : Paired alike outcome outcome')
    (knows : ∀ ⦃value⦄, outcome = .ok value → known value) :
    Paired (fun value value' => alike value value' ∧ known value) outcome outcome' := by
  cases paired with
  | ok same => exact .ok ⟨same, knows rfl⟩
  | error fault => exact .error fault

theorem map_eq {part : α → γ} {outcome outcome' : Except ε α}
    (paired : Paired (fun value value' => part value = part value') outcome outcome') :
    outcome.map part = outcome'.map part := by
  cases paired with
  | ok same => exact congrArg Except.ok same
  | error fault => rfl

end Paired

namespace Procedure

variable {Request : Type} {Reply : Request → Type} {Failure Fault α β σ : Type}

/-- Two procedures ask the same requests, each of them one that may be asked, and come to the
same failure or to values that are alike as long as the replies they get are. -/
inductive Twins (asks : Request → Prop)
    (replies : (request : Request) → Reply request → Reply request → Prop)
    (alike : α → α → Prop) :
    Procedure Request Reply Failure α → Procedure Request Reply Failure α → Prop where
  | done {value value' : α} (same : alike value value') :
      Twins asks replies alike (.done value) (.done value')
  | fail (failure : Failure) : Twins asks replies alike (.fail failure) (.fail failure)
  | ask {request : Request} {next next' : Reply request → Procedure Request Reply Failure α}
      (asked : asks request)
      (goOn : ∀ ⦃reply reply'⦄, replies request reply reply' →
        Twins asks replies alike (next reply) (next' reply')) :
      Twins asks replies alike (.ask request next) (.ask request next')

namespace Twins

variable {asks : Request → Prop}
  {replies : (request : Request) → Reply request → Reply request → Prop}

theorem request {question : Request} (asked : asks question) :
    Twins asks replies (replies question)
      (Procedure.request question : Procedure Request Reply Failure (Reply question))
      (Procedure.request question) :=
  .ask asked fun _ _ same => .done same

theorem bind {alike : α → α → Prop} {alike' : β → β → Prop}
    {first first' : Procedure Request Reply Failure α}
    {second second' : α → Procedure Request Reply Failure β}
    (twins : Twins asks replies alike first first')
    (goOn : ∀ ⦃value value'⦄, alike value value' →
      Twins asks replies alike' (second value) (second' value')) :
    Twins asks replies alike' (first >>= second) (first' >>= second') := by
  change Twins asks replies alike' (first.bind second) (first'.bind second')
  induction twins with
  | done same => exact goOn same
  | fail failure => exact .fail failure
  | ask asked _ ih => exact .ask asked fun _ _ same => ih same

theorem mono {alike alike' : α → α → Prop} {first second : Procedure Request Reply Failure α}
    (twins : Twins asks replies alike first second)
    (weaker : ∀ value value', alike value value' → alike' value value') :
    Twins asks replies alike' first second := by
  induction twins with
  | done same => exact .done (weaker _ _ same)
  | fail failure => exact .fail failure
  | ask asked _ ih => exact .ask asked ih

theorem ofExcept {alike : α → α → Prop} {outcome outcome' : Except Failure α}
    (paired : Paired alike outcome outcome') :
    Twins asks replies alike (ofExcept outcome : Procedure Request Reply Failure α)
      (Procedure.ofExcept outcome') := by
  cases paired with
  | ok same => exact .done same
  | error failure => exact .fail failure

/-- Twins come to outcomes that are alike where the replies they get are. -/
theorem run {answer answer' : Answerer Request Reply Fault σ} {coupled : σ → σ → Prop}
    (step : ∀ ⦃question state state'⦄, asks question → coupled state state' →
      Paired (replies question) (answer question state).1 (answer' question state').1 ∧
        coupled (answer question state).2 (answer' question state').2)
    (lift : Fault → Failure) {alike : α → α → Prop}
    {first second : Procedure Request Reply Failure α}
    (twins : Twins asks replies alike first second) {state state' : σ}
    (couple : coupled state state') :
    Paired alike (first.run answer lift state).1 (second.run answer' lift state').1 ∧
      coupled (first.run answer lift state).2 (second.run answer' lift state').2 := by
  induction twins generalizing state state' with
  | done same => exact ⟨.ok same, couple⟩
  | fail failure => exact ⟨.error failure, couple⟩
  | @ask question next next' asked goOn ih =>
      obtain ⟨paired, after⟩ := step asked couple
      rw [Procedure.run, Procedure.run]
      rcases answered : answer question state with ⟨outcome, between⟩
      rcases answered' : answer' question state' with ⟨outcome', between'⟩
      rw [answered, answered'] at paired after
      cases paired with
      | ok same => exact ih same after
      | error fault => exact ⟨.error _, after⟩

end Twins

end Procedure

end CardInventory
