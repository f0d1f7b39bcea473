import CardInventory.Proofs.Database.Access
import CardInventory.Proofs.Inventory.Arguments

/-!
# Quiet procedures

Most requests, and all that an operation asks that only reads or only stores a new
record, send quiet statements. A contract that says nothing of those is kept by them.
-/

namespace CardInventory.Database

open Storage Ledger Inventory

/-- A procedure that sends quiet statements only, given what a contract makes of its requests. -/
def SendsQuiet {Asked : Type} {Answered : Asked → Type} {Failed α : Type}
    (specified : Contract → Procedure.Specification Asked Answered Trace)
    (procedure : Procedure Asked Answered Failed α) : Prop :=
  ∀ ⦃contract : Contract⦄, contract.Lenient → ∀ trace,
    procedure.Assures (specified contract)
      (fun _ after => ∃ rest, after = trace ++ rest ∧ Quiet rest) trace

section SendsQuiet

variable {Asked : Type} {Answered : Asked → Type} {Failed α β : Type}
  {specified : Contract → Procedure.Specification Asked Answered Trace}

theorem SendsQuiet.pure (value : α) :
    SendsQuiet specified (pure value : Procedure Asked Answered Failed α) := by
  intro contract lenient trace
  exact ⟨[], (List.append_nil trace).symm, quiet_nil⟩

theorem SendsQuiet.bind (monotone : ∀ contract, Procedure.Monotone (specified contract))
    {first : Procedure Asked Answered Failed α} {second : α → Procedure Asked Answered Failed β}
    (quiet : SendsQuiet specified first) (quiet' : ∀ value, SendsQuiet specified (second value)) :
    SendsQuiet specified (first >>= second) := by
  intro contract lenient trace
  rw [Procedure.assures_bind (monotone contract)]
  apply (quiet lenient trace).mono (monotone contract)
  rintro value _ ⟨rest, rfl, quietRest⟩
  apply (quiet' value lenient (trace ++ rest)).mono (monotone contract)
  rintro _ _ ⟨others, rfl, quietOthers⟩
  exact ⟨rest ++ others, List.append_assoc trace rest others, quietRest.append quietOthers⟩

theorem SendsQuiet.ofExcept (outcome : Except Failed α) :
    SendsQuiet specified (.ofExcept outcome : Procedure Asked Answered Failed α) := by
  intro contract lenient trace
  rw [Procedure.assures_ofExcept]
  intro value _
  exact ⟨[], (List.append_nil trace).symm, quiet_nil⟩

end SendsQuiet

/-! ## Exchanges -/

namespace Exchange

variable {α β : Type}

/-- An exchange that sends quiet statements only. -/
abbrev Quiet (exchange : Exchange α) : Prop :=
  SendsQuiet Contract.ofCommand exchange

theorem Quiet.bind {first : Exchange α} {second : α → Exchange β} (quiet : Quiet first)
    (quiet' : ∀ value, Quiet (second value)) : Quiet (first >>= second) :=
  SendsQuiet.bind (fun _ => Contract.monotone_ofCommand) quiet quiet'

theorem Quiet.query {statement : Statement} (quiet : statement.quiet = true)
    (read : Outcome → Except Storage.Fault α) : Quiet (query statement read) := by
  intro contract lenient trace
  refine ⟨lenient quiet, fun outcome _ => ?_⟩
  apply (Procedure.assures_ofExcept _).mpr
  intro value readable
  exact ⟨_, rfl, quiet_singleton.mpr quiet⟩

theorem Quiet.control {step : Control} (other : step ≠ .commit) : Quiet (control step) := by
  intro contract lenient trace
  exact ⟨other, [], (List.append_nil trace).symm, quiet_nil⟩

theorem quiet_insertFaces (card : Uuid) (faces : List Face) : Quiet (insertFaces card faces) := by
  induction faces with
  | nil => exact .pure ()
  | cons face rest ih => exact Quiet.bind (.query rfl _) fun _ => ih

theorem quiet_createCard (draft : CardDraft) : Quiet (createCard draft) :=
  (Quiet.control (by decide)).bind fun _ => (Quiet.query rfl _).bind fun card =>
    (quiet_insertFaces card.id draft.faces).bind fun _ =>
      (Quiet.control (by decide)).bind fun _ => .pure _

theorem quiet_findCard (id : Uuid) : Quiet (findCard id) := by
  refine (Quiet.query rfl _).bind fun card => ?_
  cases card with
  | none => exact .pure none
  | some card => exact (Quiet.query rfl _).bind fun _ => .pure _

theorem quiet_findCards (ids : List Uuid) : Quiet (findCards ids) := by
  unfold findCards
  split
  · exact .pure []
  · exact (Quiet.query rfl _).bind fun _ => (Quiet.query rfl _).bind fun _ => .pure _

theorem quiet_searchCards (search : Search) : Quiet (searchCards search) :=
  (Quiet.query rfl _).bind fun _ => (Quiet.query rfl _).bind fun _ =>
    (Quiet.query rfl _).bind fun _ => .pure _

theorem quiet_listBinder (user : Uuid) (search : Search) : Quiet (listBinder user search) :=
  (Quiet.query rfl _).bind fun _ => (Quiet.query rfl _).bind fun _ => .pure _

end Exchange

/-- Whether a request comes down to quiet statements. -/
def quietRequest : Request → Bool
  | .lockBinderEntry _ _ => false
  | .addToBinder _ _ _ => false
  | .setInBinder _ _ _ => false
  | .deleteFromBinder _ _ => false
  | .lockDecks _ => false
  | .updateDeck _ _ => false
  | .deleteDeck _ => false
  | .lockDeckEntry _ _ _ => false
  | .addToDeck _ _ _ _ => false
  | .setInDeck _ _ _ _ => false
  | .deleteFromDeck _ _ _ => false
  | .clearDeck _ => false
  | _ => true

theorem quiet_exchange (fresh : Uuid) {request : Request} (quiet : quietRequest request = true) :
    (exchange fresh request).Quiet := by
  cases request with
  | findCard id => exact Exchange.quiet_findCard id
  | findCards ids => exact Exchange.quiet_findCards ids
  | searchCards search => exact Exchange.quiet_searchCards search
  | createCard draft => exact Exchange.quiet_createCard draft
  | listBinder user search => exact Exchange.quiet_listBinder user search
  | _ => first
    | exact Exchange.Quiet.query rfl _
    | cases quiet

/-- A quiet request is permitted by a lenient contract, and adds quiet statements. -/
theorem Contract.keeps_quiet {contract : Contract} (lenient : contract.Lenient) {trace : Trace}
    {request : Request} (quiet : quietRequest request = true)
    {good : request.Reply → Trace → Prop}
    (leads : ∀ reply rest, Quiet rest → good reply (trace ++ rest)) :
    contract.Keeps (ask request) trace good := by
  intro fresh
  apply (quiet_exchange fresh quiet lenient trace).mono monotone_ofCommand
  rintro reply _ ⟨rest, rfl, quietRest⟩
  exact leads reply rest quietRest

/-- A check by a quiet request: a rule that has passed it goes on after quiet statements. -/
theorem Contract.keeps_checked {contract : Contract} (lenient : contract.Lenient) {trace : Trace}
    {request : Request} (quiet : quietRequest request = true) {α : Type}
    {condition : request.Reply → Bool} {failure : Failure} {next : Ledger α}
    {good : α → Trace → Prop}
    (leads : ∀ rest, Quiet rest → contract.Keeps next (trace ++ rest) good) :
    contract.Keeps (ask request >>= fun reply => ensure (condition reply) failure >>= fun _ => next)
      trace good := by
  rw [keeps_bind]
  apply keeps_quiet lenient quiet
  intro reply rest quietRest
  rw [keeps_bind, keeps_ensure]
  exact fun _ => leads rest quietRest

/-! ## Rules -/

section Rules

variable {α β : Type}

/-- A rule that sends quiet statements only. -/
abbrev QuietRule (rule : Ledger α) : Prop :=
  SendsQuiet Contract.ofRequest rule

theorem QuietRule.bind {first : Ledger α} {second : α → Ledger β} (quiet : QuietRule first)
    (quiet' : ∀ value, QuietRule (second value)) : QuietRule (first >>= second) :=
  SendsQuiet.bind (fun _ => Contract.monotone_ofRequest) quiet quiet'

theorem QuietRule.ask {request : Request} (quiet : quietRequest request = true) :
    QuietRule (Ledger.ask request) := by
  intro contract lenient trace
  exact Contract.keeps_quiet lenient quiet fun _ rest quietRest => ⟨rest, rfl, quietRest⟩

theorem QuietRule.found (value : Option α) (failure : Failure) :
    QuietRule (Ledger.found value failure) := by
  cases value with
  | some value => exact .pure value
  | none => exact .ofExcept (.error failure)

theorem QuietRule.ensure (condition : Bool) (failure : Failure) :
    QuietRule (Ledger.ensure condition failure) := by
  cases condition with
  | true => exact .pure ()
  | false => exact .ofExcept (.error failure)

theorem quiet_ensureUser (id : Uuid) : QuietRule (ensureUser id) :=
  (QuietRule.ask rfl).bind fun known => .ensure known _

theorem quiet_requireDeck (id : Uuid) : QuietRule (requireDeck id) :=
  (QuietRule.ask rfl).bind fun row => .found row _

theorem quiet_readTotals (id : Uuid) : QuietRule (readTotals id) :=
  (quiet_requireDeck id).bind fun _ => (QuietRule.ask rfl).bind fun _ => .pure _

theorem quiet_readDeckList (id : Uuid) : QuietRule (readDeckList id) :=
  (quiet_requireDeck id).bind fun _ => (QuietRule.ask rfl).bind fun _ =>
    (QuietRule.ask rfl).bind fun _ => QuietRule.bind (.ofExcept _) fun _ => .pure _

/-- Whether an operation touches no deck and no entry that exists. -/
def quietOperation : Operation → Bool
  | .creditBinder _ _ _ => false
  | .debitBinder _ _ _ => false
  | .binderQuantity _ _ => false
  | .updateDeck _ _ => false
  | .deleteDeck _ => false
  | .allocate _ _ _ _ => false
  | .deallocate _ _ _ _ => false
  | .transfer _ _ _ _ _ => false
  | .moveZone _ _ _ _ _ => false
  | _ => true

/-- What remains of such an operation once its arguments are checked is quiet. -/
theorem quiet_rule {operation : Operation} (quiet : quietOperation operation = true)
    {defaultCapacity : Int} {rule : Ledger operation.Result}
    (accepted : operation.rule defaultCapacity = .ok rule) : QuietRule rule := by
  cases operation with
  | createUser draft =>
      rw [Operation.rule] at accepted
      split at accepted
      · cases accepted
      · cases accepted
        exact .ask rfl
  | registerCard draft =>
      rw [Operation.rule] at accepted
      split at accepted
      · cases accepted
      · split at accepted
        · cases accepted
        · cases accepted
          exact .ask rfl
  | createDeck proposal =>
      obtain ⟨draft, -, accepted⟩ := bind_eq_ok_iff.mp accepted
      cases accepted
      exact (quiet_ensureUser _).bind fun _ => .ask rfl
  | getUser id =>
      cases accepted
      exact (QuietRule.ask rfl).bind fun user => .found user _
  | searchCards search =>
      cases accepted
      exact .ask rfl
  | getCard id =>
      cases accepted
      exact (QuietRule.ask rfl).bind fun card => .found card _
  | listBinder user search =>
      cases accepted
      exact (quiet_ensureUser user).bind fun _ => .ask rfl
  | getDeck id =>
      cases accepted
      exact (quiet_requireDeck id).bind fun _ => (QuietRule.ask rfl).bind fun _ => .pure _
  | listUserDecks owner =>
      cases accepted
      exact (quiet_ensureUser owner).bind fun _ => .ask rfl
  | deckTotals id =>
      cases accepted
      exact quiet_readTotals id
  | exportDeck id =>
      cases accepted
      exact quiet_readDeckList id
  | _ => cases quiet

end Rules

end CardInventory.Database
