import CardInventory.Database.Transaction
import CardInventory.Proofs.Assurance
import CardInventory.Proofs.Procedure

/-!
# Traces of statements

The server may reply to a statement what it likes. What a connection sends is
therefore told by a contract: what is to hold of a statement that is sent, given all
that was said before, and what is assumed of the outcomes that are accepted. A rule
that keeps a contract, whatever is replied within the assumption, keeps it over every
connection.
-/

namespace CardInventory.Database

open Storage Ledger

/-- A statement that was sent, and what was said to it. -/
structure Told where
  statement : Statement
  verdict : Verdict

/-- The statements of a unit of work, from the first to the last. -/
abbrev Trace := List Told

/-- A statement among the commands that were sent. -/
def Exchanged.told? (exchanged : Exchanged) : Option Told :=
  match exchanged.command with
  | .statement asked => some ⟨asked, exchanged.verdict⟩
  | .control _ => none

/-- The statements that were sent over a connection. -/
def Connection.trace (connection : Connection) : Trace :=
  connection.sent.filterMap Exchanged.told?

/-- Whether a command has committed a unit of work. -/
def Exchanged.commits (exchanged : Exchanged) : Bool :=
  match exchanged.command, exchanged.verdict with
  | .control .commit, .accepted _ => true
  | _, _ => false

/-- The unit of work whose commands a connection has recorded was committed. -/
def Connection.Committed (connection : Connection) : Prop :=
  ∃ exchanged ∈ connection.sent, exchanged.commits = true

instance (connection : Connection) : Decidable connection.Committed :=
  inferInstanceAs (Decidable (∃ exchanged ∈ connection.sent, exchanged.commits = true))

theorem commits_iff {command : Command} {verdict : Verdict} :
    Exchanged.commits ⟨command, verdict⟩ = true ↔
      command = .control .commit ∧ ∃ outcome, verdict = .accepted outcome := by
  unfold Exchanged.commits
  split <;> simp_all

/-! Requests to delete come down to a single statement each, whose count is read. -/

theorem exchange_deleteFromBinder (fresh user card : Uuid) :
    exchange fresh (.deleteFromBinder user card) =
      .query (.deleteFromBinder user card) fun outcome => .ok (decide (0 < outcome.count)) :=
  rfl

theorem exchange_deleteFromDeck (fresh deck card : Uuid) (zone : Zone) :
    exchange fresh (.deleteFromDeck deck card zone) =
      .query (.deleteFromDeck deck card zone) fun outcome => .ok (decide (0 < outcome.count)) :=
  rfl

theorem exchange_deleteDeck (fresh deck : Uuid) :
    exchange fresh (.deleteDeck deck) =
      .query (.deleteDeck deck) fun outcome => .ok (decide (0 < outcome.count)) :=
  rfl

/-- An element of a list that was appended to was there before, or it was appended. -/
theorem split_append {α : Type} {list rest before after : List α} {element : α}
    (split : list ++ rest = before ++ element :: after) :
    (∃ init, list = before ++ element :: init ∧ after = init ++ rest) ∨
      ∃ init, before = list ++ init ∧ rest = init ++ element :: after := by
  rcases List.append_eq_append_iff.mp split with ⟨init, rfl, rfl⟩ | ⟨init, rfl, same⟩
  · exact .inr ⟨init, rfl, rfl⟩
  · cases init with
    | nil => exact .inr ⟨[], by simp, same.symm⟩
    | cons head init =>
        obtain ⟨rfl, rfl⟩ := List.cons_eq_cons.mp same
        exact .inl ⟨init, rfl, rfl⟩

/-- The same of a single element that is appended. -/
theorem split_append_singleton {α : Type} {list before after : List α} {last element : α}
    (split : list ++ [last] = before ++ element :: after) :
    (list = before ∧ last = element ∧ after = []) ∨
      ∃ init, list = before ++ element :: init ∧ after = init ++ [last] := by
  rcases split_append split with split | ⟨init, rfl, same⟩
  · exact .inr split
  · obtain ⟨rfl, rfl, rfl⟩ : init = [] ∧ element = last ∧ after = [] := by
      simpa [List.singleton_eq_append_iff] using same
    exact .inl ⟨(List.append_nil list).symm, rfl, rfl⟩

/-- What a statement must satisfy after what was said before it, and what is assumed of
the outcome with which a statement is accepted. -/
structure Contract where
  permits : Trace → Statement → Prop
  assumes : Statement → Outcome → Prop

namespace Contract

variable (contract : Contract)

/-- All that was accepted was accepted as assumed. -/
def Admits (trace : Trace) : Prop :=
  ∀ told ∈ trace, ∀ outcome, told.verdict = .accepted outcome →
    contract.assumes told.statement outcome

/-- Every statement of a trace is permitted, as long as the assumption was met before it. -/
def Guards (trace : Trace) : Prop :=
  ∀ before told after, trace = before ++ told :: after → contract.Admits before →
    contract.permits before told.statement

/-- What a command leads to. -/
def ofCommand : Procedure.Specification Command (fun _ => Outcome) Trace
  | .control step, next, trace => step ≠ .commit ∧ next (.affected 0) trace
  | .statement asked, next, trace =>
      contract.permits trace asked ∧
        ∀ outcome, contract.assumes asked outcome →
          next outcome (trace ++ [⟨asked, .accepted outcome⟩])

/-- What a request leads to, whatever identifier is drawn for it. -/
def ofRequest : Procedure.Specification Request Request.Reply Trace :=
  fun request next trace =>
    ∀ fresh, (exchange fresh request).Assures contract.ofCommand next trace

/-- Whatever is replied to a rule within the assumption, it sends permitted statements only, and
what it ends with is good. -/
def Keeps {α : Type} (rule : Ledger α) (trace : Trace) (good : α → Trace → Prop) : Prop :=
  rule.Assures contract.ofRequest good trace

variable {contract : Contract} {trace : Trace}

@[simp]
theorem admits_append {rest : Trace} :
    contract.Admits (trace ++ rest) ↔ contract.Admits trace ∧ contract.Admits rest :=
  List.forall_mem_append

@[simp]
theorem admits_accepted {statement : Statement} {outcome : Outcome} :
    contract.Admits [⟨statement, .accepted outcome⟩] ↔ contract.assumes statement outcome := by
  simp [Admits]

theorem guards_nil : contract.Guards [] := by
  intro before told after split
  simp at split

theorem Guards.of_append {rest : Trace} (guards : contract.Guards (trace ++ rest)) :
    contract.Guards trace := by
  rintro before told after rfl
  exact guards before told (after ++ rest) (List.append_assoc before (told :: after) rest)

/-- A trace is guarded if all but its last statement are, and the last is permitted. -/
theorem guards_append_singleton {told : Told} :
    contract.Guards (trace ++ [told]) ↔
      contract.Guards trace ∧
        (contract.Admits trace → contract.permits trace told.statement) := by
  constructor
  · intro guards
    exact ⟨guards.of_append, guards trace told [] rfl⟩
  · rintro ⟨guards, permitted⟩ before told' after split
    rcases split_append_singleton split with ⟨rfl, rfl, -⟩ | ⟨init, rfl, -⟩
    · exact permitted
    · exact guards before told' init rfl

/-! ## Rules -/

theorem monotone_ofCommand : Procedure.Monotone contract.ofCommand := by
  intro command trace good better weaker
  cases command with
  | control step =>
      rintro ⟨other, rest⟩
      exact ⟨other, weaker _ _ rest⟩
  | statement asked =>
      rintro ⟨permitted, rest⟩
      exact ⟨permitted, fun outcome assumed => weaker _ _ (rest outcome assumed)⟩

theorem monotone_ofRequest : Procedure.Monotone contract.ofRequest := by
  intro request trace good better weaker leads fresh
  exact (leads fresh).mono monotone_ofCommand weaker

/-- All statements of a trace were accepted. -/
def Accepted (trace : Trace) : Prop :=
  ∀ told ∈ trace, ∃ outcome, told.verdict = .accepted outcome

/-- A trace continues another by statements that were accepted. -/
def Continues (before after : Trace) : Prop :=
  ∃ rest, after = before ++ rest ∧ Accepted rest

theorem Continues.refl (trace : Trace) : Continues trace trace :=
  ⟨[], (List.append_nil trace).symm, fun told member => by cases member⟩

theorem Continues.trans (first second third : Trace) (left : Continues first second)
    (right : Continues second third) : Continues first third := by
  obtain ⟨rest, rfl, accepted⟩ := left
  obtain ⟨others, rfl, accepted'⟩ := right
  exact ⟨rest ++ others, List.append_assoc first rest others,
    List.forall_mem_append.mpr ⟨accepted, accepted'⟩⟩

theorem continues_accepted (trace : Trace) (statement : Statement) (outcome : Outcome) :
    Continues trace (trace ++ [⟨statement, .accepted outcome⟩]) := by
  refine ⟨_, rfl, fun told member => ⟨outcome, ?_⟩⟩
  rw [List.mem_singleton.mp member]

theorem along_ofCommand : Procedure.Along Continues contract.ofCommand := by
  intro command trace good
  cases command with
  | control step =>
      rintro ⟨other, rest⟩
      exact ⟨other, rest, .refl trace⟩
  | statement asked =>
      rintro ⟨permitted, rest⟩
      exact ⟨permitted, fun outcome assumed =>
        ⟨rest outcome assumed, continues_accepted trace asked outcome⟩⟩

theorem along_ofRequest : Procedure.Along Continues contract.ofRequest := by
  intro request trace good leads fresh
  exact (leads fresh).along .refl .trans monotone_ofCommand along_ofCommand

variable {α β : Type} {good : α → Trace → Prop}

theorem Keeps.mono {better : α → Trace → Prop} {rule : Ledger α}
    (keeps : contract.Keeps rule trace better)
    (weaker : ∀ value after, better value after → good value after) :
    contract.Keeps rule trace good :=
  Procedure.Assures.mono monotone_ofRequest weaker keeps

/-- The statements of a rule come after those that were sent before. -/
theorem Keeps.continues {rule : Ledger α} (keeps : contract.Keeps rule trace good) :
    contract.Keeps rule trace fun value after => good value after ∧ Continues trace after :=
  Procedure.Assures.along .refl .trans monotone_ofRequest along_ofRequest keeps

theorem keeps_bind {good : β → Trace → Prop} (first : Ledger α) (second : α → Ledger β) :
    contract.Keeps (first >>= second) trace good ↔
      contract.Keeps first trace fun value after => contract.Keeps (second value) after good :=
  Procedure.assures_bind monotone_ofRequest first second

@[simp]
theorem keeps_pure (value : α) :
    contract.Keeps (pure value : Ledger α) trace good ↔ good value trace :=
  Iff.rfl

@[simp]
theorem keeps_done (value : α) :
    contract.Keeps (.done value : Ledger α) trace good ↔ good value trace :=
  Iff.rfl

@[simp]
theorem keeps_fail (failure : Failure) :
    contract.Keeps (.fail failure : Ledger α) trace good ↔ True :=
  Iff.rfl

theorem keeps_ofExcept (outcome : Except Failure α) :
    contract.Keeps (Procedure.ofExcept outcome : Ledger α) trace good ↔
      ∀ value, outcome = .ok value → good value trace :=
  Procedure.assures_ofExcept outcome

theorem keeps_ensure {condition : Bool} {failure : Failure} {good : Unit → Trace → Prop} :
    contract.Keeps (ensure condition failure) trace good ↔ (condition = true → good () trace) := by
  cases condition <;> simp [ensure]

theorem keeps_ensurePositive {quantity : Int} {good : Unit → Trace → Prop} :
    contract.Keeps (ensurePositive quantity) trace good ↔ (0 < quantity → good () trace) := by
  rw [ensurePositive, keeps_ensure, decide_eq_true_eq]

theorem keeps_found {value : Option α} {failure : Failure} :
    contract.Keeps (found value failure) trace good ↔ ∀ row, value = some row → good row trace := by
  cases value <;> simp [found]

/-- A request that is a single statement: it is to be permitted, and the outcomes that are
assumed and can be read are to be good. -/
theorem keeps_ask {request : Request} {statement : Statement}
    {read : Outcome → Except Storage.Fault request.Reply}
    (single : ∀ fresh, exchange fresh request = .query statement read)
    {good : request.Reply → Trace → Prop} (permitted : contract.permits trace statement)
    (leads : ∀ outcome reply, contract.assumes statement outcome → read outcome = .ok reply →
      good reply (trace ++ [⟨statement, .accepted outcome⟩])) :
    contract.Keeps (ask request) trace good := by
  intro fresh
  rw [single fresh]
  refine ⟨permitted, fun outcome assumed => ?_⟩
  exact (Procedure.assures_ofExcept _).mpr fun reply readable =>
    leads outcome reply assumed readable

end Contract

end CardInventory.Database
