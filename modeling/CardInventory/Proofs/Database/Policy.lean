import CardInventory.Proofs.Database.Course

/-!
# What an operation may send

No rule sends the commit of its unit of work. A printing is registered inside a
savepoint, which is released only when the printing and all its faces have been
inserted.
-/

namespace CardInventory.Database

open Storage Ledger Inventory

/-- The statements among the commands that were sent. -/
def statementsOf (sent : List Exchanged) : List Statement :=
  (sent.filterMap Exchanged.told?).map Told.statement

/-- The statements that were sent since a savepoint was set. -/
def SinceSavepoint (statements : List Statement) (sent : List Exchanged) : Prop :=
  ∃ before outcome since,
    sent = before ++ ⟨.control .savepoint, .accepted outcome⟩ :: since ∧
      statementsOf since = statements

/-- A printing was inserted, and after it all its faces, since a savepoint was set. -/
def Registered (draft : CardDraft) (sent : List Exchanged) : Prop :=
  ∃ card, SinceSavepoint (.insertCard draft :: draft.faces.map (.insertFace card)) sent

/-- A rule leaves the commit of its unit to others. -/
def uncommitting : Policy :=
  fun _ command => command ≠ .control .commit

/-- The savepoint of a printing is released once its rows are inserted. -/
def registering (draft : CardDraft) : Policy :=
  fun sent command => command ≠ .control .commit ∧
    (command = .control .release → Registered draft sent)

/-- What the rule of an operation may send. -/
def policyOf : Operation → Policy
  | .registerCard draft => registering draft
  | _ => uncommitting

theorem policyOf_uncommitting {operation : Operation} {sent : List Exchanged} {command : Command}
    (allowed : policyOf operation sent command) : command ≠ .control .commit := by
  cases operation with
  | registerCard draft => exact allowed.1
  | _ => exact allowed

/-- An exchange that commits nothing. -/
def Uncommitting {α : Type} (exchange : Exchange α) : Prop :=
  ∀ sent, exchange.Assures uncommitting.ofCommand (fun _ _ => True) sent

namespace Uncommitting

variable {α β : Type}

theorem pure (value : α) : Uncommitting (pure value : Exchange α) :=
  fun _ => trivial

theorem bind {first : Exchange α} {second : α → Exchange β} (former : Uncommitting first)
    (latter : ∀ value, Uncommitting (second value)) : Uncommitting (first >>= second) := by
  intro sent
  rw [Procedure.assures_bind uncommitting.monotone_ofCommand]
  exact (former sent).mono uncommitting.monotone_ofCommand fun value after _ => latter value after

theorem query (statement : Statement) (read : Outcome → Except Fault α) :
    Uncommitting (Exchange.query statement read) := by
  intro sent flushed _
  refine ⟨by simp [uncommitting], fun outcome => ?_⟩
  exact (Procedure.assures_ofExcept _).mpr fun _ _ => trivial

theorem control {step : Control} (other : step ≠ .commit) :
    Uncommitting (Exchange.control step) :=
  fun _ _ _ => ⟨by simpa [uncommitting] using other, fun _ => trivial⟩

theorem insertFaces (card : Uuid) (faces : List Face) :
    Uncommitting (Exchange.insertFaces card faces) := by
  induction faces with
  | nil => exact .pure ()
  | cons face rest ih => exact bind (.query _ _) fun _ => ih

theorem createCard (draft : CardDraft) : Uncommitting (Exchange.createCard draft) :=
  (control (by decide)).bind fun _ => (query _ _).bind fun card =>
    (insertFaces card.id draft.faces).bind fun _ =>
      (control (by decide)).bind fun _ => .pure _

theorem findCard (id : Uuid) : Uncommitting (Exchange.findCard id) := by
  refine (query _ _).bind fun card => ?_
  cases card with
  | none => exact .pure none
  | some card => exact (query _ _).bind fun _ => .pure _

theorem findCards (ids : List Uuid) : Uncommitting (Exchange.findCards ids) := by
  unfold Exchange.findCards
  split
  · exact .pure []
  · exact (query _ _).bind fun _ => (query _ _).bind fun _ => .pure _

theorem searchCards (search : Search) : Uncommitting (Exchange.searchCards search) :=
  (query _ _).bind fun _ => (query _ _).bind fun _ => (query _ _).bind fun _ => .pure _

theorem listBinder (user : Uuid) (search : Search) :
    Uncommitting (Exchange.listBinder user search) :=
  (query _ _).bind fun _ => (query _ _).bind fun _ => .pure _

theorem exchange (fresh : Uuid) (request : Request) :
    Uncommitting (exchange fresh request) := by
  cases request with
  | findCard id => exact .findCard id
  | findCards ids => exact .findCards ids
  | searchCards search => exact .searchCards search
  | createCard draft => exact .createCard draft
  | listBinder user search => exact .listBinder user search
  | _ => first
    | exact .query _ _
    | exact bind (.query _ _) fun _ => .pure _

end Uncommitting

section Registration

variable {draft : CardDraft} {statements : List Statement} {sent : List Exchanged}

theorem statementsOf_append (sent rest : List Exchanged) :
    statementsOf (sent ++ rest) = statementsOf sent ++ statementsOf rest := by
  simp [statementsOf]

theorem SinceSavepoint.append (since : SinceSavepoint statements sent) (rest : List Exchanged) :
    SinceSavepoint (statements ++ statementsOf rest) (sent ++ rest) := by
  obtain ⟨before, outcome, after, rfl, rfl⟩ := since
  exact ⟨before, outcome, after ++ rest, by simp, statementsOf_append after rest⟩

theorem SinceSavepoint.flushed (since : SinceSavepoint statements sent)
    {flushed : List Exchanged} (ready : Flushed sent flushed) :
    SinceSavepoint statements flushed := by
  rcases ready with rfl | rfl
  · exact since
  · have none : statementsOf [returned] = [] := rfl
    simpa only [none, List.append_nil] using since.append [returned]

end Registration

end CardInventory.Database
