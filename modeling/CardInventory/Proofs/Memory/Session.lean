import CardInventory.Memory.Depot
import CardInventory.Proofs.Memory.Answer

/-!
# Sessions on a depot

A session is a depot with the unit of work that is open on it, if any. Clients
open units, ask requests in them, and commit or drop them, in any order; while a
unit is open no other can begin. The main statement says that no such sequence
takes the tables out of their validity, neither the committed ones nor the ones a
unit has staged.
-/

namespace CardInventory.Memory

open Storage

/-- A depot and the unit of work that is open on it. -/
structure Session where
  depot : Depot
  work : Option Staged

namespace Session

/-- What a client does in a session. -/
inductive Event where
  | begin
  | ask (request : Request)
  | commit
  | drop

/-- Whether the numbers of an event take 32 bits. -/
def Event.narrow : Event → Bool
  | ask request => request.narrow
  | _ => true

/-- No record, and no unit of work. -/
def empty : Session :=
  ⟨.empty, none⟩

/-- The session after an event. A unit that is open keeps another from beginning, and
without an open unit there is nothing to ask, to commit or to drop. -/
def step (moments : Nat → Moment) (session : Session) (event : Event) : Session :=
  match event, session.work with
  | .begin, none =>
      match session.depot.begin with
      | (.ok staged, depot) => ⟨depot, some staged⟩
      | (.error _, depot) => ⟨depot, none⟩
  | .ask request, some staged => { session with work := (answerNext moments request staged).2 }
  | .commit, some staged => ⟨session.depot.commit staged, none⟩
  | .drop, some staged => ⟨session.depot.drop staged, none⟩
  | _, _ => session

/-- The session after a sequence of events. -/
def run (moments : Nat → Moment) (session : Session) (events : List Event) : Session :=
  events.foldl (step moments) session

/-- The committed tables are valid, and so are the staged ones. -/
structure Valid (session : Session) : Prop where
  committed : session.depot.store.Valid
  staged : ∀ staged, session.work = some staged → staged.store.Valid

theorem empty_valid : empty.Valid where
  committed := Store.valid_empty
  staged _ none := by simp [empty] at none

theorem answerNext_valid {moments : Nat → Moment} {staged : Staged} (valid : staged.store.Valid)
    {request : Request} (fits : request.narrow = true) :
    (answerNext moments request staged).2.store.Valid :=
  Store.answer_valid valid fits

theorem answerNext_of_error {moments : Nat → Moment} {staged : Staged} {request : Request}
    {fault : Storage.Fault} (refused : (answerNext moments request staged).1 = .error fault) :
    (answerNext moments request staged).2.store = staged.store :=
  Store.answer_of_error refused

/-- A unit of work begins with the committed tables, and leaves the depot as it is. -/
theorem begin_eq_ok_iff {depot after : Depot} {staged : Staged} :
    depot.begin = (.ok staged, after) ↔
      depot.refusal = none ∧ staged = ⟨depot.store, depot.drawn⟩ ∧ after = depot := by
  rcases depot with ⟨store, drawn, _ | fault⟩
  · simp [Depot.begin, eq_comm]
  · simp [Depot.begin]

theorem begin_eq_ok {depot after : Depot} {staged : Staged}
    (begun : depot.begin = (.ok staged, after)) :
    staged.store = depot.store ∧ after.store = depot.store := by
  obtain ⟨-, rfl, rfl⟩ := begin_eq_ok_iff.mp begun
  exact ⟨rfl, rfl⟩

theorem begin_eq_error {depot after : Depot} {fault : Storage.Fault}
    (refused : depot.begin = (.error fault, after)) : after.store = depot.store := by
  unfold Depot.begin at refused
  split at refused
  · simp only [Prod.mk.injEq] at refused
    obtain ⟨-, rfl⟩ := refused
    rfl
  · simp at refused

theorem step_valid (moments : Nat → Moment) {session : Session} (valid : session.Valid)
    {event : Event} (fits : event.narrow = true) : (session.step moments event).Valid := by
  rcases session with ⟨depot, _ | open_⟩
  · cases event with
    | begin =>
        simp only [step]
        split
        · rename_i staged after begun
          obtain ⟨stagedStore, afterStore⟩ := begin_eq_ok begun
          refine ⟨afterStore ▸ valid.committed, fun _ working => ?_⟩
          obtain rfl := Option.some.inj working
          exact stagedStore ▸ valid.committed
        · rename_i fault after refused
          exact ⟨begin_eq_error refused ▸ valid.committed, fun _ working => by simp at working⟩
    | ask request => exact valid
    | commit => exact valid
    | drop => exact valid
  · have stagedValid : open_.store.Valid := valid.staged open_ rfl
    cases event with
    | begin => exact valid
    | ask request =>
        refine ⟨valid.committed, fun _ working => ?_⟩
        obtain rfl := Option.some.inj working
        exact answerNext_valid stagedValid fits
    | commit => exact ⟨stagedValid, fun _ working => by simp [step] at working⟩
    | drop => exact ⟨valid.committed, fun _ working => by simp [step] at working⟩

theorem run_valid (moments : Nat → Moment) {session : Session} (valid : session.Valid)
    {events : List Event} (fit : ∀ event ∈ events, event.narrow = true) :
    (session.run moments events).Valid := by
  induction events generalizing session with
  | nil => exact valid
  | cons event rest ih =>
      have next := step_valid moments valid (fit event List.mem_cons_self)
      exact ih next fun other member => fit other (List.mem_cons_of_mem _ member)

/-- Whatever clients do from the beginning on, with numbers of 32 bits, the committed
and the staged tables are valid, and a request that is answered by a fault leaves the
staged tables as they were. -/
theorem reachable_tables_valid (moments : Nat → Moment) (events : List Event)
    (fit : ∀ event ∈ events, event.narrow = true) :
    (empty.run moments events).depot.store.Valid ∧
      ∀ staged, (empty.run moments events).work = some staged →
        staged.store.Valid ∧
          ∀ (request : Request) (fault : Storage.Fault),
            (answerNext moments request staged).1 = .error fault →
              (answerNext moments request staged).2.store = staged.store := by
  have valid := run_valid moments empty_valid fit
  exact ⟨valid.committed, fun staged working =>
    ⟨valid.staged staged working, fun _ _ refused => answerNext_of_error refused⟩⟩

/-- A session in which a holding of -3 copies and names that are blank are refused. -/
theorem refused_changes_leave_valid :
    let moments : Nat → Moment := fun n => ⟨⟨n, 0⟩, .ofNat n⟩
    let events : List Event :=
      [.begin, .ask (.createUser ⟨"ada", none⟩),
        .ask (.createCard ⟨.ofNat 7, "Forest", none, none, none, none, []⟩),
        .ask (.addToBinder (.ofNat 0) (.ofNat 7) (-3)),
        .ask (.addToBinder (.ofNat 0) (.ofNat 7) 2), .commit, .begin,
        .ask (.createDeck ⟨.ofNat 0, " ", "modern", some 60, none⟩)]
    (empty.run moments events).depot.store.Valid ∧
      ∃ staged, (empty.run moments events).work = some staged ∧ staged.store.Valid ∧
        (answerNext moments (.createUser ⟨" ", none⟩) staged).2.store = staged.store := by
  intro moments events
  have fit : ∀ event ∈ events, event.narrow = true := by decide
  have working : (empty.run moments events).work.isSome = true := by decide
  obtain ⟨staged, working⟩ := Option.isSome_iff_exists.mp working
  obtain ⟨committed, unchanged⟩ := reachable_tables_valid moments events fit
  obtain ⟨valid, kept⟩ := unchanged staged working
  exact ⟨committed, staged, working, valid, kept (.createUser ⟨" ", none⟩) _ rfl⟩

end Session

end CardInventory.Memory
