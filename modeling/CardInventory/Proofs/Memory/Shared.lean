import CardInventory.Memory.Depot
import CardInventory.Proofs.Memory.Session
import Mathlib.Logic.Function.Basic

/-!
# A depot that clients share

Any number of clients share a depot. Each takes its lock, copies the tables, asks
requests of its copy, commits or drops the copy and gives the lock back, one step
at a time and between the steps of the others. The lock is the only thing that a
client waits for: that the tables have not changed since they were copied is
nowhere checked.

What the clients see is recorded in a log. The main statement says that at any time
the committed tables and every answer in the log are those of the committed units
run one after another, each as a whole.
-/

namespace CardInventory.Memory

open Storage

/-- A request that was asked, and its answer. -/
structure Call where
  request : Request
  reply : Except Fault request.Reply

/-- What was asked in a unit of work, from the first of the moments that were drawn for it. -/
structure Transcript where
  drawn : Nat
  calls : List Call

/-- What a client is to ask in a unit of work, and the moment at which it begins. -/
structure Script where
  drawn : Nat
  requests : List Request

/-- A transcript without its answers. -/
def Transcript.script (transcript : Transcript) : Script :=
  ⟨transcript.drawn, transcript.calls.map Call.request⟩

/-! ## Units one after another -/

/-- Answer requests one after another. -/
def answerAll (moments : Nat → Moment) : List Request → Staged → List Call × Staged
  | [], staged => ([], staged)
  | request :: rest, staged =>
      let (reply, between) := answerNext moments request staged
      let (calls, after) := answerAll moments rest between
      (⟨request, reply⟩ :: calls, after)

/-- Run units of work one after another, each as a whole and each committed: what is answered
in each of them, and the tables at the end. -/
def runSerially (moments : Nat → Moment) : List Script → Store → List (List Call) × Store
  | [], store => ([], store)
  | script :: rest, store =>
      let (calls, staged) := answerAll moments script.requests ⟨store, script.drawn⟩
      let (others, last) := runSerially moments rest staged.store
      (calls :: others, last)

/-! ## Clients -/

/-- Where a client is with its unit of work. -/
inductive Phase where
  /-- It has no unit. -/
  | idle
  /-- It has the lock. -/
  | locked
  /-- It works on its copy of the tables. -/
  | working (staged : Staged)
  /-- Its copy is gone, and the lock is still to be given back. -/
  | leaving

/-- A step of a client. -/
inductive Action where
  | lock
  | begin
  | ask (request : Request)
  | commit
  | drop
  | unlock

/-- What a client sees of a unit of work. -/
inductive Event where
  | began (drawn : Nat)
  | answered (call : Call)
  | committed
  | dropped

/-- A depot that is shared: who holds its lock, where each client is, and what the clients
have seen. -/
structure Shared (Client : Type) where
  depot : Depot
  holder : Option Client
  phase : Client → Phase
  log : List (Client × Event)

namespace Shared

variable {Client : Type}

/-- A depot none of whose clients has done anything. -/
def fresh (depot : Depot) : Shared Client :=
  ⟨depot, none, fun _ => .idle, []⟩

/-- The same with another depot. -/
def withDepot (shared : Shared Client) (depot : Depot) : Shared Client :=
  { shared with depot := depot }

/-- Record what a client sees. -/
def note (shared : Shared Client) (client : Client) (event : Event) : Shared Client :=
  { shared with log := shared.log ++ [(client, event)] }

variable [DecidableEq Client]

/-- The same with a client in another phase. -/
def enter (shared : Shared Client) (client : Client) (phase : Phase) : Shared Client :=
  { shared with phase := Function.update shared.phase client phase }

/-- The step of a client. A step that does not fit its phase does nothing, and to take the lock
is to wait as long as another client holds it. -/
def step (moments : Nat → Moment) (shared : Shared Client) (client : Client)
    (action : Action) : Shared Client :=
  match action, shared.phase client with
  | .lock, .idle =>
      match shared.holder with
      | none => { shared with holder := some client }.enter client .locked
      | some _ => shared
  | .begin, .locked =>
      match shared.depot.begin with
      | (.ok staged, depot) =>
          ((shared.withDepot depot).note client (.began staged.drawn)).enter client
            (.working staged)
      | (.error _, depot) => (shared.withDepot depot).enter client .leaving
  | .ask request, .working staged =>
      let (reply, after) := answerNext moments request staged
      (shared.note client (.answered ⟨request, reply⟩)).enter client (.working after)
  | .commit, .working staged =>
      ((shared.withDepot (shared.depot.commit staged)).note client .committed).enter client
        .leaving
  | .drop, .working staged =>
      ((shared.withDepot (shared.depot.drop staged)).note client .dropped).enter client
        .leaving
  | .unlock, .leaving => { shared with holder := none }.enter client .idle
  | _, _ => shared

/-- What comes of the steps of clients in some order. -/
def run (moments : Nat → Moment) (shared : Shared Client) (steps : List (Client × Action)) :
    Shared Client :=
  steps.foldl (fun shared step => shared.step moments step.1 step.2) shared

end Shared

/-! ## The book of units -/

/-- The transcript of each client's last unit of work, and those of the units that were
committed, in the order of their commits. -/
structure Book (Client : Type) where
  current : Client → Transcript
  committed : List Transcript

namespace Book

variable {Client : Type} [DecidableEq Client]

/-- A book of no units. -/
def empty : Book Client :=
  ⟨fun _ => ⟨0, []⟩, []⟩

/-- Enter what a client has seen. -/
def enter (book : Book Client) : Client × Event → Book Client
  | (client, .began drawn) =>
      { book with current := Function.update book.current client ⟨drawn, []⟩ }
  | (client, .answered call) =>
      { book with
        current := Function.update book.current client
          ⟨(book.current client).drawn, (book.current client).calls ++ [call]⟩ }
  | (client, .committed) => { book with committed := book.committed ++ [book.current client] }
  | (_, .dropped) => book

/-- The book of a log. -/
def ofLog (log : List (Client × Event)) : Book Client :=
  log.foldl enter empty

theorem ofLog_append_singleton (log : List (Client × Event)) (entry : Client × Event) :
    ofLog (log ++ [entry]) = (ofLog log).enter entry :=
  List.foldl_append

end Book

/-- The book of what the clients of a shared depot have seen. -/
def Shared.book {Client : Type} [DecidableEq Client] (shared : Shared Client) : Book Client :=
  .ofLog shared.log

variable {Client : Type} [DecidableEq Client] {moments : Nat → Moment}

@[simp]
theorem answerAll_append_singleton (requests : List Request) (request : Request)
    (staged : Staged) :
    answerAll moments (requests ++ [request]) staged =
      let (calls, between) := answerAll moments requests staged
      let (reply, after) := answerNext moments request between
      (calls ++ [⟨request, reply⟩], after) := by
  induction requests generalizing staged with
  | nil => rfl
  | cons first rest ih => simp only [List.cons_append, answerAll, ih]

@[simp]
theorem runSerially_append_singleton (scripts : List Script) (script : Script) (store : Store) :
    runSerially moments (scripts ++ [script]) store =
      let (calls, last) := runSerially moments scripts store
      let (others, staged) := answerAll moments script.requests ⟨last, script.drawn⟩
      (calls ++ [others], staged.store) := by
  induction scripts generalizing store with
  | nil => rfl
  | cons first rest ih => simp only [List.cons_append, runSerially, ih]

namespace Shared

variable {shared : Shared Client} {initial : Store} {client : Client}

/-! ## What a step can do -/

/-- What can come of a step of a client. -/
inductive Stepped (moments : Nat → Moment) (shared : Shared Client) (client : Client) :
    Shared Client → Prop where
  | nothing : Stepped moments shared client shared
  | lock (idle : shared.phase client = .idle) (free : shared.holder = none) :
      Stepped moments shared client ({ shared with holder := some client }.enter client .locked)
  | begin {staged : Staged} {depot : Depot} (locked : shared.phase client = .locked)
      (begun : shared.depot.begin = (.ok staged, depot)) :
      Stepped moments shared client
        (((shared.withDepot depot).note client (.began staged.drawn)).enter client
          (.working staged))
  | refuse {fault : Fault} {depot : Depot} (locked : shared.phase client = .locked)
      (refused : shared.depot.begin = (.error fault, depot)) :
      Stepped moments shared client ((shared.withDepot depot).enter client .leaving)
  | ask {staged : Staged} (request : Request) (working : shared.phase client = .working staged) :
      Stepped moments shared client
        ((shared.note client (.answered ⟨request, (answerNext moments request staged).1⟩)).enter
          client (.working (answerNext moments request staged).2))
  | commit {staged : Staged} (working : shared.phase client = .working staged) :
      Stepped moments shared client
        (((shared.withDepot (shared.depot.commit staged)).note client .committed).enter client
          .leaving)
  | drop {staged : Staged} (working : shared.phase client = .working staged) :
      Stepped moments shared client
        (((shared.withDepot (shared.depot.drop staged)).note client .dropped).enter client
          .leaving)
  | unlock (leaving : shared.phase client = .leaving) :
      Stepped moments shared client ({ shared with holder := none }.enter client .idle)

theorem step_cases (moments : Nat → Moment) (shared : Shared Client) (client : Client)
    (action : Action) : Stepped moments shared client (shared.step moments client action) := by
  unfold step
  split
  · rename_i idle
    split
    · rename_i free
      exact .lock idle free
    · exact .nothing
  · rename_i locked
    split
    · rename_i begun
      exact .begin locked begun
    · rename_i refused
      exact .refuse locked refused
  · rename_i request _ working
    exact .ask request working
  · rename_i working
    exact .commit working
  · rename_i working
    exact .drop working
  · rename_i leaving
    exact .unlock leaving
  · exact .nothing

section Step

variable (moments : Nat → Moment) {staged : Staged} {depot : Depot}

theorem step_lock_free (idle : shared.phase client = .idle) (free : shared.holder = none) :
    shared.step moments client .lock =
      { shared with holder := some client }.enter client .locked := by
  rw [step.eq_def, idle, free]

theorem step_lock_held (idle : shared.phase client = .idle) {holder : Client}
    (held : shared.holder = some holder) : shared.step moments client .lock = shared := by
  rw [step.eq_def, idle, held]

theorem step_begin (locked : shared.phase client = .locked)
    (begun : shared.depot.begin = (.ok staged, depot)) :
    shared.step moments client .begin =
      ((shared.withDepot depot).note client (.began staged.drawn)).enter client
        (.working staged) := by
  rw [step.eq_def, locked, begun]

theorem step_begin_refused (locked : shared.phase client = .locked) {fault : Fault}
    (refused : shared.depot.begin = (.error fault, depot)) :
    shared.step moments client .begin = (shared.withDepot depot).enter client .leaving := by
  rw [step.eq_def, locked, refused]

theorem step_ask (request : Request) (working : shared.phase client = .working staged) :
    shared.step moments client (.ask request) =
      (shared.note client (.answered ⟨request, (answerNext moments request staged).1⟩)).enter
        client (.working (answerNext moments request staged).2) := by
  rw [step.eq_def, working]

theorem step_commit (working : shared.phase client = .working staged) :
    shared.step moments client .commit =
      ((shared.withDepot (shared.depot.commit staged)).note client .committed).enter client
        .leaving := by
  rw [step.eq_def, working]

theorem step_drop (working : shared.phase client = .working staged) :
    shared.step moments client .drop =
      ((shared.withDepot (shared.depot.drop staged)).note client .dropped).enter client
        .leaving := by
  rw [step.eq_def, working]

/-- A client leaves its unit of work by a commit or a drop. -/
theorem step_end (commits : Bool) (working : shared.phase client = .working staged) :
    (shared.step moments client (if commits then .commit else .drop)).phase client = .leaving ∧
      (shared.step moments client (if commits then .commit else .drop)).depot =
        if commits then shared.depot.commit staged else shared.depot.drop staged := by
  cases commits with
  | false => simp [step_drop moments working, enter, note, withDepot]
  | true => simp [step_commit moments working, enter, note, withDepot]

theorem step_unlock (leaving : shared.phase client = .leaving) :
    shared.step moments client .unlock = { shared with holder := none }.enter client .idle := by
  rw [step.eq_def, leaving]

end Step

theorem Stepped.phase_of_ne {after : Shared Client}
    (stepped : Stepped moments shared client after) {other : Client} (different : other ≠ client) :
    after.phase other = shared.phase other := by
  cases stepped with
  | nothing => rfl
  | _ => exact Function.update_of_ne different _ _

/-! ## What every step keeps -/

/-- Whoever has begun with a unit of work holds the lock. -/
def Exclusive (shared : Shared Client) : Prop :=
  ∀ ⦃client⦄, shared.phase client ≠ .idle → shared.holder = some client

/-- The committed tables, and all that was answered in the units that were committed, come from
running these units one after another. What is answered in a unit that is under way comes from
running it on the committed tables. -/
structure Serialized (moments : Nat → Moment) (initial : Store) (shared : Shared Client) :
    Prop where
  committed : runSerially moments (shared.book.committed.map Transcript.script) initial =
    (shared.book.committed.map Transcript.calls, shared.depot.store)
  underway : ∀ ⦃client staged⦄, shared.phase client = .working staged →
    answerAll moments (shared.book.current client).script.requests
        ⟨shared.depot.store, (shared.book.current client).drawn⟩ =
      ((shared.book.current client).calls, staged)

@[simp]
theorem book_withDepot (shared : Shared Client) (depot : Depot) :
    (shared.withDepot depot).book = shared.book :=
  rfl

@[simp]
theorem phase_enter (shared : Shared Client) (client : Client) (phase : Phase) :
    (shared.enter client phase).phase = Function.update shared.phase client phase :=
  rfl

@[simp]
theorem depot_enter (shared : Shared Client) (client : Client) (phase : Phase) :
    (shared.enter client phase).depot = shared.depot :=
  rfl

omit [DecidableEq Client] in
@[simp]
theorem depot_withDepot (shared : Shared Client) (depot : Depot) :
    (shared.withDepot depot).depot = depot :=
  rfl

omit [DecidableEq Client] in
@[simp]
theorem depot_note (shared : Shared Client) (client : Client) (event : Event) :
    (shared.note client event).depot = shared.depot :=
  rfl

@[simp]
theorem book_enter (shared : Shared Client) (client : Client) (phase : Phase) :
    (shared.enter client phase).book = shared.book :=
  rfl

@[simp]
theorem book_note (shared : Shared Client) (client : Client) (event : Event) :
    (shared.note client event).book = shared.book.enter (client, event) :=
  Book.ofLog_append_singleton shared.log (client, event)

/-- A client that stays in its unit of work, or leaves it without the lock, changes nothing about
who holds the lock. -/
theorem Exclusive.enter (exclusive : shared.Exclusive) (busy : shared.phase client ≠ .idle)
    {other : Shared Client} (holder : other.holder = shared.holder)
    (phases : other.phase = shared.phase) (phase : Phase) :
    (other.enter client phase).Exclusive := by
  intro client' active
  change other.holder = some client'
  rw [holder]
  by_cases same : client' = client
  · exact same ▸ exclusive busy
  · rw [phase_enter, Function.update_of_ne same, phases] at active
    exact exclusive active

omit [DecidableEq Client] in
/-- While one client has a unit of work no other has. -/
theorem Exclusive.idle_of_ne (exclusive : shared.Exclusive) (busy : shared.phase client ≠ .idle)
    {other : Client} (different : other ≠ client) : shared.phase other = .idle := by
  by_contra active
  exact different (Option.some.inj ((exclusive active).symm.trans (exclusive busy)))

theorem Stepped.exclusive {after : Shared Client} (stepped : Stepped moments shared client after)
    (exclusive : shared.Exclusive) : after.Exclusive := by
  cases stepped with
  | nothing => exact exclusive
  | lock idle free =>
      intro client' active
      by_cases same : client' = client
      · exact congrArg some same.symm
      · rw [phase_enter, Function.update_of_ne same] at active
        exact absurd (exclusive active) (by simp [free])
  | begin locked => exact exclusive.enter (by simp [locked]) rfl rfl _
  | refuse locked => exact exclusive.enter (by simp [locked]) rfl rfl _
  | ask request working => exact exclusive.enter (by simp [working]) rfl rfl _
  | commit working => exact exclusive.enter (by simp [working]) rfl rfl _
  | drop working => exact exclusive.enter (by simp [working]) rfl rfl _
  | unlock leaving =>
      intro client' active
      rw [phase_enter] at active
      by_cases same : client' = client
      · simp [same] at active
      · rw [Function.update_of_ne same] at active
        exact absurd (exclusive.idle_of_ne (by simp [leaving]) same) active

/-- A client that does not work on a copy leaves the units as they are. -/
theorem Serialized.enter (serialized : shared.Serialized moments initial)
    {other : Shared Client} (book : other.book = shared.book)
    (store : other.depot.store = shared.depot.store) (phases : other.phase = shared.phase)
    (client : Client) {phase : Phase} (resting : ∀ staged, phase ≠ .working staged) :
    (other.enter client phase).Serialized moments initial := by
  refine ⟨by simpa only [book_enter, depot_enter, book, store] using serialized.committed, ?_⟩
  intro client' staged working
  rw [phase_enter] at working
  by_cases same : client' = client
  · rw [same, Function.update_self] at working
    exact absurd working (resting staged)
  · rw [Function.update_of_ne same, phases] at working
    simpa only [book_enter, depot_enter, book, store] using serialized.underway working

/-- A client that works on a copy is the only one to do so. -/
theorem Exclusive.working_enter (exclusive : shared.Exclusive)
    (busy : shared.phase client ≠ .idle) {other : Shared Client}
    (phases : other.phase = shared.phase) {phase : Phase} {client' : Client} {staged : Staged}
    (working : (other.enter client phase).phase client' = .working staged) :
    client' = client ∧ phase = .working staged := by
  rw [phase_enter, phases] at working
  by_cases same : client' = client
  · rw [same, Function.update_self] at working
    exact ⟨same, working⟩
  · rw [Function.update_of_ne same, exclusive.idle_of_ne busy same] at working
    cases working

theorem Stepped.serialized {after : Shared Client} (stepped : Stepped moments shared client after)
    (exclusive : shared.Exclusive) (serialized : shared.Serialized moments initial) :
    after.Serialized moments initial := by
  cases stepped with
  | nothing => exact serialized
  | lock => exact serialized.enter (by rfl) (by rfl) (by rfl) client (by simp)
  | refuse locked refused =>
      have kept := Session.begin_eq_error refused
      exact serialized.enter (by rfl) (by rw [depot_withDepot, kept]) (by rfl) client (by simp)
  | drop => exact serialized.enter (by rw [book_note]; rfl) (by rfl) (by rfl) client (by simp)
  | unlock => exact serialized.enter (by rfl) (by rfl) (by rfl) client (by simp)
  | @begin staged depot locked begun =>
      obtain ⟨copied, kept⟩ := Session.begin_eq_ok begun
      refine ⟨?_, fun other staged' working => ?_⟩
      · rw [book_enter, book_note, depot_enter, depot_note, depot_withDepot, kept]
        exact serialized.committed
      · obtain ⟨rfl, same⟩ := exclusive.working_enter (by simp [locked]) rfl working
        obtain rfl := Phase.working.inj same
        simp only [book_enter, book_note, depot_enter, depot_note, depot_withDepot, Book.enter,
          Function.update_self, Transcript.script, List.map_nil, answerAll, kept, ← copied]
  | @ask staged request working =>
      refine ⟨?_, fun other staged' working' => ?_⟩
      · rw [book_enter, book_note, depot_enter, depot_note]
        exact serialized.committed
      · obtain ⟨rfl, same⟩ := exclusive.working_enter (by simp [working]) rfl working'
        obtain rfl := Phase.working.inj same
        have before := serialized.underway working
        simp only [Transcript.script] at before
        simp only [book_enter, book_note, depot_enter, depot_note, Book.enter, Function.update_self,
          Transcript.script, List.map_append, List.map_cons, List.map_nil,
          answerAll_append_singleton, before]
  | @commit staged working =>
      have own := serialized.underway working
      refine ⟨?_, fun other staged' working' => ?_⟩
      · have before := serialized.committed
        simp only [Transcript.script] at own before
        simp only [book_enter, book_note, book_withDepot, depot_enter, depot_note, depot_withDepot,
          Book.enter, List.map_append, List.map_cons, List.map_nil, runSerially_append_singleton,
          before, Transcript.script, own, Depot.commit]
      · obtain ⟨-, same⟩ := exclusive.working_enter (by simp [working]) rfl working'
        cases same

/-! ## Every interleaving -/

theorem run_serialized (moments : Nat → Moment) (steps : List (Client × Action))
    (exclusive : shared.Exclusive) (serialized : shared.Serialized moments initial) :
    (shared.run moments steps).Exclusive ∧
      (shared.run moments steps).Serialized moments initial := by
  induction steps generalizing shared with
  | nil => exact ⟨exclusive, serialized⟩
  | cons step rest ih =>
      have stepped := step_cases moments shared step.1 step.2
      exact ih (stepped.exclusive exclusive) (stepped.serialized exclusive serialized)

/-- In whatever order clients take their steps, at any time the committed tables and all answers
are those of the units that have been committed, run one after another and each as a whole, and no
two clients work at a time. -/
theorem units_serialize (moments : Nat → Moment) (depot : Depot)
    (steps : List (Client × Action)) :
    ((fresh depot).run moments steps).Exclusive ∧
      ((fresh depot).run moments steps).Serialized moments depot.store :=
  run_serialized moments steps (fun _ active => absurd rfl active)
    ⟨rfl, fun _ _ working => by cases working⟩

end Shared

end CardInventory.Memory
