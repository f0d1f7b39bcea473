import CardInventory.Proofs.Inventory.Attainable
import CardInventory.Proofs.Memory.Shared

/-!
# Concurrent calls

Any number of clients call operations of an inventory over one depot, each call in a
unit of work of its own. Their steps are those of clients that share a depot, in any
order; what a call asks is told by the rule of its operation. The calls come to what
they come to one after another, in the order in which they are decided, and what is
taken out of a binder was in it.
-/

namespace CardInventory.Inventory

open Memory Storage Ledger

/-- An operation, and what has come of it. -/
structure Made where
  operation : Operation
  outcome : Except Failure operation.Result

/-- An operation, and what remains of its rule. -/
structure Making where
  operation : Operation
  rest : Ledger operation.Result

/-- Perform operations one after another. -/
def performAll (moments : Nat → Moment) (defaultCapacity : Int) :
    List Operation → Depot → List Made × Depot
  | [], depot => ([], depot)
  | operation :: rest, depot =>
      let (outcome, between) := depot.perform moments defaultCapacity operation
      let (others, last) := performAll moments defaultCapacity rest between
      (⟨operation, outcome⟩ :: others, last)

/-- Clients that call operations over a shared depot: the calls that are being made, and those
that are decided, in this order. -/
structure Calls (Client : Type) where
  shared : Shared Client
  making : Client → Option Making
  made : List Made

namespace Calls

variable {Client : Type}

/-- No call has been made. -/
def fresh (depot : Depot) : Calls Client :=
  ⟨.fresh depot, fun _ => none, []⟩

/-- Record what has come of a call. -/
def decide (calls : Calls Client) (made : Made) : Calls Client :=
  { calls with made := calls.made ++ [made] }

variable [DecidableEq Client]

/-- Have a client take a step over the depot. -/
def act (moments : Nat → Moment) (calls : Calls Client) (client : Client) (action : Action) :
    Calls Client :=
  { calls with shared := calls.shared.step moments client action }

/-- Set what remains of the call of a client. -/
def proceed (calls : Calls Client) (client : Client) (making : Option Making) : Calls Client :=
  { calls with making := Function.update calls.making client making }

/-- The step of a client: the next one of its call or, if it makes none, the call of an operation.
Where the arguments of an operation are refused the call is decided at once. -/
def step (moments : Nat → Moment) (defaultCapacity : Int) (calls : Calls Client)
    (client : Client) (operation : Operation) : Calls Client :=
  match calls.making client, calls.shared.phase client with
  | none, _ =>
      match operation.rule defaultCapacity with
      | .error failure => calls.decide ⟨operation, .error failure⟩
      | .ok rule => calls.proceed client (some ⟨operation, rule⟩)
  | some _, .idle => calls.act moments client .lock
  | some making, .locked =>
      match calls.shared.depot.begin with
      | (.ok _, _) => calls.act moments client .begin
      | (.error fault, _) =>
          (calls.act moments client .begin).decide ⟨making.operation, .error (.storage fault)⟩
  | some ⟨operation, Procedure.ask request next⟩, .working staged =>
      let after := calls.act moments client (.ask request)
      match (answerNext moments request staged).1 with
      | .ok reply => after.proceed client (some ⟨operation, next reply⟩)
      | .error fault => after.proceed client (some ⟨operation, .fail (.storage fault)⟩)
  | some ⟨operation, Procedure.done value⟩, .working _ =>
      (calls.act moments client (if operation.mutates then .commit else .drop)).decide
        ⟨operation, .ok value⟩
  | some ⟨operation, Procedure.fail failure⟩, .working _ =>
      (calls.act moments client .drop).decide ⟨operation, .error failure⟩
  | some _, .leaving => (calls.act moments client .unlock).proceed client none

/-- What comes of the steps of clients in some order, with the operations they call when they
have no call to go on with. -/
def run (moments : Nat → Moment) (defaultCapacity : Int) (calls : Calls Client)
    (schedule : List (Client × Operation)) : Calls Client :=
  schedule.foldl (fun calls turn => calls.step moments defaultCapacity turn.1 turn.2) calls

end Calls

variable {moments : Nat → Moment} {defaultCapacity : Int} {depot : Depot}

theorem performAll_append (operations others : List Operation) (depot : Depot) :
    performAll moments defaultCapacity (operations ++ others) depot =
      let (made, between) := performAll moments defaultCapacity operations depot
      let (more, last) := performAll moments defaultCapacity others between
      (made ++ more, last) := by
  induction operations generalizing depot with
  | nil => rfl
  | cons first rest ih => simp only [List.cons_append, performAll, ih]

theorem length_performAll (operations : List Operation) (depot : Depot) :
    (performAll moments defaultCapacity operations depot).1.length = operations.length := by
  induction operations generalizing depot with
  | nil => rfl
  | cons first rest ih => simp only [performAll, List.length_cons, ih]

/-- Each of the operations that are performed comes to what it comes to after those before it. -/
theorem perform_of_performAll {before rest : List Made} {made : Made} {last : Depot}
    (performed : performAll moments defaultCapacity
      ((before ++ made :: rest).map Made.operation) depot = (before ++ made :: rest, last)) :
    ((performAll moments defaultCapacity (before.map Made.operation) depot).2.perform moments
      defaultCapacity made.operation).1 = made.outcome := by
  simp only [List.map_append, List.map_cons, performAll_append, performAll, Prod.mk.injEq]
    at performed
  obtain ⟨-, same⟩ :=
    List.append_inj performed.1 (by rw [length_performAll, List.length_map])
  obtain ⟨operation, outcome⟩ := made
  simpa using (List.cons_eq_cons.mp same).1

theorem performAll_valid (moments : Nat → Moment) (defaultCapacity : Int)
    (valid : depot.store.Valid) (operations : List Operation) :
    (performAll moments defaultCapacity operations depot).2.store.Valid := by
  induction operations generalizing depot with
  | nil => exact valid
  | cons operation rest ih => exact ih (perform_valid valid operation)

theorem Attainable.performAll (attainable : Attainable moments defaultCapacity depot)
    (operations : List Operation) :
    Attainable moments defaultCapacity (performAll moments defaultCapacity operations depot).2 := by
  induction operations generalizing depot with
  | nil => exact attainable
  | cons operation rest ih => exact ih (.perform attainable operation)

/-! ## Calls one after another -/

/-- How a call stands with its unit of work: before the unit has begun nothing of its rule is
done, and what remains while it is under way comes to what the whole rule comes to. -/
def Stands (moments : Nat → Moment) (defaultCapacity : Int) (depot : Depot) :
    Phase → Option Making → Prop
  | .idle, none => True
  | .idle, some making => making.operation.rule defaultCapacity = .ok making.rest
  | .locked, some making => making.operation.rule defaultCapacity = .ok making.rest
  | .working staged, some making =>
      depot.refusal = none ∧
        ∃ rule, making.operation.rule defaultCapacity = .ok rule ∧
          rule.run (answerNext moments) .storage ⟨depot.store, depot.drawn⟩ =
            making.rest.run (answerNext moments) .storage staged
  | .leaving, some _ => True
  | _, none => False

/-- Calls that are decided come to what they come to one after another, and those that are being
made stand with their units. -/
structure Linear [DecidableEq Client] (moments : Nat → Moment) (defaultCapacity : Int)
    (depot : Depot) (calls : Calls Client) : Prop where
  exclusive : calls.shared.Exclusive
  serial : performAll moments defaultCapacity (calls.made.map Made.operation) depot =
    (calls.made, calls.shared.depot)
  stands : ∀ client, Stands moments defaultCapacity calls.shared.depot (calls.shared.phase client)
    (calls.making client)

section Step

variable {Client : Type} [DecidableEq Client] {calls : Calls Client} {client : Client}

/-- A call that is decided is one more that was performed. -/
theorem serial_decide {start after : Depot} {decided : List Made}
    (serial : performAll moments defaultCapacity (decided.map Made.operation) start =
      (decided, depot)) {made : Made}
    (performed : depot.perform moments defaultCapacity made.operation = (made.outcome, after)) :
    performAll moments defaultCapacity ((decided ++ [made]).map Made.operation) start =
      (decided ++ [made], after) := by
  simp only [List.map_append, List.map_cons, List.map_nil, performAll_append, performAll, serial,
    performed]

/-- Only the client that takes a step stands differently after it. -/
theorem Linear.after (linear : Linear moments defaultCapacity depot calls) {after : Calls Client}
    (action : Action)
    (shared : after.shared = calls.shared.step moments client action)
    (makings : ∀ other, other ≠ client → after.making other = calls.making other)
    (kept : after.shared.depot = calls.shared.depot ∨ calls.shared.phase client ≠ .idle)
    (serial : performAll moments defaultCapacity (after.made.map Made.operation) depot =
      (after.made, after.shared.depot))
    (own : Stands moments defaultCapacity after.shared.depot (after.shared.phase client)
      (after.making client)) :
    Linear moments defaultCapacity depot after := by
  have stepped := Shared.step_cases moments calls.shared client action
  refine ⟨shared ▸ stepped.exclusive linear.exclusive, serial, fun other => ?_⟩
  by_cases same : other = client
  · exact same ▸ own
  · have stands := linear.stands other
    rw [makings other same, shared, stepped.phase_of_ne same, ← shared]
    rcases kept with kept | busy
    · exact kept ▸ stands
    · rw [linear.exclusive.idle_of_ne busy same] at stands ⊢
      cases making : calls.making other with
      | none => trivial
      | some _ => simpa only [making, Stands] using stands

/-- A client that makes no call is outside of a unit of work. -/
theorem Linear.idle (linear : Linear moments defaultCapacity depot calls)
    (resting : calls.making client = none) : calls.shared.phase client = .idle := by
  have stands := linear.stands client
  rw [resting] at stands
  cases phase : calls.shared.phase client with
  | idle => rfl
  | _ => simp [phase, Stands] at stands

/-- While a call is made it leaves the depot, and what remains of it is as good as the whole. -/
theorem Linear.proceed (linear : Linear moments defaultCapacity depot calls)
    (action : Action) (making : Option Making)
    (kept : (calls.shared.step moments client action).depot = calls.shared.depot)
    (own : Stands moments defaultCapacity calls.shared.depot
      ((calls.shared.step moments client action).phase client) making) :
    Linear moments defaultCapacity depot
      ((calls.act moments client action).proceed client making) := by
  refine linear.after action rfl (fun other different => ?_) (.inl kept) ?_ ?_
  · exact Function.update_of_ne different _ _
  · simpa only [Calls.proceed, Calls.act, kept] using linear.serial
  · simpa only [Calls.proceed, Calls.act, kept, Function.update_self] using own

/-- The same of a step that leaves nothing to be set. -/
theorem Linear.act (linear : Linear moments defaultCapacity depot calls) (action : Action)
    (kept : (calls.shared.step moments client action).depot = calls.shared.depot)
    (own : Stands moments defaultCapacity calls.shared.depot
      ((calls.shared.step moments client action).phase client) (calls.making client)) :
    Linear moments defaultCapacity depot (calls.act moments client action) := by
  simpa only [Calls.proceed, Calls.act, Function.update_eq_self] using
    linear.proceed action (calls.making client) kept own

/-- A call is decided by the step with which its client leaves the unit of work. -/
theorem Linear.decide (linear : Linear moments defaultCapacity depot calls) {making : Making}
    {action : Action} {outcome : Except Failure making.operation.Result}
    (call : calls.making client = some making) (busy : calls.shared.phase client ≠ .idle)
    (leaves : (calls.shared.step moments client action).phase client = .leaving)
    (performed : calls.shared.depot.perform moments defaultCapacity making.operation =
      (outcome, (calls.shared.step moments client action).depot)) :
    Linear moments defaultCapacity depot
      ((calls.act moments client action).decide ⟨making.operation, outcome⟩) := by
  refine linear.after action rfl (fun _ _ => rfl) (.inr busy) ?_ ?_
  · exact serial_decide linear.serial performed
  · simp only [Calls.decide, Calls.act, leaves, call, Stands]

/-- A call starts outside of a unit of work, and is decided at once where its arguments are
refused. -/
theorem Linear.call (linear : Linear moments defaultCapacity depot calls)
    (resting : calls.making client = none) (operation : Operation) :
    Linear moments defaultCapacity depot
      (match operation.rule defaultCapacity with
      | .error failure => calls.decide ⟨operation, .error failure⟩
      | .ok rule => calls.proceed client (some ⟨operation, rule⟩)) := by
  have idle := linear.idle resting
  -- There is nothing to unlock.
  have same : calls.shared.step moments client .unlock = calls.shared := by
    simp only [Shared.step, idle]
  split
  · rename_i failure refused
    refine linear.after .unlock same.symm (fun _ _ => rfl) (.inl rfl)
      (serial_decide linear.serial ?_) (linear.stands client)
    simp only [Depot.perform, refused, Calls.decide]
  · rename_i rule accepted
    have proceeds := linear.proceed .unlock (some ⟨operation, rule⟩)
      (by rw [same]) (by simpa only [same, idle, Stands] using accepted)
    simpa only [Calls.act, same] using proceeds

theorem Linear.lock (linear : Linear moments defaultCapacity depot calls) {making : Making}
    (call : calls.making client = some making) (idle : calls.shared.phase client = .idle) :
    Linear moments defaultCapacity depot (calls.act moments client .lock) := by
  have stands := linear.stands client
  rw [call, idle] at stands
  cases holder : calls.shared.holder with
  | some other =>
      have same := Shared.step_lock_held moments idle holder
      exact linear.act .lock (by rw [same]) (by rw [same]; exact linear.stands client)
  | none =>
      have locks := Shared.step_lock_free moments idle holder
      refine linear.act .lock (by rw [locks]; rfl) ?_
      simpa only [locks, call, Shared.phase_enter, Function.update_self, Stands] using stands

theorem Linear.begin (linear : Linear moments defaultCapacity depot calls) {making : Making}
    (call : calls.making client = some making) (locked : calls.shared.phase client = .locked) :
    Linear moments defaultCapacity depot
      (match calls.shared.depot.begin with
      | (.ok _, _) => calls.act moments client .begin
      | (.error fault, _) =>
          (calls.act moments client .begin).decide
            ⟨making.operation, .error (.storage fault)⟩) := by
  have stands := linear.stands client
  rw [call, locked] at stands
  have accepted : making.operation.rule defaultCapacity = .ok making.rest := stands
  split
  · rename_i staged after begun
    have begins := Shared.step_begin moments locked begun
    obtain ⟨free, rfl, rfl⟩ := Session.begin_eq_ok_iff.mp begun
    refine linear.act .begin (by rw [begins]; rfl) ?_
    simp only [begins, call, Shared.phase_enter, Function.update_self]
    exact ⟨free, making.rest, accepted, rfl⟩
  · rename_i fault after refused
    have begins := Shared.step_begin_refused moments locked refused
    apply linear.decide call (by simp [locked])
    · simp only [begins, Shared.phase_enter, Function.update_self]
    · simp only [Depot.perform, Depot.runUnit, accepted, refused, begins, Shared.depot_enter,
        Shared.depot_withDepot]

/-- What remains of a rule after a request is what the answer leads to. -/
theorem Linear.ask (linear : Linear moments defaultCapacity depot calls) {operation : Operation}
    {request : Request} {next : request.Reply → Ledger operation.Result} {staged : Staged}
    (call : calls.making client = some ⟨operation, Procedure.ask request next⟩)
    (working : calls.shared.phase client = .working staged) :
    Linear moments defaultCapacity depot
      (match (answerNext moments request staged).1 with
      | .ok reply =>
          (calls.act moments client (.ask request)).proceed client (some ⟨operation, next reply⟩)
      | .error fault =>
          (calls.act moments client (.ask request)).proceed client
            (some ⟨operation, .fail (.storage fault)⟩)) := by
  have stands := linear.stands client
  rw [call, working] at stands
  obtain ⟨free, rule, accepted, ran⟩ := stands
  have asks := Shared.step_ask moments request working
  rw [Procedure.run] at ran
  rcases answered : answerNext moments request staged with ⟨fault | reply, after⟩
  · rw [answered] at asks ran
    refine linear.proceed (.ask request) _ (by rw [asks]; rfl) ?_
    simp only [asks, Shared.phase_enter, Function.update_self]
    exact ⟨free, rule, accepted, ran⟩
  · rw [answered] at asks ran
    refine linear.proceed (.ask request) _ (by rw [asks]; rfl) ?_
    simp only [asks, Shared.phase_enter, Function.update_self]
    exact ⟨free, rule, accepted, ran⟩

/-- A unit of work is committed where its rule is done and its operation changes something. -/
theorem Linear.leave (linear : Linear moments defaultCapacity depot calls) {making : Making}
    {staged : Staged} (outcome : Except Failure making.operation.Result) (commits : Bool)
    (call : calls.making client = some making)
    (working : calls.shared.phase client = .working staged)
    (exhausted : making.rest.run (answerNext moments) .storage staged = (outcome, staged))
    (ends : commits = (outcome.isOk && making.operation.mutates)) :
    Linear moments defaultCapacity depot
      ((calls.act moments client (if commits then .commit else .drop)).decide
        ⟨making.operation, outcome⟩) := by
  have stands := linear.stands client
  rw [call, working] at stands
  obtain ⟨free, rule, accepted, ran⟩ := stands
  obtain ⟨leaves, left⟩ := Shared.step_end moments commits working
  refine linear.decide call (by simp [working]) leaves ?_
  rw [Depot.perform_eq_run free, task_of_ok accepted, ran, exhausted, left, ends]
  cases outcome <;> simp [Except.isOk, Except.toBool]

theorem step_linear (linear : Linear moments defaultCapacity depot calls) (client : Client)
    (operation : Operation) :
    Linear moments defaultCapacity depot (calls.step moments defaultCapacity client operation) := by
  unfold Calls.step
  split
  · rename_i _ _ resting
    exact linear.call resting operation
  · rename_i _ call idle
    exact linear.lock call idle
  · rename_i _ call locked
    exact linear.begin call locked
  · rename_i call working
    exact linear.ask call working
  · rename_i value _ call working
    exact linear.leave (.ok value) _ call working rfl rfl
  · rename_i failure _ call working
    exact linear.leave (.error failure) false call working rfl rfl
  · rename_i _ call leaving
    have unlocks := Shared.step_unlock moments leaving
    refine linear.proceed .unlock none (by rw [unlocks]; rfl) ?_
    simp only [unlocks, Shared.phase_enter, Function.update_self, Stands]

theorem run_linear (linear : Linear moments defaultCapacity depot calls)
    (schedule : List (Client × Operation)) :
    Linear moments defaultCapacity depot (calls.run moments defaultCapacity schedule) := by
  induction schedule generalizing calls with
  | nil => exact linear
  | cons turn rest ih => exact ih (step_linear linear turn.1 turn.2)

theorem fresh_linear (depot : Depot) :
    Linear moments defaultCapacity depot (.fresh depot : Calls Client) where
  exclusive _ active := absurd rfl active
  serial := rfl
  stands _ := trivial

/-- A call takes steps that any client of the depot may take. -/
theorem step_shared (moments : Nat → Moment) (defaultCapacity : Int) (calls : Calls Client)
    (client : Client) (operation : Operation) :
    ∃ steps, (calls.step moments defaultCapacity client operation).shared =
      calls.shared.run moments steps := by
  unfold Calls.step
  split
  · exact ⟨[], by split <;> rfl⟩
  · exact ⟨[(client, .lock)], rfl⟩
  · exact ⟨[(client, .begin)], by split <;> rfl⟩
  · rename_i request _ _ _ _
    exact ⟨[(client, .ask request)], by dsimp only; split <;> rfl⟩
  · exact ⟨[(client, _)], rfl⟩
  · exact ⟨[(client, .drop)], rfl⟩
  · exact ⟨[(client, .unlock)], rfl⟩

theorem run_shared (calls : Calls Client) (schedule : List (Client × Operation)) :
    ∃ steps, (calls.run moments defaultCapacity schedule).shared =
      calls.shared.run moments steps := by
  induction schedule generalizing calls with
  | nil => exact ⟨[], rfl⟩
  | cons turn rest ih =>
      obtain ⟨first, stepped⟩ :=
        step_shared moments defaultCapacity calls turn.1 turn.2
      obtain ⟨others, ran⟩ := ih (calls.step moments defaultCapacity turn.1 turn.2)
      refine ⟨first ++ others, ran.trans ?_⟩
      rw [stepped, Shared.run, Shared.run, Shared.run, List.foldl_append]

end Step

/-! ## What is taken out of binders -/

/-- What an operation takes out of a binder when it succeeds: of which row, and how many copies. -/
def taking (store : Store) : Operation → Option (BinderKey × Int)
  | .debitBinder user card quantity => some (⟨user, card⟩, quantity)
  | .allocate deck card quantity _ =>
      (store.decks.get? deck).map fun row => (⟨row.owner, card⟩, quantity)
  | _ => none

/-- What is taken out of a row of a binder was in it, and the row has so much less afterwards. -/
theorem taking_covered {after : Depot} (valid : depot.store.Valid) {operation : Operation}
    {result : operation.Result}
    (performed : depot.perform moments defaultCapacity operation = (.ok result, after))
    {key : BinderKey} {quantity : Int}
    (takes : taking depot.store operation = some (key, quantity)) :
    quantity ≤ depot.store.held key.user key.card ∧
      after.store.held key.user key.card = depot.store.held key.user key.card - quantity := by
  obtain ⟨staged, ran, same⟩ := Depot.perform_eq_ok performed
  cases operation with
  | debitBinder user card quantity =>
      obtain ⟨rfl, rfl⟩ := Prod.mk.inj (Option.some.inj takes)
      obtain ⟨accepted, time, left⟩ := (debit_ends valid user card quantity).ok ran
      obtain ⟨-, enough⟩ := Store.debitRefusal_eq_none_iff.mp accepted
      simp only [Operation.mutates, if_true, left] at same
      rw [same, Store.held_hold, if_pos ⟨rfl, rfl⟩]
      exact ⟨enough, rfl⟩
  | allocate deck card quantity zone =>
      obtain ⟨-, -, row, debited, added, found, enough, left⟩ :=
        (allocate_ends valid deck card quantity zone).ok ran
      obtain ⟨rfl, rfl⟩ : (⟨row.owner, card⟩ : BinderKey) = key ∧ quantity = _ := by
        simpa [taking, found] using takes
      simp only [Operation.mutates, if_true, left] at same
      rw [same, Store.allocated, Store.held_place, Store.held_hold, if_pos ⟨rfl, rfl⟩]
      exact ⟨enough, rfl⟩
  | _ => cases takes

/-- However clients take turns over one depot, their units of work are as good as run one after
another, in the order of their commits and each as a whole. Calls of operations come to what they
come to one after another, so that no change of theirs is lost, and whatever one of them takes out
of a row of a binder was in it by then. -/
theorem concurrent_calls_serialize {Client : Type} [DecidableEq Client] (moments : Nat → Moment)
    (defaultCapacity : Int) (depot : Depot) (valid : depot.store.Valid) :
    (∀ steps : List (Client × Action),
      ((Shared.fresh depot).run moments steps).Exclusive ∧
        ((Shared.fresh depot).run moments steps).Serialized moments depot.store) ∧
      ∀ schedule : List (Client × Operation),
        let calls := (Calls.fresh depot).run moments defaultCapacity schedule
        (∃ steps, calls.shared = (Shared.fresh depot).run moments steps) ∧
          performAll moments defaultCapacity (calls.made.map Made.operation) depot =
            (calls.made, calls.shared.depot) ∧
          calls.shared.depot.store.Valid ∧
          ∀ before made rest result, calls.made = before ++ made :: rest →
            made.outcome = .ok result →
              let found := (performAll moments defaultCapacity (before.map Made.operation) depot).2
              let left := (found.perform moments defaultCapacity made.operation).2
              ∀ key quantity, taking found.store made.operation = some (key, quantity) →
                quantity ≤ found.store.held key.user key.card ∧
                  left.store.held key.user key.card =
                    found.store.held key.user key.card - quantity := by
  refine ⟨fun steps => Shared.units_serialize moments depot steps, fun schedule => ?_⟩
  intro calls
  have linear : Linear moments defaultCapacity depot calls :=
    run_linear (fresh_linear depot) schedule
  have serial := linear.serial
  refine ⟨run_shared _ schedule, serial, ?_, ?_⟩
  · have kept := performAll_valid moments defaultCapacity valid (calls.made.map Made.operation)
    rwa [serial] at kept
  · intro before made rest result split succeeded found left key quantity takes
    have performed : (found.perform moments defaultCapacity made.operation).1 = .ok result := by
      rw [← succeeded]
      exact perform_of_performAll (split ▸ serial)
    exact taking_covered (performAll_valid moments defaultCapacity valid _)
      (Prod.ext performed rfl) takes

/-- Two clients who take turns in allocating three of four copies each: one call is in time, and
the other is refused. -/
theorem racing_allocations_serialize :
    let moments : Nat → Moment := fun n => ⟨⟨n, 0⟩, .ofNat n⟩
    let user : Uuid := .ofNat 0
    let card : Uuid := .ofNat 7
    let operations : List Operation :=
      [.createUser ⟨"ada", none⟩, .registerCard ⟨card, "Bolt", none, none, none, none, [default]⟩,
        .createDeck ⟨user, "A", "modern", none, false, none⟩,
        .createDeck ⟨user, "B", "modern", none, false, none⟩, .creditBinder user card 4]
    let depot := (performAll moments 60 operations .empty).2
    let turns : List (Bool × Operation) := (List.range 44).map fun n =>
      if n % 2 = 0 then (true, .allocate (.ofNat 3) card 3 .main)
      else (false, .allocate (.ofNat 5) card 3 .main)
    let calls := (Calls.fresh depot).run moments 60 turns
    depot.store.Valid ∧ calls.made.map (fun made => made.outcome.isOk) = [true, false] ∧
      calls.shared.depot.store.held user card = 1 ∧
      performAll moments 60 (calls.made.map Made.operation) depot =
        (calls.made, calls.shared.depot) := by
  intro moments user card operations depot turns calls
  have valid : depot.store.Valid := performAll_valid moments 60 Store.valid_empty operations
  have raced : calls.made.map (fun made => made.outcome.isOk) = [true, false] := by
    decide +kernel
  have left : calls.shared.depot.store.held user card = 1 := by decide +kernel
  clear_value depot turns
  exact ⟨valid, raced, left, ((concurrent_calls_serialize moments 60 depot valid).2 turns).2.1⟩

end CardInventory.Inventory
