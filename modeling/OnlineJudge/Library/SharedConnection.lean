import Mathlib.Logic.Function.Basic
import OnlineJudge.Library.TransitionSystem

/-!
# Threads on one database connection

All threads of a server share one connection. A statement is atomic, but nothing
else is: a statement issued by any thread while a transaction is open on the
connection becomes part of that transaction, whoever opened it, and shares its
fate. Threads that want a transaction of their own serialise on a mutex; the
connection itself does not know about the mutex, and a thread that does not take
it is not held back.

A thread runs a `Program`: a tree of connection calls, each continued by a
function of its answer. Any call that can fail may fail at any point: the label
of a step says whether it does. A failing statement has no effect and leaves an
open transaction open: a database that rolls back by itself, as SQLite may do when
the disk is full, on an I/O error or out of memory, is not covered, nor is a
statement outside a transaction whose commit fails only after it has answered. A
crash loses the open transaction and every thread that had not finished.
-/

namespace OnlineJudge.Library

/-- What a thread does with the connection and the mutex. A statement answers `none` on failure. -/
inductive Program {Stmt : Type} (Reply : Stmt → Type) (Event : Type) where
  | done
  | lock (next : Program Reply Event)
  | unlock (next : Program Reply Event)
  | begin (next : Bool → Program Reply Event)
  | commit (next : Bool → Program Reply Event)
  | rollback (next : Program Reply Event)
  | exec (stmt : Stmt) (next : Option (Reply stmt) → Program Reply Event)
  | emit (event : Event) (next : Program Reply Event)

namespace SharedConnection

abbrev ThreadId := ℕ

/-- A server: how its database executes a statement (`none` when a constraint refuses it), and
what a thread does that serves a call. -/
structure Service (Db : Type) {Stmt : Type} (Reply : Stmt → Type) (Event Call : Type) where
  execute : (stmt : Stmt) → Db → Option (Reply stmt × Db)
  body : ThreadId → Call → Program Reply Event

/-- A thread; `program` is `none` once a crash has ended it. -/
structure Thread {Stmt : Type} (Reply : Stmt → Type) (Event Call : Type) where
  call : Call
  program : Option (Program Reply Event)
  events : List Event
  /-- The index in the history of the contents that were committed when the thread started. -/
  startedAt : ℕ

/-- An open transaction: who opened it, the contents its statements see, and the statements of
other threads that have become part of it, with their answers. -/
structure Transaction (Db : Type) {Stmt : Type} (Reply : Stmt → Type) where
  owner : ThreadId
  work : Db
  joined : List (Σ stmt, Reply stmt)

structure State (Db : Type) {Stmt : Type} (Reply : Stmt → Type) (Event Call : Type) where
  committed : Db
  /-- Every committed contents there has been, oldest first. -/
  history : List Db
  transaction : Option (Transaction Db Reply)
  mutex : Option ThreadId
  threads : ThreadId → Option (Thread Reply Event Call)
  nextThread : ThreadId

inductive Label (Call : Type) where
  | start (call : Call)
  | run (id : ThreadId) (ok : Bool)
  | crash

variable {Db Stmt : Type} {Reply : Stmt → Type} {Event Call : Type}

namespace State

def initial (db : Db) : State Db Reply Event Call where
  committed := db
  history := [db]
  transaction := none
  mutex := none
  threads := fun _ => none
  nextThread := 0

/-- What a statement sees, whichever thread issues it. -/
def view (state : State Db Reply Event Call) : Db :=
  match state.transaction with
  | some transaction => transaction.work
  | none => state.committed

/-- The effect of a statement of thread `id` that is answered and leaves the contents `after`. -/
def store (state : State Db Reply Event Call) (id : ThreadId) (answered : Σ stmt, Reply stmt)
    (after : Db) : State Db Reply Event Call :=
  match state.transaction with
  | some transaction =>
      { state with
        transaction := some
          { transaction with
            work := after
            joined := if transaction.owner = id then transaction.joined
              else transaction.joined ++ [answered] } }
  | none => { state with committed := after, history := state.history ++ [after] }

def advance (state : State Db Reply Event Call) (id : ThreadId)
    (thread : Thread Reply Event Call) (next : Program Reply Event) :
    State Db Reply Event Call :=
  { state with
    threads := Function.update state.threads id (some { thread with program := some next }) }

section Lemmas

variable (state : State Db Reply Event Call) {id other : ThreadId}
  (thread : Thread Reply Event Call) (next : Program Reply Event)

theorem advance_self :
    (state.advance id thread next).threads id = some { thread with program := some next } :=
  Function.update_self ..

theorem advance_of_ne (differs : other ≠ id) :
    (state.advance id thread next).threads other = state.threads other :=
  Function.update_of_ne differs ..

theorem view_advance : (state.advance id thread next).view = state.view := rfl

theorem store_threads (id : ThreadId) (answered : Σ stmt, Reply stmt) (after : Db) :
    (state.store id answered after).threads = state.threads ∧
      (state.store id answered after).nextThread = state.nextThread := by
  unfold store
  split <;> exact ⟨rfl, rfl⟩

theorem view_store (id : ThreadId) (answered : Σ stmt, Reply stmt) (after : Db) :
    (state.store id answered after).view = after := by
  unfold store
  cases state.transaction <;> simp [view]

end Lemmas

/-- A crash ends every thread that has not finished; what the finished ones did stays. -/
def crashed (state : State Db Reply Event Call) : State Db Reply Event Call :=
  { state with
    transaction := none
    mutex := none
    threads := fun id => (state.threads id).map fun thread =>
      match thread.program with
      | some .done => thread
      | _ => { thread with program := none } }

end State

namespace Service

variable (service : Service Db Reply Event Call)

/-- A new thread that serves `call`. -/
def spawn (state : State Db Reply Event Call) (call : Call) : State Db Reply Event Call :=
  { state with
    threads := Function.update state.threads state.nextThread
      (some
        { call := call
          program := some (service.body state.nextThread call)
          events := []
          startedAt := state.history.length - 1 })
    nextThread := state.nextThread + 1 }

theorem spawn_new (state : State Db Reply Event Call) (call : Call) :
    (service.spawn state call).threads state.nextThread =
      some
        { call := call
          program := some (service.body state.nextThread call)
          events := []
          startedAt := state.history.length - 1 } :=
  Function.update_self ..

theorem spawn_of_ne (state : State Db Reply Event Call) (call : Call) {id : ThreadId}
    (differs : id ≠ state.nextThread) :
    (service.spawn state call).threads id = state.threads id :=
  Function.update_of_ne differs ..

/-- The next connection call of a thread. -/
def stepThread (state : State Db Reply Event Call) (id : ThreadId)
    (thread : Thread Reply Event Call) (ok : Bool) :
    Program Reply Event → Option (State Db Reply Event Call)
  | .done => none
  | .lock next =>
      if state.mutex = none then
        some (State.advance { state with mutex := some id } id thread next)
      else none
  | .unlock next =>
      if state.mutex = some id then
        some (State.advance { state with mutex := none } id thread next)
      else none
  | .begin next =>
      match ok, state.transaction with
      | true, none =>
          some (State.advance
            { state with
              transaction := some { owner := id, work := state.committed, joined := [] } }
            id thread (next true))
      | _, _ => some (state.advance id thread (next false))
  | .commit next =>
      match ok, state.transaction with
      | true, some transaction =>
          some (State.advance
            { state with
              committed := transaction.work
              history := state.history ++ [transaction.work]
              transaction := none }
            id thread (next true))
      | _, _ => some (state.advance id thread (next false))
  | .rollback next => some (State.advance { state with transaction := none } id thread next)
  | .exec stmt next =>
      match ok, service.execute stmt state.view with
      | true, some (reply, after) =>
          some ((state.store id ⟨stmt, reply⟩ after).advance id thread (next (some reply)))
      | _, _ => some (state.advance id thread (next none))
  | .emit event next =>
      some (state.advance id { thread with events := thread.events ++ [event] } next)

def step (state : State Db Reply Event Call) : Label Call → Option (State Db Reply Event Call)
  | .start call => some (service.spawn state call)
  | .run id ok =>
      (state.threads id).bind fun thread =>
        thread.program.bind fun program => service.stepThread state id thread ok program
  | .crash => some state.crashed

def system : TransitionSystem (State Db Reply Event Call) (Label Call) where
  step := service.step

/-- What thread `id`, which stands at a given program, can do next. -/
inductive Advances (state : State Db Reply Event Call) (id : ThreadId)
    (thread : Thread Reply Event Call) :
    Program Reply Event → State Db Reply Event Call → Prop where
  | locks (next : Program Reply Event) (free : state.mutex = none) :
      Advances state id thread (.lock next)
        (State.advance { state with mutex := some id } id thread next)
  | unlocks (next : Program Reply Event) (holds : state.mutex = some id) :
      Advances state id thread (.unlock next)
        (State.advance { state with mutex := none } id thread next)
  | begins (next : Bool → Program Reply Event) (free : state.transaction = none) :
      Advances state id thread (.begin next)
        (State.advance
          { state with
            transaction := some { owner := id, work := state.committed, joined := [] } }
          id thread (next true))
  | beginFails (next : Bool → Program Reply Event) :
      Advances state id thread (.begin next) (state.advance id thread (next false))
  | commits (next : Bool → Program Reply Event) (transaction : Transaction Db Reply)
      (is_open : state.transaction = some transaction) :
      Advances state id thread (.commit next)
        (State.advance
          { state with
            committed := transaction.work
            history := state.history ++ [transaction.work]
            transaction := none }
          id thread (next true))
  | commitFails (next : Bool → Program Reply Event) :
      Advances state id thread (.commit next) (state.advance id thread (next false))
  | rollsBack (next : Program Reply Event) :
      Advances state id thread (.rollback next)
        (State.advance { state with transaction := none } id thread next)
  | executes (stmt : Stmt) (next : Option (Reply stmt) → Program Reply Event)
      (reply : Reply stmt) (after : Db)
      (executed : service.execute stmt state.view = some (reply, after)) :
      Advances state id thread (.exec stmt next)
        ((state.store id ⟨stmt, reply⟩ after).advance id thread (next (some reply)))
  | execFails (stmt : Stmt) (next : Option (Reply stmt) → Program Reply Event) :
      Advances state id thread (.exec stmt next) (state.advance id thread (next none))
  | emits (event : Event) (next : Program Reply Event) :
      Advances state id thread (.emit event next)
        (state.advance id { thread with events := thread.events ++ [event] } next)

variable {service}

theorem Advances.of_stepThread {state next : State Db Reply Event Call} {id : ThreadId}
    {thread : Thread Reply Event Call} {ok : Bool} {program : Program Reply Event}
    (step : service.stepThread state id thread ok program = some next) :
    service.Advances state id thread program next := by
  cases program with
  | done => simp [stepThread] at step
  | lock rest =>
      simp only [stepThread, Option.ite_none_right_eq_some, Option.some.injEq] at step
      rcases step with ⟨free, rfl⟩
      exact .locks rest free
  | unlock rest =>
      simp only [stepThread, Option.ite_none_right_eq_some, Option.some.injEq] at step
      rcases step with ⟨holds, rfl⟩
      exact .unlocks rest holds
  | begin rest =>
      simp only [stepThread] at step
      split at step
      case h_1 free =>
        rcases Option.some.inj step with rfl
        exact .begins rest free
      case h_2 =>
        rcases Option.some.inj step with rfl
        exact .beginFails rest
  | commit rest =>
      simp only [stepThread] at step
      split at step
      case h_1 transaction is_open =>
        rcases Option.some.inj step with rfl
        exact .commits rest transaction is_open
      case h_2 =>
        rcases Option.some.inj step with rfl
        exact .commitFails rest
  | rollback rest =>
      rcases Option.some.inj step with rfl
      exact .rollsBack rest
  | exec stmt rest =>
      simp only [stepThread] at step
      split at step
      case h_1 reply after executed =>
        rcases Option.some.inj step with rfl
        exact .executes stmt rest reply after executed
      case h_2 =>
        rcases Option.some.inj step with rfl
        exact .execFails stmt rest
  | emit event rest =>
      rcases Option.some.inj step with rfl
      exact .emits event rest

/-- A step of a thread changes no other thread and starts none. -/
theorem Advances.threads_eq {state next : State Db Reply Event Call} {id : ThreadId}
    {thread : Thread Reply Event Call} {program : Program Reply Event}
    (advances : service.Advances state id thread program next) :
    next.nextThread = state.nextThread ∧
      ∃ later, next.threads = Function.update state.threads id (some later) := by
  cases advances with
  | executes stmt rest reply after executed =>
      rcases state.store_threads id ⟨stmt, reply⟩ after with ⟨threads, counter⟩
      exact ⟨counter, _, by rw [State.advance, threads]⟩
  | _ => exact ⟨rfl, _, rfl⟩

/-- A step of the system starts a thread, advances one, or is a crash. -/
inductive Transition (state : State Db Reply Event Call) :
    Label Call → State Db Reply Event Call → Prop where
  | starts (call : Call) : Transition state (.start call) (service.spawn state call)
  | runs (id : ThreadId) (ok : Bool) (thread : Thread Reply Event Call)
      (program : Program Reply Event) (next : State Db Reply Event Call)
      (born : state.threads id = some thread) (alive : thread.program = some program)
      (advances : service.Advances state id thread program next) :
      Transition state (.run id ok) next
  | crashes : Transition state .crash state.crashed

theorem Transition.of_step {state next : State Db Reply Event Call} {label : Label Call}
    (step : service.system.step state label = some next) :
    @Transition Db Stmt Reply Event Call service state label next := by
  cases label with
  | start call =>
      rcases Option.some.inj step with rfl
      exact .starts call
  | run id ok =>
      simp only [system, Service.step, Option.bind_eq_some_iff] at step
      rcases step with ⟨thread, born, program, alive, step⟩
      exact .runs id ok thread program next born alive (.of_stepThread step)
  | crash =>
      rcases Option.some.inj step with rfl
      exact .crashes

end Service

end SharedConnection

end OnlineJudge.Library
