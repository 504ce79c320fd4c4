import OnlineJudge.Library.TransactionLogic

/-!
# One thread alone

While a thread is the only one that runs, the connection is its own: what it leaves
depends on its program, on the contents it starts from and on which of its calls fail.
`Solo` is this big-step semantics of a program, with one rule for each answer that a
call can get. It describes every finished run of the system in which no other thread
takes a step; and a thread that takes the mutex around its transactions does finish.
-/

namespace OnlineJudge.Library.SharedConnection

variable {Db Stmt : Type} {Reply : Stmt → Type} {Event Call : Type}

/-- The connection as its only user sees it: the committed contents, and those inside an open
transaction. -/
structure Connection (Db : Type) where
  committed : Db
  work : Option Db

namespace Connection

def view (connection : Connection Db) : Db := connection.work.getD connection.committed

/-- The effect of a statement that leaves the contents `after`. -/
def store (connection : Connection Db) (after : Db) : Connection Db :=
  match connection.work with
  | some _ => { connection with work := some after }
  | none => { connection with committed := after }

end Connection

/-- How a program ends from a connection, and what it emits on its way. `fails` tells whether calls
may fail for reasons outside the database; a statement may be refused by the contents anyway. -/
inductive Solo (execute : (stmt : Stmt) → Db → Option (Reply stmt × Db)) (fails : Prop) :
    Program Reply Event → Connection Db → List Event → Connection Db → Prop where
  | done (connection : Connection Db) : Solo execute fails .done connection [] connection
  | lock {next : Program Reply Event} {connection final : Connection Db} {events : List Event}
      (rest : Solo execute fails next connection events final) :
      Solo execute fails (.lock next) connection events final
  | unlock {next : Program Reply Event} {connection final : Connection Db} {events : List Event}
      (rest : Solo execute fails next connection events final) :
      Solo execute fails (.unlock next) connection events final
  | begins {next : Bool → Program Reply Event} {connection final : Connection Db}
      {events : List Event} (free : connection.work = none)
      (rest : Solo execute fails (next true)
        { connection with work := some connection.committed } events final) :
      Solo execute fails (.begin next) connection events final
  | beginFails {next : Bool → Program Reply Event} {connection final : Connection Db}
      {events : List Event} (failed : fails ∨ connection.work ≠ none)
      (rest : Solo execute fails (next false) connection events final) :
      Solo execute fails (.begin next) connection events final
  | commits {next : Bool → Program Reply Event} {connection final : Connection Db} {work : Db}
      {events : List Event} (is_open : connection.work = some work)
      (rest : Solo execute fails (next true) { committed := work, work := none } events final) :
      Solo execute fails (.commit next) connection events final
  | commitFails {next : Bool → Program Reply Event} {connection final : Connection Db}
      {events : List Event} (failed : fails ∨ connection.work = none)
      (rest : Solo execute fails (next false) connection events final) :
      Solo execute fails (.commit next) connection events final
  | rollback {next : Program Reply Event} {connection final : Connection Db}
      {events : List Event}
      (rest : Solo execute fails next { connection with work := none } events final) :
      Solo execute fails (.rollback next) connection events final
  | executes {stmt : Stmt} {next : Option (Reply stmt) → Program Reply Event}
      {connection final : Connection Db} {events : List Event} {reply : Reply stmt} {after : Db}
      (executed : execute stmt connection.view = some (reply, after))
      (rest : Solo execute fails (next (some reply)) (connection.store after) events final) :
      Solo execute fails (.exec stmt next) connection events final
  | execFails {stmt : Stmt} {next : Option (Reply stmt) → Program Reply Event}
      {connection final : Connection Db} {events : List Event}
      (failed : fails ∨ execute stmt connection.view = none)
      (rest : Solo execute fails (next none) connection events final) :
      Solo execute fails (.exec stmt next) connection events final
  | emit {event : Event} {next : Program Reply Event} {connection final : Connection Db}
      {events : List Event} (rest : Solo execute fails next connection events final) :
      Solo execute fails (.emit event next) connection (event :: events) final

/-- Runs a program alone. `answers` tells of each call that can fail whether it succeeds; those
beyond its end do. -/
def runAlone (execute : (stmt : Stmt) → Db → Option (Reply stmt × Db)) :
    Program Reply Event → List Bool → Connection Db → List Event × Connection Db
  | .done, _, connection => ([], connection)
  | .lock next, answers, connection => runAlone execute next answers connection
  | .unlock next, answers, connection => runAlone execute next answers connection
  | .begin next, answers, connection =>
      if answers.headD true ∧ connection.work = none then
        runAlone execute (next true) answers.tail
          { connection with work := some connection.committed }
      else runAlone execute (next false) answers.tail connection
  | .commit next, answers, connection =>
      match answers.headD true, connection.work with
      | true, some work =>
          runAlone execute (next true) answers.tail { committed := work, work := none }
      | _, _ => runAlone execute (next false) answers.tail connection
  | .rollback next, answers, connection =>
      runAlone execute next answers { connection with work := none }
  | .exec stmt next, answers, connection =>
      match answers.headD true, execute stmt connection.view with
      | true, some (reply, after) =>
          runAlone execute (next (some reply)) answers.tail (connection.store after)
      | _, _ => runAlone execute (next none) answers.tail connection
  | .emit event next, answers, connection =>
      let ended := runAlone execute next answers connection
      (event :: ended.1, ended.2)

theorem solo_runAlone (execute : (stmt : Stmt) → Db → Option (Reply stmt × Db))
    (program : Program Reply Event) (answers : List Bool) (connection : Connection Db) :
    Solo execute True program connection (runAlone execute program answers connection).1
      (runAlone execute program answers connection).2 := by
  induction program generalizing answers connection with
  | done => exact .done connection
  | lock next ih => exact .lock (ih answers connection)
  | unlock next ih => exact .unlock (ih answers connection)
  | begin next ih =>
      simp only [runAlone]
      split
      · rename_i begins
        exact .begins begins.2 (ih true _ _)
      · exact .beginFails (.inl trivial) (ih false _ _)
  | commit next ih =>
      simp only [runAlone]
      split
      · rename_i is_open
        exact .commits is_open (ih true _ _)
      · exact .commitFails (.inl trivial) (ih false _ _)
  | rollback next ih => exact .rollback (ih answers _)
  | exec stmt next ih =>
      simp only [runAlone]
      split
      · rename_i executed
        exact .executes executed (ih _ _ _)
      · exact .execFails (.inl trivial) (ih none _ _)
  | emit event next ih => exact .emit (ih answers connection)

/-- The connection in a state of the system. -/
def State.connection (state : State Db Reply Event Call) : Connection Db where
  committed := state.committed
  work := state.transaction.map (·.work)

theorem State.view_connection (state : State Db Reply Event Call) :
    state.connection.view = state.view := by
  cases opened : state.transaction <;> simp [State.connection, Connection.view, State.view, opened]

theorem State.connection_store (state : State Db Reply Event Call) (id : ThreadId)
    (answered : Σ stmt, Reply stmt) (after : Db) :
    (state.store id answered after).connection = state.connection.store after := by
  cases opened : state.transaction <;>
    simp [State.connection, Connection.store, State.store, opened]

/-- Only thread `id` runs; its calls fail only where `fails` allows it. -/
def Alone (id : ThreadId) (fails : Prop) : State Db Reply Event Call → Label Call → Prop :=
  fun _ label => label = .run id true ∨ fails ∧ label = .run id false

namespace Service

variable {service : Service Db Reply Event Call} {fails : Prop}

/-- One step of the thread is one rule. -/
theorem solo_of_step {state middle : State Db Reply Event Call} {id : ThreadId} {ok : Bool}
    {thread : Thread Reply Event Call} {program : Program Reply Event}
    (step : service.stepThread state id thread ok program = some middle)
    (mayFail : ok = true ∨ fails) :
    ∃ next events, middle.threads = Function.update state.threads id
        (some { thread with program := some next, events := thread.events ++ events }) ∧
      ∀ later final, Solo service.execute fails next middle.connection later final →
        Solo service.execute fails program state.connection (events ++ later) final := by
  cases program with
  | done => cases step
  | lock rest =>
      simp only [stepThread, Option.ite_none_right_eq_some, Option.some.injEq] at step
      rcases step with ⟨_, rfl⟩
      exact ⟨rest, [], by simp [State.advance], fun _ _ ends => .lock ends⟩
  | unlock rest =>
      simp only [stepThread, Option.ite_none_right_eq_some, Option.some.injEq] at step
      rcases step with ⟨_, rfl⟩
      exact ⟨rest, [], by simp [State.advance], fun _ _ ends => .unlock ends⟩
  | begin rest =>
      simp only [stepThread] at step
      split at step
      case h_1 free =>
        rcases Option.some.inj step with rfl
        refine ⟨rest true, [], by simp [State.advance], fun _ _ ends => .begins ?_ ends⟩
        simp [State.connection, free]
      case h_2 other =>
        rcases Option.some.inj step with rfl
        refine ⟨rest false, [], by simp [State.advance], fun _ _ ends => .beginFails ?_ ends⟩
        rcases mayFail with isOk | mayFail
        · right
          intro free
          rw [State.connection, Option.map_eq_none_iff] at free
          exact other isOk free
        · exact .inl mayFail
  | commit rest =>
      simp only [stepThread] at step
      split at step
      case h_1 transaction is_open =>
        rcases Option.some.inj step with rfl
        have is_work : state.connection.work = some transaction.work := by
          simp [State.connection, is_open]
        exact ⟨rest true, [], by simp [State.advance], fun _ _ ends => .commits is_work ends⟩
      case h_2 other =>
        rcases Option.some.inj step with rfl
        refine ⟨rest false, [], by simp [State.advance], fun _ _ ends => .commitFails ?_ ends⟩
        rcases mayFail with isOk | mayFail
        · right
          cases opened : state.transaction with
          | none => simp [State.connection, opened]
          | some transaction => exact absurd opened (other transaction isOk)
        · exact .inl mayFail
  | rollback rest =>
      rcases Option.some.inj step with rfl
      exact ⟨rest, [], by simp [State.advance], fun _ _ ends => .rollback ends⟩
  | exec stmt rest =>
      simp only [stepThread] at step
      split at step
      case h_1 reply after executed =>
        rcases Option.some.inj step with rfl
        refine ⟨rest (some reply), [], ?_, fun later final ends => ?_⟩
        · have threads : (state.store id ⟨stmt, reply⟩ after).threads = state.threads := by
            unfold State.store
            split <;> rfl
          simp [State.advance, threads]
        · rw [← state.view_connection] at executed
          refine .executes executed ?_
          rw [← state.connection_store id ⟨stmt, reply⟩ after]
          exact ends
      case h_2 other =>
        rcases Option.some.inj step with rfl
        refine ⟨rest none, [], by simp [State.advance], fun _ _ ends => .execFails ?_ ends⟩
        rcases mayFail with isOk | mayFail
        · right
          rw [state.view_connection]
          cases executed : service.execute stmt state.view with
          | none => rfl
          | some answer => exact absurd executed (other answer.1 answer.2 isOk)
        · exact .inl mayFail
  | emit event rest =>
      rcases Option.some.inj step with rfl
      exact ⟨rest, [event], by simp [State.advance], fun _ _ ends => .emit ends⟩

/-- A run in which one thread alone comes to its end is described by the big-step semantics. -/
theorem solo_of_reaches {state final : State Db Reply Event Call} {id : ThreadId}
    (reaches : service.system.Reaches (Alone id fails) state final)
    {thread last : Thread Reply Event Call} {program : Program Reply Event}
    (born : state.threads id = some thread) (alive : thread.program = some program)
    (ended : final.threads id = some last) (finished : last.program = some .done) :
    ∃ events, last.events = thread.events ++ events ∧
      Solo service.execute fails program state.connection events final.connection := by
  induction reaches using Relation.ReflTransGen.head_induction_on generalizing thread program with
  | refl =>
      rw [born] at ended
      rcases Option.some.inj ended with rfl
      rw [alive] at finished
      rcases Option.some.inj finished with rfl
      exact ⟨[], by simp, .done _⟩
  | head edge _ ih =>
      rcases edge with ⟨label, isAlone, step⟩
      obtain ⟨ok, rfl, mayFail⟩ : ∃ ok, label = .run id ok ∧ (ok = true ∨ fails) := by
        rcases isAlone with isRun | ⟨mayFail, isRun⟩
        · exact ⟨true, isRun, .inl rfl⟩
        · exact ⟨false, isRun, .inr mayFail⟩
      simp only [system, Service.step, born, alive, Option.bind_some] at step
      rcases solo_of_step step mayFail with ⟨next, events, threads, extend⟩
      rcases ih (by rw [threads, Function.update_self]) rfl with ⟨later, events_eq, ends⟩
      exact ⟨events ++ later, by rw [events_eq, List.append_assoc], extend _ _ ends⟩

end Service

/-- Who holds the mutex while a thread that runs alone stands in a phase. -/
def Phase.holder (id : ThreadId) : Phase Unit → Option ThreadId
  | .idle => none
  | .held | .active _ => some id

section Progress

variable {service : Service Db Reply Event Call} {fails : Prop} {id : ThreadId}

/-- The thread comes to its end when nobody else runs. -/
def Finishes (service : Service Db Reply Event Call) (fails : Prop) (id : ThreadId)
    (state : State Db Reply Event Call) : Prop :=
  ∃ final last, service.system.Reaches (Alone id fails) state final ∧
    final.threads id = some last ∧ last.program = some .done

theorem Finishes.of_step {state middle : State Db Reply Event Call}
    {thread : Thread Reply Event Call} {program : Program Reply Event}
    (born : state.threads id = some thread) (alive : thread.program = some program)
    (step : service.stepThread state id thread true program = some middle)
    (finishes : Finishes service fails id middle) : Finishes service fails id state := by
  rcases finishes with ⟨final, last, reaches, ended⟩
  refine ⟨final, last, Relation.ReflTransGen.head ⟨.run id true, .inl rfl, ?_⟩ reaches, ended⟩
  simp [Service.system, Service.step, born, alive, step]

/-- A thread that takes the mutex around its transactions is never blocked when it runs alone. -/
theorem Uses.finishes {inside outside : Stmt → Prop} {emitted : Event → Prop}
    {program : Program Reply Event} {phase : Phase Unit} {state : State Db Reply Event Call}
    {thread : Thread Reply Event Call} (uses : Uses inside outside emitted program phase)
    (born : state.threads id = some thread) (alive : thread.program = some program)
    (mutex : state.mutex = phase.holder id) : Finishes service fails id state := by
  induction program generalizing phase state thread with
  | done => exact ⟨state, thread, Relation.ReflTransGen.refl, born, alive⟩
  | lock next ih =>
      cases phase with
      | idle => exact .of_step born alive (if_pos mutex) (ih uses (State.advance_self ..) rfl rfl)
      | held | active work => exact uses.elim
  | unlock next ih =>
      cases phase with
      | held => exact .of_step born alive (if_pos mutex) (ih uses (State.advance_self ..) rfl rfl)
      | idle | active work => exact uses.elim
  | begin next ih =>
      cases phase with
      | held =>
          cases opened : state.transaction with
          | none =>
              have step : service.stepThread state id thread true (.begin next) =
                  some (State.advance
                    { state with
                      transaction := some { owner := id, work := state.committed, joined := [] } }
                    id thread (next true)) := by simp [Service.stepThread, opened]
              exact .of_step born alive step (ih true uses.1 (State.advance_self ..) rfl mutex)
          | some transaction =>
              have step : service.stepThread state id thread true (.begin next) =
                  some (state.advance id thread (next false)) := by
                simp [Service.stepThread, opened]
              exact .of_step born alive step (ih false uses.2 (State.advance_self ..) rfl mutex)
      | idle | active work => exact uses.elim
  | commit next ih =>
      cases phase with
      | active work =>
          cases opened : state.transaction with
          | none =>
              have step : service.stepThread state id thread true (.commit next) =
                  some (state.advance id thread (next false)) := by
                simp [Service.stepThread, opened]
              exact .of_step born alive step (ih false uses.2 (State.advance_self ..) rfl mutex)
          | some transaction =>
              have step : service.stepThread state id thread true (.commit next) =
                  some (State.advance
                    { state with
                      committed := transaction.work
                      history := state.history ++ [transaction.work]
                      transaction := none }
                    id thread (next true)) := by simp [Service.stepThread, opened]
              exact .of_step born alive step (ih true uses.1 (State.advance_self ..) rfl mutex)
      | idle | held => exact uses.elim
  | rollback next ih =>
      cases phase with
      | active work => exact .of_step born alive rfl (ih uses (State.advance_self ..) rfl mutex)
      | idle | held => exact uses.elim
  | exec stmt next ih =>
      have rest (answer : Option (Reply stmt)) :
          Uses inside outside emitted (next answer) phase := by
        cases phase with
        | idle | active work => exact uses.2 answer
        | held => exact uses.elim
      cases executed : service.execute stmt state.view with
      | none =>
          have step : service.stepThread state id thread true (.exec stmt next) =
              some (state.advance id thread (next none)) := by
            simp [Service.stepThread, executed]
          exact .of_step born alive step (ih none (rest none) (State.advance_self ..) rfl mutex)
      | some answer =>
          have step : service.stepThread state id thread true (.exec stmt next) =
              some ((state.store id ⟨stmt, answer.1⟩ answer.2).advance id thread
                (next (some answer.1))) := by
            simp [Service.stepThread, executed]
          have kept : (state.store id ⟨stmt, answer.1⟩ answer.2).mutex = phase.holder id := by
            rw [State.store]
            split <;> exact mutex
          exact .of_step born alive step
            (ih (some answer.1) (rest _) (State.advance_self ..) rfl kept)
  | emit event next ih =>
      exact .of_step born alive rfl (ih uses.2 (State.advance_self ..) rfl mutex)

end Progress

end OnlineJudge.Library.SharedConnection
