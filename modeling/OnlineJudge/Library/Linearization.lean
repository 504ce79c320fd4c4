import OnlineJudge.Library.TransactionLogic

/-!
# Transactions that answer for their beginning

A transaction under the mutex is serial but for the bare statements of other threads,
which join it. `Decides` follows a program inside its transaction, against all that may
join it, up to the answer that it returns: what is demanded of an answer is stated about
the contents with which the transaction began. `Decided` is what then holds of the thread
in every state of every run from there on.
-/

namespace OnlineJudge.Library.SharedConnection.Contract

variable {Db Stmt : Type} {Reply : Stmt → Type} {Event Call : Type}
  {service : Service Db Reply Event Call} (contract : Contract service)

/-- A program inside its transaction gives an answer that is demanded: `demands true` of one that
follows a commit, `demands false` of one that follows a rollback. What it commits satisfies `Inv`.
Its calls may fail for reasons outside the database only if `fails`. -/
def Decides (fails : Prop) (demands : Bool → Event → Prop) : Program Reply Event → Db → Prop
  | .exec stmt next, work =>
      contract.Used stmt ∧
        ∀ later, contract.Basic later → contract.Interferes work later →
          (∀ reply after, service.execute stmt later = some (reply, after) →
            Decides fails demands (next (some reply)) after) ∧
          (fails ∨ service.execute stmt later = none → Decides fails demands (next none) later)
  | .commit next, work =>
      (∀ later, contract.Basic later → contract.Interferes work later →
        contract.Inv later ∧ (fails → Decides fails demands (next false) later)) ∧
      ∃ event, next true = .unlock (.emit event .done) ∧ demands true event
  | .rollback next, _ => ∃ event, next = .unlock (.emit event .done) ∧ demands false event
  | _, _ => False

variable {contract} {fails : Prop} {demands : Bool → Event → Prop}

theorem Decides.of_interferes {program : Program Reply Event} {work later : Db}
    (decides : contract.Decides fails demands program work)
    (interferes : contract.Interferes work later) :
    contract.Decides fails demands program later := by
  cases program with
  | exec stmt next =>
      refine ⟨decides.1, ?_⟩
      intro last basic joined
      exact decides.2 last basic (interferes.trans joined)
  | commit next =>
      refine ⟨?_, decides.2⟩
      intro last basic joined
      exact decides.1 last basic (interferes.trans joined)
  | rollback next => exact decides
  | done | lock | unlock | begin | emit => exact decides.elim

/-- A program that decides, whichever calls fail, is safe where nothing is promised. -/
theorem Decides.safe {program : Program Reply Event} {work seen : Db} {events : List Event}
    {promise : List Event → Db → Prop} (quiet : ∀ events db, promise events db)
    (basic : contract.Basic work) (decides : contract.Decides True demands program work) :
    contract.Safe promise program (.active work) seen events := by
  induction program generalizing work seen events with
  | exec stmt next ih =>
      have now := decides.2 work basic Relation.ReflTransGen.refl
      refine ⟨decides.1, ?_, ih none basic (now.2 (.inl trivial))⟩
      intro later reply after laterBasic interferes executed
      have afterBasic := (contract.used_keeps decides.1 laterBasic executed).1
      exact ih (some reply) afterBasic
        ((decides.2 later laterBasic interferes).1 reply after executed)
  | commit next ih =>
      have now := decides.1 work basic Relation.ReflTransGen.refl
      refine ⟨?_, ih false basic (now.2 trivial)⟩
      intro later laterBasic _ interferes
      refine ⟨(decides.1 later laterBasic interferes).1, ?_⟩
      rcases decides.2 with ⟨event, isReturn, -⟩
      rw [isReturn]
      exact ⟨quiet _ _, trivial⟩
  | rollback next =>
      rcases decides with ⟨event, isReturn, -⟩
      rw [isReturn]
      exact ⟨quiet _ _, trivial⟩
  | done | lock | unlock | begin | emit => exact decides.elim

section Frame

/-- What a step of somebody else does to the transaction of a thread: bare statements may join it,
and nothing else happens. -/
structure Framed (contract : Contract service) (state next : State Db Reply Event Call)
    (id : ThreadId) (transaction : Transaction Db Reply) : Prop where
  holds : next.mutex = some id
  committed : next.committed = state.committed
  thread : next.threads id = state.threads id
  transaction : ∃ joined, next.transaction = some joined ∧ joined.owner = id ∧
    contract.Interferes transaction.work joined.work

variable {state next : State Db Reply Event Call} {id : ThreadId}
  {transaction : Transaction Db Reply}

theorem Framed.of_advance {other : ThreadId} {thread : Thread Reply Event Call}
    {rest : Program Reply Event} (holds : state.mutex = some id)
    (is_open : state.transaction = some transaction) (own : transaction.owner = id)
    (differs : other ≠ id) : contract.Framed state (state.advance other thread rest) id
      transaction where
  holds := holds
  committed := rfl
  thread := state.advance_of_ne thread rest differs.symm
  transaction := ⟨transaction, is_open, own, Relation.ReflTransGen.refl⟩

/-- While a thread is inside its transaction, the other threads are outside of theirs. -/
theorem Sound.framed {label : Label Call} (sound : contract.Sound state)
    (holds : state.mutex = some id) (is_open : state.transaction = some transaction)
    (own : transaction.owner = id) (step : service.system.step state label = some next)
    (other : ∀ ok, label ≠ .run id ok) (lives : label ≠ .crash) :
    contract.Framed state next id transaction := by
  cases Service.Transition.of_step step with
  | starts call =>
      have differs : id ≠ state.nextThread := Nat.ne_of_lt (sound.holder_born id holds)
      exact
        { holds := holds
          committed := rfl
          thread := service.spawn_of_ne state call differs
          transaction := ⟨transaction, is_open, own, Relation.ReflTransGen.refl⟩ }
  | crashes => exact absurd rfl lives
  | runs runner ok thread program next born alive advances =>
      have differs : runner ≠ id := by
        rintro rfl
        exact other ok rfl
      have idle : state.mutex ≠ some runner := by
        rw [holds]
        exact fun same => differs (Option.some.inj same).symm
      rcases sound.threads runner thread born with ⟨seen, -, -, running⟩
      rcases running program alive with ⟨phase, agrees, safe⟩
      cases phase with
      | held => exact absurd agrees.1 idle
      | active work => exact absurd agrees.1 idle
      | idle =>
          cases advances with
          | locks rest free =>
              rw [free] at holds
              cases holds
          | unlocks | begins | beginFails | commits | commitFails | rollsBack => exact safe.elim
          | emits event rest => exact .of_advance holds is_open own differs
          | execFails stmt rest => exact .of_advance holds is_open own differs
          | executes stmt rest reply after executed =>
              have view_eq : state.view = transaction.work := by simp [State.view, is_open]
              have stored : state.store runner ⟨stmt, reply⟩ after =
                  { state with
                    transaction := some
                      { transaction with
                        work := after
                        joined := transaction.joined ++ [⟨stmt, reply⟩] } } := by
                have not_own : transaction.owner ≠ runner := own ▸ differs.symm
                simp [State.store, is_open, not_own]
              rw [stored]
              exact
                { holds := holds
                  committed := rfl
                  thread := State.advance_of_ne _ _ _ differs.symm
                  transaction := ⟨_, rfl, own, Relation.ReflTransGen.single
                    ⟨stmt, reply, safe.1, view_eq ▸ executed⟩⟩ }

end Frame

section Run

variable {allowed : State Db Reply Event Call → Label Call → Prop}
  {started begun state next : State Db Reply Event Call} {base : Db} {id : ThreadId}
  {earlier : List Event} {thread : Thread Reply Event Call} {event failure : Event}

/-- The thread gives up the mutex and returns its answer. -/
inductive Returning (earlier : List Event) (event : Event) (thread : Thread Reply Event Call) :
    Prop where
  | unlocks (alive : thread.program = some (.unlock (.emit event .done)))
      (events : thread.events = earlier)
  | emits (alive : thread.program = some (.emit event .done)) (events : thread.events = earlier)
  | done (alive : thread.program = some .done) (events : thread.events = earlier ++ [event])

theorem Returning.own_step {ok : Bool} (returning : Returning earlier event thread)
    (step : service.system.step state (.run id ok) = some next)
    (born : state.threads id = some thread) :
    ∃ later, next.threads id = some later ∧ Returning earlier event later := by
  cases returning with
  | unlocks alive events =>
      simp only [Service.system, Service.step, born, alive, Option.bind_some,
        Service.stepThread, Option.ite_none_right_eq_some, Option.some.injEq] at step
      rcases step with ⟨-, rfl⟩
      exact ⟨_, State.advance_self .., .emits rfl events⟩
  | emits alive events =>
      simp only [Service.system, Service.step, born, alive, Option.bind_some,
        Service.stepThread, Option.some.injEq] at step
      subst step
      exact ⟨_, State.advance_self .., .done rfl (by rw [events])⟩
  | done alive events =>
      simp [Service.system, Service.step, born, alive, Service.stepThread] at step

theorem Returning.events_of_done (returning : Returning earlier event thread)
    (done : thread.program = some .done) : thread.events = earlier ++ [event] := by
  cases returning with
  | unlocks alive | emits alive => simp [done] at alive
  | done alive events => exact events

/-- On the way the transaction has ended and left the contents with which it began. -/
def Undone (service : Service Db Reply Event Call)
    (allowed : State Db Reply Event Call → Label Call → Prop)
    (begun state : State Db Reply Event Call) (base : Db) : Prop :=
  ∃ ended, service.system.Reaches allowed begun ended ∧ ended.committed = base ∧
    ended.transaction = none ∧ service.system.Reaches allowed ended state

theorem Undone.step {label : Label Call} (undone : Undone service allowed begun state base)
    (isAllowed : allowed state label) (step : service.system.step state label = some next) :
    Undone service allowed begun next base := by
  rcases undone with ⟨ended, before, committed, closed, after⟩
  exact ⟨ended, before, committed, closed, after.tail ⟨label, isAllowed, step⟩⟩

/-- Where a thread stands that has begun its transaction on `base`. -/
inductive Decided (contract : Contract service) (fails : Prop) (demands : Bool → Event → Prop)
    (allowed : State Db Reply Event Call → Label Call → Prop)
    (begun : State Db Reply Event Call) (base : Db) (id : ThreadId) (earlier : List Event)
    (state : State Db Reply Event Call) (thread : Thread Reply Event Call) : Prop where
  | inside {program : Program Reply Event} {transaction : Transaction Db Reply}
      (holds : state.mutex = some id) (committed : state.committed = base)
      (is_open : state.transaction = some transaction) (own : transaction.owner = id)
      (events : thread.events = earlier) (alive : thread.program = some program)
      (decides : contract.Decides fails demands program transaction.work)
  | returns {committed : Bool} {event : Event} (demanded : demands committed event)
      (undone : committed = false → Undone service allowed begun state base)
      (returning : Returning earlier event thread)
  | crashed (lost : thread.program = none)

/-- The thread's own step inside its transaction. -/
theorem Decided.inside_step {ok : Bool} {program : Program Reply Event}
    {transaction : Transaction Db Reply} (sound : contract.Sound state)
    (reaches : service.system.Reaches allowed begun state)
    (isAllowed : allowed state (.run id ok)) (failing : ok = false → fails)
    (step : service.system.step state (.run id ok) = some next)
    (born : state.threads id = some thread) (holds : state.mutex = some id)
    (committed : state.committed = base) (is_open : state.transaction = some transaction)
    (own : transaction.owner = id) (events : thread.events = earlier)
    (alive : thread.program = some program)
    (decides : contract.Decides fails demands program transaction.work) :
    ∃ later, next.threads id = some later ∧
      Decided contract fails demands allowed begun base id earlier next later := by
  have basic := (sound.transactions transaction is_open).2.1
  have view_eq : state.view = transaction.work := by simp [State.view, is_open]
  have stepped : service.stepThread state id thread ok program = some next := by
    simpa [Service.system, Service.step, born, alive] using step
  have reached : service.system.Reaches allowed begun next :=
    reaches.tail ⟨.run id ok, isAllowed, step⟩
  cases program with
  | done | lock | unlock | begin | emit => exact decides.elim
  | rollback rest =>
      rcases Option.some.inj stepped with rfl
      rcases decides with ⟨event, isReturn, demanded⟩
      refine ⟨_, State.advance_self .., .returns demanded ?_ (.unlocks (isReturn ▸ rfl) events)⟩
      intro _
      exact ⟨_, reached, committed, rfl, Relation.ReflTransGen.refl⟩
  | commit rest =>
      cases ok with
      | false =>
          rcases Option.some.inj stepped with rfl
          have now := decides.1 transaction.work basic Relation.ReflTransGen.refl
          exact ⟨_, State.advance_self .., .inside holds committed is_open own events rfl
            (now.2 (failing rfl))⟩
      | true =>
          simp only [Service.stepThread, is_open] at stepped
          rcases Option.some.inj stepped with rfl
          rcases decides.2 with ⟨event, isReturn, demanded⟩
          refine ⟨_, State.advance_self .., .returns demanded ?_ (.unlocks (isReturn ▸ rfl) events)⟩
          intro rolledBack
          cases rolledBack
  | exec stmt rest =>
      have now := decides.2 transaction.work basic Relation.ReflTransGen.refl
      cases ok with
      | false =>
          rcases Option.some.inj stepped with rfl
          exact ⟨_, State.advance_self .., .inside holds committed is_open own events rfl
            (now.2 (.inl (failing rfl)))⟩
      | true =>
          cases executed : service.execute stmt transaction.work with
          | none =>
              simp only [Service.stepThread, view_eq, executed] at stepped
              rcases Option.some.inj stepped with rfl
              exact ⟨_, State.advance_self .., .inside holds committed is_open own events rfl
                (now.2 (.inr executed))⟩
          | some answer =>
              simp only [Service.stepThread, view_eq, executed] at stepped
              rcases Option.some.inj stepped with rfl
              have stored : state.store id ⟨stmt, answer.1⟩ answer.2 =
                  { state with transaction := some { transaction with work := answer.2 } } := by
                simp [State.store, is_open, own]
              rw [stored]
              exact ⟨_, State.advance_self .., .inside holds committed rfl own events rfl
                (now.1 answer.1 answer.2 executed)⟩

/-- A step of somebody else leaves the thread as it is. -/
theorem Sound.thread_stays {label : Label Call} (sound : contract.Sound state)
    (step : service.system.step state label = some next)
    (born : state.threads id = some thread) (other : ∀ ok, label ≠ .run id ok)
    (lives : label ≠ .crash) : next.threads id = some thread := by
  cases Service.Transition.of_step step with
  | starts call => rw [service.spawn_of_ne state call (Nat.ne_of_lt (sound.born born)), born]
  | crashes => exact absurd rfl lives
  | runs runner ok otherThread program next otherBorn alive advances =>
      have differs : id ≠ runner := by
        rintro rfl
        exact other ok rfl
      rcases advances.threads_eq with ⟨-, later, threads_eq⟩
      rw [threads_eq, Function.update_of_ne differs, born]

theorem Decided.frame {label : Label Call} (sound : contract.Sound state)
    (isAllowed : allowed state label) (step : service.system.step state label = some next)
    (other : ∀ ok, label ≠ .run id ok) (lives : label ≠ .crash)
    (decided : Decided contract fails demands allowed begun base id earlier state thread) :
    Decided contract fails demands allowed begun base id earlier next thread := by
  cases decided with
  | inside holds committed is_open own events alive decides =>
      have framed := sound.framed holds is_open own step other lives
      rcases framed.transaction with ⟨joined, joined_open, joined_own, interferes⟩
      exact .inside framed.holds (framed.committed.trans committed) joined_open joined_own events
        alive (decides.of_interferes interferes)
  | returns demanded undone returning =>
      exact .returns demanded (fun rolledBack => (undone rolledBack).step isAllowed step) returning
  | crashed lost => exact .crashed lost

/-- The thread's own step, wherever it stands. -/
theorem Decided.own_step {ok : Bool} (sound : contract.Sound state)
    (reaches : service.system.Reaches allowed begun state)
    (isAllowed : allowed state (.run id ok)) (failing : ok = false → fails)
    (step : service.system.step state (.run id ok) = some next)
    (born : state.threads id = some thread)
    (decided : Decided contract fails demands allowed begun base id earlier state thread) :
    ∃ later, next.threads id = some later ∧
      Decided contract fails demands allowed begun base id earlier next later := by
  cases decided with
  | inside holds committed is_open own events alive decides =>
      exact Decided.inside_step sound reaches isAllowed failing step born holds committed is_open
        own events alive decides
  | returns demanded undone returning =>
      rcases returning.own_step step born with ⟨later, laterBorn, stillReturning⟩
      refine ⟨later, laterBorn, .returns demanded ?_ stillReturning⟩
      exact fun rolledBack => (undone rolledBack).step isAllowed step
  | crashed lost => simp [Service.system, Service.step, born, lost] at step

end Run

section Calls

variable {allowed : State Db Reply Event Call → Label Call → Prop}
  {started state next : State Db Reply Event Call} {id : ThreadId} {earlier : List Event}
  {thread : Thread Reply Event Call} {failure : Event} {rest : Bool → Program Reply Event}
  {demanded : Db → Bool → Event → Prop}

/-- Where a thread stands whose call is one transaction. -/
inductive Called (contract : Contract service) (fails : Prop)
    (demanded : Db → Bool → Event → Prop) (failure : Event)
    (allowed : State Db Reply Event Call → Label Call → Prop)
    (started : State Db Reply Event Call) (id : ThreadId) (earlier : List Event)
    (rest : Bool → Program Reply Event) (state : State Db Reply Event Call)
    (thread : Thread Reply Event Call) : Prop where
  | waits (events : thread.events = earlier)
      (alive : thread.program = some (.lock (.begin rest)) ∨ thread.program = some (.begin rest))
  | began {before begun : State Db Reply Event Call}
      (first : service.system.Reaches allowed started before) (closed : before.transaction = none)
      (begins : service.system.step before (.run id true) = some begun)
      (afterwards : service.system.Reaches allowed begun state)
      (decided : Decided contract fails (demanded before.committed) allowed begun before.committed
        id earlier state thread)
  | refused (failed : fails) (returning : Returning earlier failure thread)
  | crashed (lost : thread.program = none)

/-- A crash ends the thread, unless it has finished. -/
theorem crashed_thread (born : state.threads id = some thread) :
    ∃ later, state.crashed.threads id = some later ∧
      (thread.program = some .done ∧ later = thread ∨ later.program = none) := by
  simp only [State.crashed, born, Option.map_some, Option.some.injEq, exists_eq_left']
  split
  · rename_i finished
    exact .inl ⟨finished, rfl⟩
  · exact .inr rfl

theorem Called.crash (isAllowed : allowed state .crash) (born : state.threads id = some thread)
    (called : Called contract fails demanded failure allowed started id earlier rest state
      thread) :
    ∃ later, state.crashed.threads id = some later ∧
      Called contract fails demanded failure allowed started id earlier rest state.crashed
        later := by
  rcases crashed_thread born with ⟨later, laterBorn, finished | lost⟩
  case inr => exact ⟨later, laterBorn, .crashed lost⟩
  rcases finished with ⟨done, rfl⟩
  refine ⟨later, laterBorn, ?_⟩
  cases called with
  | waits events alive => simp [done] at alive
  | refused failed returning => exact .refused failed returning
  | crashed lost => exact .crashed lost
  | began first closed begins afterwards decided =>
      refine .began first closed begins (afterwards.tail ⟨.crash, isAllowed, rfl⟩) ?_
      cases decided with
      | inside holds committed is_open own events alive decides =>
          rw [done] at alive
          rcases Option.some.inj alive with rfl
          exact decides.elim
      | returns demanded undone returning =>
          exact .returns demanded (fun rolledBack => (undone rolledBack).step isAllowed rfl)
            returning
      | crashed lost => exact .crashed lost

/-- A thread that stands before its transaction begins it, unless the call fails. -/
theorem Called.waits_step {ok : Bool} (sound : contract.Sound state)
    (first : service.system.Reaches allowed started state) (failing : ok = false → fails)
    (step : service.system.step state (.run id ok) = some next)
    (born : state.threads id = some thread)
    (decides : ∀ base, contract.Basic base → contract.Inv base →
      contract.Decides fails (demanded base) (rest true) base)
    (refusal : rest false = .unlock (.emit failure .done)) (events : thread.events = earlier)
    (alive : thread.program = some (.lock (.begin rest)) ∨ thread.program = some (.begin rest)) :
    ∃ later, next.threads id = some later ∧
      Called contract fails demanded failure allowed started id earlier rest next later := by
  rcases alive with alive | alive
  · simp only [Service.system, Service.step, born, alive, Option.bind_some, Service.stepThread,
      Option.ite_none_right_eq_some, Option.some.injEq] at step
    rcases step with ⟨-, rfl⟩
    exact ⟨_, State.advance_self .., .waits events (.inr rfl)⟩
  · rcases sound.threads id thread born with ⟨seen, -, -, running⟩
    rcases running _ alive with ⟨phase, agrees, safe⟩
    cases phase with
    | idle | active work => exact safe.elim
    | held =>
        have stepped : service.stepThread state id thread ok (.begin rest) = some next := by
          simpa [Service.system, Service.step, born, alive] using step
        cases ok with
        | false =>
            rcases Option.some.inj stepped with rfl
            exact ⟨_, State.advance_self .., .refused (failing rfl)
              (.unlocks (congrArg some refusal) events)⟩
        | true =>
            simp only [Service.stepThread, agrees.2, Option.some.injEq] at stepped
            have decided := decides state.committed sound.committed_basic sound.committed_inv
            refine ⟨{ thread with program := some (rest true) }, ?_,
              .began first agrees.2 step Relation.ReflTransGen.refl ?_⟩
            · rw [← stepped]
              exact State.advance_self ..
            · rw [← stepped]
              exact .inside agrees.1 rfl rfl rfl events rfl decided

theorem Called.step {label : Label Call} (sound : contract.Sound state)
    (first : service.system.Reaches allowed started state) (isAllowed : allowed state label)
    (failing : label = .run id false → fails)
    (step : service.system.step state label = some next)
    (born : state.threads id = some thread)
    (decides : ∀ base, contract.Basic base → contract.Inv base →
      contract.Decides fails (demanded base) (rest true) base)
    (refusal : rest false = .unlock (.emit failure .done))
    (called : Called contract fails demanded failure allowed started id earlier rest state
      thread) :
    ∃ later, next.threads id = some later ∧
      Called contract fails demanded failure allowed started id earlier rest next later := by
  by_cases crashes : label = .crash
  · subst crashes
    rcases Option.some.inj step with rfl
    exact called.crash isAllowed born
  by_cases own : ∃ ok, label = .run id ok
  · rcases own with ⟨ok, rfl⟩
    have own_failing : ok = false → fails := by
      rintro rfl
      exact failing rfl
    cases called with
    | waits events alive =>
        exact Called.waits_step sound first own_failing step born decides refusal events alive
    | began opened closed begins afterwards decided =>
        obtain ⟨later, laterBorn, decided⟩ :=
          decided.own_step sound afterwards isAllowed own_failing step born
        exact ⟨later, laterBorn,
          .began opened closed begins (afterwards.tail ⟨_, isAllowed, step⟩) decided⟩
    | refused failed returning =>
        rcases returning.own_step step born with ⟨later, laterBorn, returning⟩
        exact ⟨later, laterBorn, .refused failed returning⟩
    | crashed lost => simp [Service.system, Service.step, born, lost] at step
  · have other : ∀ ok, label ≠ .run id ok := fun ok isOwn => own ⟨ok, isOwn⟩
    refine ⟨thread, sound.thread_stays step born other crashes, ?_⟩
    cases called with
    | waits events alive => exact .waits events alive
    | refused failed returning => exact .refused failed returning
    | crashed lost => exact .crashed lost
    | began opened closed begins afterwards decided =>
        exact .began opened closed begins (afterwards.tail ⟨_, isAllowed, step⟩)
          (decided.frame sound isAllowed step other crashes)

/-- What a call that is one transaction comes to, whatever the others do. -/
theorem called_of_reaches (reaches : service.system.Reaches allowed started state)
    (sounds : ∀ state, service.system.Reaches allowed started state → contract.Sound state)
    (failing : ∀ state, allowed state (.run id false) → fails)
    (born : started.threads id = some thread)
    (alive : thread.program = some (.lock (.begin rest)))
    (decides : ∀ base, contract.Basic base → contract.Inv base →
      contract.Decides fails (demanded base) (rest true) base)
    (refusal : rest false = .unlock (.emit failure .done)) :
    ∃ later, state.threads id = some later ∧
      Called contract fails demanded failure allowed started id thread.events rest state
        later := by
  induction reaches with
  | refl => exact ⟨thread, born, .waits rfl (.inl alive)⟩
  | tail before edge ih =>
      rcases edge with ⟨label, isAllowed, step⟩
      rcases ih with ⟨middle, middleBorn, called⟩
      refine called.step (sounds _ before) before isAllowed ?_ step middleBorn decides refusal
      rintro rfl
      exact failing _ isAllowed

end Calls

end OnlineJudge.Library.SharedConnection.Contract
