import OnlineJudge.Judge.Manager.Lifecycle

/-!
# Shutdown, and the service that every accepted task gets

`shutdown` sets two flags one after the other: `stopped_` ends acceptance and
`workers_stop_` lets a worker leave once the queue is empty. `StopOrder` is what the order
gives: behind `workers_stop_` nothing enters the queue any more, so a worker that has left
stays the last to look at it.

The main result puts this together with the life of an item: no accepted task is lost, none
is executed or answered twice, and none is left over when `shutdown` returns.
-/

namespace OnlineJudge.Judge

namespace JudgeManager

open Library Library.TransitionSystem

variable {config : Config} {callerCount : ℕ} {Outcome : Type} {errors : Errors Outcome}

section Moves

variable {state next : State config callerCount Outcome}
  {label : Label config callerCount Outcome}

/-- The caller is in `shutdown` and has just passed one of its actions. -/
def Caller.passed : Caller → Bool
  | .shutdownCancelled | .shutdownJoined | .shutdownLoaded _ => true
  | _ => false

/-- Where a step takes the caller that it moves, as far as `shutdown` is concerned. -/
inductive ShutdownMove (state next : State config callerCount Outcome)
    (label : Label config callerCount Outcome) (caller : Fin callerCount) : Caller → Prop where
  | outside {pc : Caller} (outside : pc.passed = false) : ShutdownMove state next label caller pc
  | cancelled (stopped : next.stopped = true) :
      ShutdownMove state next label caller .shutdownCancelled
  | joined (workersJoined : next.workersJoined = true) :
      ShutdownMove state next label caller .shutdownJoined
  | loaded (own : label = .caller caller) (before : state.callers caller = .shutdownJoined)
      (completed : next.completed = state.completed) :
      ShutdownMove state next label caller (.shutdownLoaded state.accepted)

theorem shutdownMove_update {caller mover : Fin callerCount} {pc : Caller}
    (callers : next.callers = Function.update state.callers mover pc)
    (move : ShutdownMove state next label mover pc) :
    next.callers caller = state.callers caller ∨
      ShutdownMove state next label caller (next.callers caller) := by
  rw [callers, Function.update_apply]
  split
  case isTrue same => exact .inr (same ▸ move)
  case isFalse => exact .inl rfl

theorem Transition.caller_cases (transition : Transition errors state label next)
    (caller : Fin callerCount) :
    next.callers caller = state.callers caller ∨
      ShutdownMove state next label caller (next.callers caller) := by
  cases transition with
  | reserveDenied | commitDenied | cancels | shutdownAgain | pops | exits | activates | starts
  | handlerEnds | completes | erases | delivers | deactivates => exact .inl rfl
  | shutdownCancels => exact shutdownMove_update rfl (.cancelled rfl)
  | shutdownJoins => exact shutdownMove_update rfl (.joined rfl)
  | shutdownLoads mover pc => exact shutdownMove_update rfl (.loaded rfl pc rfl)
  | releases | commitCancelled | commitQueued =>
      rw [releaseSlot_eq]
      exact shutdownMove_update rfl (.outside rfl)
  | commitReclaimed mover purpose =>
      rw [releaseSlot_eq]
      exact shutdownMove_update rfl (.outside (by cases purpose <;> rfl))
  | publishes mover purpose =>
      exact shutdownMove_update rfl (.outside (by cases purpose <;> rfl))
  | _ => exact shutdownMove_update rfl (.outside rfl)

theorem workers_update {worker mover : Fin config.workerCount} {pc : Worker Outcome}
    (workers : next.workers = Function.update state.workers mover pc)
    (before : state.workers mover ≠ .exited)
    (leaves : pc = .exited → next.workersStop = true ∧ next.queue = []) :
    next.workers worker = state.workers worker ∨ state.workers worker ≠ .exited ∧
      (next.workers worker = .exited → next.workersStop = true ∧ next.queue = []) := by
  rw [workers, Function.update_apply]
  split
  case isTrue same => exact .inr ⟨same ▸ before, leaves⟩
  case isFalse => exact .inl rfl

/-- A worker that has left does not move, and one leaves only where it is told to. -/
theorem Transition.worker_cases (transition : Transition errors state label next)
    (worker : Fin config.workerCount) :
    next.workers worker = state.workers worker ∨ state.workers worker ≠ .exited ∧
      (next.workers worker = .exited → next.workersStop = true ∧ next.queue = []) := by
  cases transition with
  | exits mover result pc empty stopping =>
      exact workers_update rfl (by simp [pc]) fun _ => ⟨stopping, empty⟩
  | pops mover _ _ _ pc | activates mover _ _ pc | starts mover _ _ pc | handlerEnds mover _ _ pc
  | completes mover _ _ _ pc | erases mover _ _ _ pc | delivers mover _ _ _ pc
  | deactivates mover _ pc =>
      refine workers_update rfl ?_ ?_
      · simp [pc]
      · simp
  | releases | commitReclaimed | commitCancelled | commitQueued =>
      rw [releaseSlot_eq]
      exact .inl rfl
  | _ => exact .inl rfl

/-- What a step keeps of an item, and when it may hand it back. -/
structure ItemMove (next : State config callerCount Outcome)
    (old new : Item config.workerCount Outcome) : Prop where
  cancelled : old.cancelled = true → new.cancelled = true
  reclaimed : new.stage = .reclaimed → old.stage = .reclaimed ∨ next.workersStop = true

theorem ItemMove.refl (item : Item config.workerCount Outcome) : ItemMove next item item where
  cancelled cancelled := cancelled
  reclaimed stage := .inl stage

theorem itemMove_update {moved : ItemId} {record : Item config.workerCount Outcome}
    (items : next.items = Function.update state.items moved record)
    (move : ItemMove next (state.items moved) record) (item : ItemId) :
    ItemMove next (state.items item) (next.items item) := by
  rw [items, Function.update_apply]
  split
  case isTrue same => exact same ▸ move
  case isFalse => exact .refl _

/-- Apart from the item that the step builds. -/
theorem Transition.item_cases (transition : Transition errors state label next) (item : ItemId) :
    (item = state.nextItem ∧ (next.items item).stage = .built) ∨
      ItemMove next (state.items item) (next.items item) := by
  have builds (task : SubmissionTask) (caller : Fin callerCount) (pc : Caller)
      (built : next = (state.buildItem task).setCaller caller pc) :
      (item = state.nextItem ∧ (next.items item).stage = .built) ∨
        ItemMove next (state.items item) (next.items item) := by
    by_cases new : item = state.nextItem
    · left
      simp [built, new, State.setCaller, State.buildItem]
    · right
      simpa [built, new, State.setCaller, State.buildItem] using ItemMove.refl _
  have sweeps (items : next.items = state.cancelAll.items) :
      ItemMove next (state.items item) (next.items item) := by
    rw [items, State.cancelAll]
    dsimp only
    split
    case isTrue => exact ⟨fun _ => rfl, .inl⟩
    case isFalse => exact .refl _
  cases transition with
  | submitBegins => exact builds _ _ _ rfl
  | commitBegins => exact builds _ _ _ rfl
  | cancels | shutdownCancels => exact .inr (sweeps rfl)
  | releases =>
      rw [releaseSlot_eq]
      exact .inr (.refl _)
  | commitReclaimed _ _ _ _ recycled =>
      rw [releaseSlot_eq]
      refine .inr (itemMove_update rfl ?_ item)
      exact ⟨fun _ => rfl, fun _ => .inr recycled⟩
  | commitCancelled =>
      rw [releaseSlot_eq]
      refine .inr (itemMove_update (Function.update_idem _ _ _) ?_ item)
      constructor
      · simp [State.cancelItem]
      · simp
  | commitQueued =>
      rw [releaseSlot_eq]
      refine .inr (itemMove_update rfl ?_ item)
      constructor
      · exact id
      · simp
  | submitRefused | submitAccepted | pops | delivers =>
      refine .inr (itemMove_update rfl ?_ item)
      constructor
      · exact id
      · simp
  | starts | handlerEnds =>
      refine .inr (itemMove_update rfl ?_ item)
      exact ⟨id, .inl⟩
  | _ => exact .inr (.refl _)

end Moves

/-- What the order of the two stop flags gives. -/
structure StopOrder (state : State config callerCount Outcome) : Prop where
  stopped : state.workersStop = true → state.stopped = true
  cancelled : ∀ caller, state.callers caller = .shutdownCancelled → state.stopped = true
  reclaimed : ∀ item, (state.items item).stage = .reclaimed → state.workersStop = true
  exited : ∀ worker, state.workers worker = .exited →
    state.workersStop = true ∧ state.queue = []
  joined : state.workersJoined = true → ∀ worker, state.workers worker = .exited
  loaded : ∀ caller, state.callers caller = .shutdownJoined ∨
    (∃ accepted, state.callers caller = .shutdownLoaded accepted) → state.workersJoined = true

namespace StopOrder

variable {state next : State config callerCount Outcome}
  {label : Label config callerCount Outcome}

theorem stopped_step (inv : StopOrder state) (transition : Transition errors state label next) :
    next.workersStop = true → next.stopped = true := by
  cases transition with
  | cancels | shutdownCancels => exact fun _ => rfl
  | shutdownStops caller pc => exact fun _ => inv.cancelled caller pc
  | releases | commitReclaimed | commitCancelled | commitQueued =>
      simpa [releaseSlot_eq] using inv.stopped
  | _ => exact inv.stopped

theorem stopped_mono (transition : Transition errors state label next)
    (stopped : state.stopped = true) : next.stopped = true := by
  cases transition with
  | cancels | shutdownCancels => rfl
  | releases | commitReclaimed | commitCancelled | commitQueued =>
      simpa [releaseSlot_eq] using stopped
  | _ => exact stopped

theorem workersStop_mono (transition : Transition errors state label next)
    (workersStop : state.workersStop = true) : next.workersStop = true := by
  cases transition with
  | shutdownStops => rfl
  | releases | commitReclaimed | commitCancelled | commitQueued =>
      simpa [releaseSlot_eq] using workersStop
  | _ => exact workersStop

theorem cancelled_step (inv : StopOrder state) (transition : Transition errors state label next)
    (caller : Fin callerCount) (pc : next.callers caller = .shutdownCancelled) :
    next.stopped = true := by
  rcases transition.caller_cases caller with same | move
  · exact stopped_mono transition (inv.cancelled caller (same ▸ pc))
  · rw [pc] at move
    cases move with
    | outside outside => cases outside
    | cancelled stopped => exact stopped

theorem reclaimed_step (inv : StopOrder state) (transition : Transition errors state label next)
    (item : ItemId) (stage : (next.items item).stage = .reclaimed) :
    next.workersStop = true := by
  rcases transition.item_cases item with ⟨-, built⟩ | move
  · rw [built] at stage
    cases stage
  · rcases move.reclaimed stage with before | workersStop
    · exact workersStop_mono transition (inv.reclaimed item before)
    · exact workersStop

/-- Once the workers may leave, nothing enters the queue. -/
theorem queue_step (inv : StopOrder state) (transition : Transition errors state label next)
    (workersStop : state.workersStop = true) (empty : state.queue = []) : next.queue = [] := by
  cases transition with
  | submitAccepted caller item pc running room =>
      have stopped := inv.stopped workersStop
      rw [running] at stopped
      cases stopped
  | commitCancelled caller purpose item pc open_ | commitQueued caller purpose item pc open_ =>
      rw [workersStop] at open_
      cases open_
  | pops worker result item rest pc nonempty =>
      rw [empty] at nonempty
      cases nonempty
  | releases | commitReclaimed => simpa [releaseSlot_eq] using empty
  | _ => exact empty

theorem exited_step (inv : StopOrder state) (transition : Transition errors state label next)
    (worker : Fin config.workerCount) (pc : next.workers worker = .exited) :
    next.workersStop = true ∧ next.queue = [] := by
  rcases transition.worker_cases worker with same | ⟨-, leaves⟩
  · rcases inv.exited worker (same ▸ pc) with ⟨workersStop, empty⟩
    exact ⟨workersStop_mono transition workersStop, inv.queue_step transition workersStop empty⟩
  · exact leaves pc

theorem worker_exited_mono (transition : Transition errors state label next)
    {worker : Fin config.workerCount} (exited : state.workers worker = .exited) :
    next.workers worker = .exited := by
  rcases transition.worker_cases worker with same | ⟨moves, -⟩
  · rw [same, exited]
  · exact absurd exited moves

theorem joined_step (inv : StopOrder state) (transition : Transition errors state label next)
    (joined : next.workersJoined = true) (worker : Fin config.workerCount) :
    next.workers worker = .exited := by
  by_cases before : state.workersJoined = true
  · exact worker_exited_mono transition (inv.joined before worker)
  · cases transition with
    | shutdownJoins caller pc exited => exact exited worker
    | _ => simp_all [releaseSlot_eq]

theorem workersJoined_mono (transition : Transition errors state label next)
    (joined : state.workersJoined = true) : next.workersJoined = true := by
  cases transition with
  | shutdownJoins => rfl
  | releases | commitReclaimed | commitCancelled | commitQueued =>
      simpa [releaseSlot_eq] using joined
  | _ => exact joined

theorem loaded_step (inv : StopOrder state) (transition : Transition errors state label next)
    (caller : Fin callerCount)
    (pc : next.callers caller = .shutdownJoined ∨
      ∃ accepted, next.callers caller = .shutdownLoaded accepted) :
    next.workersJoined = true := by
  rcases transition.caller_cases caller with same | move
  · exact workersJoined_mono transition (inv.loaded caller (same ▸ pc))
  · rcases pc with pc | ⟨accepted, pc⟩
    · rw [pc] at move
      cases move with
      | outside outside => cases outside
      | joined workersJoined => exact workersJoined
    · rw [pc] at move
      cases move with
      | outside outside => cases outside
      | loaded own before => exact workersJoined_mono transition (inv.loaded caller (.inl before))

theorem step (inv : StopOrder state) (transition : Transition errors state label next) :
    StopOrder next where
  stopped := inv.stopped_step transition
  cancelled := inv.cancelled_step transition
  reclaimed := inv.reclaimed_step transition
  exited := inv.exited_step transition
  joined := inv.joined_step transition
  loaded := inv.loaded_step transition

theorem initial : StopOrder (State.initial config callerCount Outcome) where
  stopped workersStop := workersStop
  cancelled _ pc := nomatch pc
  reclaimed _ stage := nomatch stage
  exited _ pc := nomatch pc
  joined joined := nomatch joined
  loaded _ pc := by simp [State.initial] at pc

theorem of_reaches
    {allowed : State config callerCount Outcome → Label config callerCount Outcome → Prop}
    (reaches : (system config callerCount errors).Reaches allowed
      (State.initial config callerCount Outcome) state) : StopOrder state :=
  invariant_of_transition reaches initial fun _ _ _ _ inv _ => inv.step

end StopOrder

/-- The handler was called once and its result delivered once, or the task was committed after
the workers were told to leave and got the outcome that says so. -/
def Item.Served (errors : Errors Outcome) (item : Item config.workerCount Outcome) : Prop :=
  (item.started = 1 ∧
      ∃ result, item.results = [result] ∧ item.promise = [errors.outcomeOf result]) ∨
    (item.stage = .reclaimed ∧ item.started = 0 ∧ item.results = [] ∧
      item.promise = [errors.reclaimedOutcome])

/-- Nothing was delivered yet, and the handler was called at most once. -/
def Item.Pending (item : Item config.workerCount Outcome) : Prop :=
  item.promise = [] ∧ item.started ≤ 1 ∧ item.results.length ≤ item.started

/-- What has been promised to the caller of an item is not taken back. -/
def Item.Continues (item later : Item config.workerCount Outcome) : Prop :=
  (item.stage.Accepted → later.stage.Accepted) ∧ item.promise <+: later.promise ∧
    ∀ status, item.stage = .refused status → later.stage = .refused status

/-- Where the accepted tasks are, and that refused tasks are left alone. -/
structure ServesAccepted (errors : Errors Outcome) (state : State config callerCount Outcome) :
    Prop where
  accepted : ∀ item, (state.items item).stage.Accepted →
    (state.items item).Served errors ∨
      ((state.items item).Pending ∧
        (item ∈ state.queue ∨ ∃ worker, (state.workers worker).item? = some item))
  reclaimed : ∀ item, (state.items item).stage = .reclaimed → state.workersStop = true
  refused : ∀ item status, (state.items item).stage = .refused status →
    (state.items item).started = 0 ∧ (state.items item).promise = []

variable {state next : State config callerCount Outcome}
  {label : Label config callerCount Outcome}

/-- A worker that holds an item has called the handler at most once for it. -/
theorem Lifecycle.held_pending (inv : Lifecycle errors state) {worker : Fin config.workerCount}
    {item : ItemId} (holds : (state.workers worker).item? = some item) :
    (state.items item).Pending := by
  have promise := inv.item_consistent item
  rw [Item.Consistent, (inv.held worker item).mp holds] at promise
  have history := inv.worker_consistent worker
  refine ⟨promise, ?_⟩
  cases pc : state.workers worker with
  | waiting | delivered | exited =>
      rw [pc] at holds
      cases holds
  | popped moved | starting moved | running moved =>
      rw [pc] at holds history
      cases holds
      simp [history.1, history.2]
  | returned moved outcome | completed moved outcome | erased moved outcome =>
      rw [pc] at holds history
      cases holds
      rcases history with ⟨started, result, results, _⟩
      simp [started, results]

theorem servesAccepted (inv : Lifecycle errors state) (order : StopOrder state) :
    ServesAccepted errors state where
  accepted item accepted := by
    have consistent := inv.item_consistent item
    cases stage : (state.items item).stage with
    | unborn | built | refused =>
        rw [stage] at accepted
        exact accepted.elim
    | queued =>
        rw [Item.Consistent, stage] at consistent
        refine .inr ⟨⟨consistent.1, ?_⟩, .inl ((inv.mem_queue item).mpr stage)⟩
        simp [consistent.2]
    | held worker =>
        have holds := (inv.held worker item).mpr stage
        exact .inr ⟨inv.held_pending holds, .inr ⟨worker, holds⟩⟩
    | delivered =>
        rw [Item.Consistent, stage] at consistent
        exact .inl (.inl consistent)
    | reclaimed =>
        rw [Item.Consistent, stage] at consistent
        exact .inl (.inr ⟨stage, consistent.2.1, consistent.2.2, consistent.1⟩)
  reclaimed := order.reclaimed
  refused item status stage := by
    have consistent := inv.item_consistent item
    rw [Item.Consistent, stage] at consistent
    exact ⟨consistent.2.1, consistent.1⟩

/-- With nothing queued and nothing held, every accepted task is served. -/
theorem ServesAccepted.all_served (serves : ServesAccepted errors state)
    (empty : state.queue = []) (free : ∀ worker, (state.workers worker).item? = none)
    (item : ItemId) (accepted : (state.items item).stage.Accepted) :
    (state.items item).Served errors := by
  rcases serves.accepted item accepted with served | ⟨_, queued | ⟨worker, holds⟩⟩
  · exact served
  · rw [empty] at queued
    cases queued
  · rw [free] at holds
    cases holds

theorem Item.Continues.of_same {item later : Item config.workerCount Outcome}
    (stage : later.stage = item.stage) (promise : later.promise = item.promise) :
    item.Continues later := by
  rw [Item.Continues, stage, promise]
  exact ⟨id, List.prefix_rfl, fun _ => id⟩

theorem Item.Continues.refl (item : Item config.workerCount Outcome) : item.Continues item :=
  .of_same rfl rfl

theorem continues_update {moved : ItemId} {record : Item config.workerCount Outcome}
    (items : next.items = Function.update state.items moved record)
    (continues : (state.items moved).Continues record) (item : ItemId) :
    (state.items item).Continues (next.items item) := by
  rw [items, Function.update_apply]
  split
  case isTrue isMoved => exact isMoved ▸ continues
  case isFalse => exact .refl _

/-- An item that is still with its builder has been promised nothing. -/
theorem Lifecycle.continues_of_unpromised (inv : Lifecycle errors state) {item : ItemId}
    (stage : (state.items item).stage = .unborn ∨ (state.items item).stage = .built)
    (later : Item config.workerCount Outcome) : (state.items item).Continues later := by
  have consistent := inv.item_consistent item
  rcases stage with stage | stage
  all_goals
    rw [Item.Consistent, stage] at consistent
    simp [Item.Continues, stage, Stage.Accepted, consistent.1]

theorem Lifecycle.continues_step (inv : Lifecycle errors state)
    (transition : Transition errors state label next) (item : ItemId) :
    (state.items item).Continues (next.items item) := by
  have built : ∀ caller moved, (state.callers caller).building? = some moved →
      ∀ later, (state.items moved).Continues later := by
    intro caller moved isBuilding
    exact inv.continues_of_unpromised (.inr (inv.building caller moved isBuilding))
  cases transition with
  | submitBegins | commitBegins =>
      exact continues_update rfl
        (inv.continues_of_unpromised (.inl (inv.fresh _ (Nat.le_refl _))) _) item
  | submitRefused caller moved status pc | submitAccepted caller moved pc =>
      exact continues_update rfl (built caller moved (by rw [pc]; rfl) _) item
  | commitReclaimed caller purpose moved pc | commitQueued caller purpose moved pc =>
      rw [releaseSlot_eq]
      exact continues_update rfl (built caller moved (by rw [pc]; rfl) _) item
  | commitCancelled caller purpose moved pc =>
      rw [releaseSlot_eq]
      exact continues_update (Function.update_idem _ _ _)
        (built caller moved (by rw [pc]; rfl) _) item
  | releases =>
      rw [releaseSlot_eq]
      exact .refl _
  | cancels | shutdownCancels =>
      simp only [State.setCaller, State.cancelAll]
      split
      · exact .of_same rfl rfl
      · exact .refl _
  | pops worker result moved rest pc nonempty =>
      have queued : (state.items moved).stage = .queued := by
        rw [← inv.mem_queue, nonempty]
        exact List.mem_cons_self
      refine continues_update rfl ⟨fun _ => ?_, ?_, fun status refused => ?_⟩ item
      · trivial
      · exact List.prefix_rfl
      · rw [queued] at refused
        cases refused
  | starts | handlerEnds =>
      refine continues_update rfl ?_ item
      exact .of_same rfl rfl
  | delivers worker result moved outcome pc =>
      have isHeld : (state.items moved).stage = .held worker := by
        rw [← inv.held, pc]
        rfl
      refine continues_update rfl ⟨fun _ => ?_, ?_, fun status refused => ?_⟩ item
      · trivial
      · exact List.prefix_append _ _
      · rw [isHeld] at refused
        cases refused
  | _ => exact .refl _

/-! ## Progress of the workers -/

/-- The label is a step of some worker. -/
def Label.OfWorker : Label config callerCount Outcome → Prop
  | .worker _ _ => True
  | _ => False

/-- The steps that a worker still takes for the item it holds, and to leave. -/
def Worker.remainingSteps : Worker Outcome → ℕ
  | .exited => 0
  | .waiting => 1
  | .delivered => 2
  | .erased _ _ => 3
  | .completed _ _ => 4
  | .returned _ _ => 5
  | .running _ => 6
  | .starting _ => 7
  | .popped _ => 8

/-- A bound on the worker steps that are possible when nobody adds work. -/
def State.remainingWork (state : State config callerCount Outcome) : ℕ :=
  total Worker.remainingSteps state.workers + 8 * state.queue.length

theorem remainingWork_lt {worker : Fin config.workerCount} {pc : Worker Outcome}
    (workers : next.workers = Function.update state.workers worker pc)
    (fewer : pc.remainingSteps + 8 * next.queue.length <
      (state.workers worker).remainingSteps + 8 * state.queue.length) :
    next.remainingWork < state.remainingWork := by
  have moved := total_update Worker.remainingSteps state.workers worker pc
  simp only [State.remainingWork, workers]
  omega

/-- Every worker step uses up some of the remaining work. -/
theorem remainingWork_step (ofWorker : label.OfWorker)
    (transition : Transition errors state label next) :
    next.remainingWork < state.remainingWork := by
  cases transition with
  | pops worker result item rest pc nonempty =>
      refine remainingWork_lt rfl ?_
      simp only [pc, Worker.remainingSteps, nonempty, State.setWorker, List.length_cons]
      omega
  | exits worker result pc | activates worker result item pc | starts worker result item pc
  | handlerEnds worker result item pc | completes worker result item outcome pc
  | erases worker result item outcome pc | delivers worker result item outcome pc
  | deactivates worker result pc =>
      refine remainingWork_lt rfl ?_
      simp only [pc, Worker.remainingSteps, State.setWorker, State.modifyItem]
      omega
  | _ => exact ofWorker.elim

/-- As long as a worker has not left or something is queued, some worker can step. -/
theorem idle_of_no_worker_step (order : StopOrder state)
    (noStep : ∀ worker result, step errors state (.worker worker result) = none) :
    state.queue = [] ∧ ∀ worker, (state.workers worker).item? = none := by
  have pcs : ∀ worker, state.workers worker = .exited ∨
      (state.workers worker = .waiting ∧ state.queue = []) := by
    intro worker
    have stuck := noStep worker (.threw none)
    simp only [step, workerStep] at stuck
    cases pc : state.workers worker with
    | exited => exact .inl rfl
    | waiting =>
        cases queue : state.queue with
        | nil => exact .inr ⟨rfl, rfl⟩
        | cons => simp [pc, queue] at stuck
    | _ => simp [pc] at stuck
  refine ⟨?_, fun worker => ?_⟩
  · rcases pcs ⟨0, config.workerCount_pos⟩ with exited | ⟨_, empty⟩
    · exact (order.exited _ exited).2
    · exact empty
  · rcases pcs worker with exited | ⟨waiting, _⟩
    · rw [exited]
      rfl
    · rw [waiting]
      rfl

/-! ## The result -/

/-- The call whose next step this is returns from `shutdown` with that step. -/
def ReturnsFromShutdown (state : State config callerCount Outcome) :
    Label config callerCount Outcome → Prop
  | .shutdown caller => state.callers caller = .idle ∧ state.workersJoined = true
  | .caller caller => ∃ accepted, state.callers caller = .shutdownLoaded accepted
  | _ => False

/-- In every reachable state every accepted task is served or on its way, and a refused one
is left alone; no step takes back what was promised; when `shutdown` returns, everything is
served; and the workers, when they run on, serve everything after finitely many steps. -/
theorem accepted_tasks_served_exactly_once (reachable : Reachable errors state) :
    ServesAccepted errors state ∧
    (∀ label next, step errors state label = some next →
      (∀ item, (state.items item).Continues (next.items item)) ∧
      (ReturnsFromShutdown state label →
        next.queue = [] ∧ (∀ worker, next.workers worker = .exited) ∧
          ∀ item, (next.items item).stage.Accepted → (next.items item).Served errors)) ∧
    ∀ schedule final, (∀ label ∈ schedule, Label.OfWorker label) →
      (system config callerCount errors).run state schedule = some final →
      schedule.length ≤ state.remainingWork ∧
      ((∀ worker result, step errors final (.worker worker result) = none) →
        ∀ item, (final.items item).stage.Accepted → (final.items item).Served errors) := by
  have inv := Lifecycle.of_reaches reachable
  have order := StopOrder.of_reaches reachable
  refine ⟨servesAccepted inv order, ?_, ?_⟩
  · intro label next enabled
    have transition : Transition errors state label next := .of_step enabled
    have inv' := inv.step transition
    have order' := order.step transition
    refine ⟨inv.continues_step transition, fun returns => ?_⟩
    have joined : state.workersJoined = true := by
      cases label with
      | shutdown caller => exact returns.2
      | caller caller => exact order.loaded caller (.inr returns)
      | _ => exact returns.elim
    have exited := order'.joined (StopOrder.workersJoined_mono transition joined)
    have empty := (order'.exited _ (exited ⟨0, config.workerCount_pos⟩)).2
    refine ⟨empty, exited, (servesAccepted inv' order').all_served empty fun worker => ?_⟩
    rw [exited]
    rfl
  · intro schedule final ofWorker execution
    have bounded : schedule.length + final.remainingWork ≤ state.remainingWork :=
      length_add_measure_le (fun _ _ _ ofWorker enabled =>
        remainingWork_step ofWorker (.of_step enabled)) (admits_of_forall_mem ofWorker state)
        execution
    refine ⟨by omega, fun noStep => ?_⟩
    have reached : Reachable errors final :=
      Reaches.trans reachable (reaches_of_run (admits_unrestricted schedule state) execution)
    have order' := StopOrder.of_reaches reached
    rcases idle_of_no_worker_step order' noStep with ⟨empty, free⟩
    exact (servesAccepted (Lifecycle.of_reaches reached) order').all_served empty free

/-- A caller submits one task, gets its result and shuts the scheduler down. -/
def oneTaskSchedule : List (Label Config.smallest 1 String) :=
  [.submit 0 State.emptyTask, .caller 0, .caller 0] ++
    List.replicate 8 (.worker ⟨0, Nat.one_pos⟩ (.returned "AC")) ++
    [.caller 0, .shutdown 0, .caller 0, .caller 0, .worker ⟨0, Nat.one_pos⟩ (.threw none),
      .caller 0, .caller 0]

theorem accepted_tasks_served_exactly_once_oneTask :
    ∃ state next : State Config.smallest 1 String,
      Reachable ⟨id⟩ state ∧ step ⟨id⟩ state (.caller 0) = some next ∧
        (next.items 0).promise = ["AC"] ∧ next.queue = [] ∧ (next.items 0).Served ⟨id⟩ := by
  have execution : (system Config.smallest 1 ⟨id⟩).run (State.initial Config.smallest 1 String)
      oneTaskSchedule = some _ := rfl
  have reachable : Reachable ⟨id⟩ _ := reaches_of_run (admits_unrestricted _ _) execution
  have served := (accepted_tasks_served_exactly_once reachable).2.1 (.caller 0) _ rfl
  rcases served.2 ⟨1, rfl⟩ with ⟨empty, _, allServed⟩
  exact ⟨_, _, reachable, rfl, rfl, empty, allServed 0 trivial⟩

end JudgeManager

end OnlineJudge.Judge
