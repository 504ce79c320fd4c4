import OnlineJudge.Judge.Manager

/-!
# What one step of the scheduler can do

`step` is a function of a label, for execution. Proofs use the relation `Transition`
instead: one constructor for each branch of the source that changes something, with the
guards of the branch and the state after it. Every invariant is a case analysis on it.
-/

namespace OnlineJudge.Judge

namespace JudgeManager

variable {config : Config} {callerCount : ℕ} {Outcome : Type} {errors : Errors Outcome}

attribute [simp] State.setCaller State.setWorker State.modifyItem State.enqueue
  State.cancelItem State.cancelAll State.buildItem

/-- The queue has room for one more item, counting the reserved slots. -/
def State.HasRoom (state : State config callerCount Outcome) : Prop :=
  state.queue.length + state.reserved < config.queueCapacity

theorem releaseSlot_eq (state : State config callerCount Outcome) :
    state.releaseSlot = { state with reserved := state.reserved - 1 } := by
  simp only [State.releaseSlot]
  split
  · rfl
  case isFalse noneReserved =>
    have stays : state.reserved - 1 = state.reserved := by omega
    rw [stays]

/-- The branches of the source, with their guards and effects. -/
inductive Transition (errors : Errors Outcome) (state : State config callerCount Outcome) :
    Label config callerCount Outcome → State config callerCount Outcome → Prop where
  -- calls of `submit`
  | submitBegins (caller : Fin callerCount) (task : SubmissionTask)
      (pc : state.callers caller = .idle) :
      Transition errors state (.submit caller task)
        ((state.buildItem task).setCaller caller (.submitting state.nextItem))
  | submitRefused (caller : Fin callerCount) (item : ItemId) (status : EnqueueStatus)
      (pc : state.callers caller = .submitting item) (notAccepted : status ≠ .accepted) :
      Transition errors state (.caller caller)
        ((state.modifyItem item fun old => { old with stage := .refused status }).setCaller
          caller .idle)
  | submitAccepted (caller : Fin callerCount) (item : ItemId)
      (pc : state.callers caller = .submitting item) (running : state.stopped = false)
      (room : state.HasRoom) :
      Transition errors state (.caller caller)
        ((state.enqueue item).setCaller caller (.publishing .handleAdminRejudge item))
  -- reservations
  | reserveDenied (caller : Fin callerCount) (purpose : Purpose) :
      Transition errors state (.reserve caller purpose) state
  | commitDenied (caller : Fin callerCount) (reservation : Reservation) :
      Transition errors state (.commitRefused caller reservation) state
  | reserves (caller : Fin callerCount) (purpose : Purpose)
      (pc : state.callers caller = .idle) (room : state.HasRoom) :
      Transition errors state (.reserve caller purpose)
        (State.setCaller { state with reserved := state.reserved + 1 } caller
          (.reserved purpose))
  | releases (caller : Fin callerCount) (outcome : State.ReservedOutcome)
      (task : SubmissionTask) (purpose : Purpose)
      (pc : state.callers caller = .reserved purpose) :
      Transition errors state (.resume caller outcome task)
        (state.releaseSlot.setCaller caller .idle)
  | commitBegins (caller : Fin callerCount) (outcome : State.ReservedOutcome)
      (task : SubmissionTask) (purpose : Purpose)
      (pc : state.callers caller = .reserved purpose) :
      Transition errors state (.resume caller outcome task)
        ((state.buildItem task).setCaller caller (.committing purpose state.nextItem))
  | commitReclaimed (caller : Fin callerCount) (purpose : Purpose) (item : ItemId)
      (pc : state.callers caller = .committing purpose item)
      (recycled : state.workersStop = true) :
      Transition errors state (.caller caller)
        ((state.releaseSlot.modifyItem item fun old =>
          { State.cancelItem old with
            promise := old.promise ++ [errors.reclaimedOutcome]
            stage := .reclaimed }).setCaller caller (State.afterPublishing purpose item))
  | commitCancelled (caller : Fin callerCount) (purpose : Purpose) (item : ItemId)
      (pc : state.callers caller = .committing purpose item)
      (open_ : state.workersStop = false) (stopping : state.stopped = true) :
      Transition errors state (.caller caller)
        (((state.releaseSlot.modifyItem item State.cancelItem).enqueue item).setCaller caller
          (.publishing purpose item))
  | commitQueued (caller : Fin callerCount) (purpose : Purpose) (item : ItemId)
      (pc : state.callers caller = .committing purpose item)
      (open_ : state.workersStop = false) (running : state.stopped = false) :
      Transition errors state (.caller caller)
        ((state.releaseSlot.enqueue item).setCaller caller (.publishing purpose item))
  | publishes (caller : Fin callerCount) (purpose : Purpose) (item : ItemId)
      (pc : state.callers caller = .publishing purpose item) :
      Transition errors state (.caller caller)
        (State.setCaller { state with accepted := state.accepted + 1 } caller
          (State.afterPublishing purpose item))
  | receives (caller : Fin callerCount) (item : ItemId)
      (pc : state.callers caller = .awaiting item)
      (ready : (state.items item).promise ≠ []) :
      Transition errors state (.caller caller) (state.setCaller caller .idle)
  -- `cancel_all` and `shutdown`
  | cancels : Transition errors state .cancelAll state.cancelAll
  | shutdownBegins (caller : Fin callerCount) (pc : state.callers caller = .idle)
      (free : state.shutdownOwner = none) (first : state.workersJoined = false) :
      Transition errors state (.shutdown caller)
        (State.setCaller { state with shutdownOwner := some caller } caller .shutdownEntered)
  | shutdownAgain (caller : Fin callerCount) (joined : state.workersJoined = true) :
      Transition errors state (.shutdown caller) state
  | shutdownCancels (caller : Fin callerCount) (pc : state.callers caller = .shutdownEntered) :
      Transition errors state (.caller caller)
        (state.cancelAll.setCaller caller .shutdownCancelled)
  | shutdownStops (caller : Fin callerCount) (pc : state.callers caller = .shutdownCancelled) :
      Transition errors state (.caller caller)
        (State.setCaller { state with workersStop := true } caller .shutdownJoining)
  | shutdownJoins (caller : Fin callerCount) (pc : state.callers caller = .shutdownJoining)
      (joined : ∀ worker, state.workers worker = .exited) :
      Transition errors state (.caller caller)
        (State.setCaller { state with workersJoined := true } caller .shutdownJoined)
  | shutdownLoads (caller : Fin callerCount) (pc : state.callers caller = .shutdownJoined) :
      Transition errors state (.caller caller)
        (state.setCaller caller (.shutdownLoaded state.accepted))
  | shutdownReturns (caller : Fin callerCount) (accepted : ℕ)
      (pc : state.callers caller = .shutdownLoaded accepted) :
      Transition errors state (.caller caller)
        (State.setCaller
          { state with
            shutdownOwner := none
            shutdownReports := state.shutdownReports ++ [(accepted, state.completed)] }
          caller .idle)
  -- `worker_loop`
  | pops (worker : Fin config.workerCount) (result : HandlerResult Outcome) (item : ItemId)
      (rest : List ItemId) (pc : state.workers worker = .waiting)
      (nonempty : state.queue = item :: rest) :
      Transition errors state (.worker worker result)
        (State.setWorker
          { state.modifyItem item (fun old => { old with stage := .held worker }) with
            queue := rest
            activeItems := insert item state.activeItems }
          worker (.popped item))
  | exits (worker : Fin config.workerCount) (result : HandlerResult Outcome)
      (pc : state.workers worker = .waiting) (empty : state.queue = [])
      (stopping : state.workersStop = true) :
      Transition errors state (.worker worker result) (state.setWorker worker .exited)
  | activates (worker : Fin config.workerCount) (result : HandlerResult Outcome) (item : ItemId)
      (pc : state.workers worker = .popped item) :
      Transition errors state (.worker worker result)
        (State.setWorker { state with active := state.active + 1 } worker (.starting item))
  | starts (worker : Fin config.workerCount) (result : HandlerResult Outcome) (item : ItemId)
      (pc : state.workers worker = .starting item) :
      Transition errors state (.worker worker result)
        ((state.modifyItem item fun old => { old with started := old.started + 1 }).setWorker
          worker (.running item))
  | handlerEnds (worker : Fin config.workerCount) (result : HandlerResult Outcome)
      (item : ItemId) (pc : state.workers worker = .running item) :
      Transition errors state (.worker worker result)
        ((state.modifyItem item fun old =>
          { old with results := old.results ++ [result] }).setWorker
          worker (.returned item (errors.outcomeOf result)))
  | completes (worker : Fin config.workerCount) (result : HandlerResult Outcome)
      (item : ItemId) (outcome : Outcome) (pc : state.workers worker = .returned item outcome) :
      Transition errors state (.worker worker result)
        (State.setWorker { state with completed := state.completed + 1 } worker
          (.completed item outcome))
  | erases (worker : Fin config.workerCount) (result : HandlerResult Outcome)
      (item : ItemId) (outcome : Outcome) (pc : state.workers worker = .completed item outcome) :
      Transition errors state (.worker worker result)
        (State.setWorker { state with activeItems := state.activeItems.erase item } worker
          (.erased item outcome))
  | delivers (worker : Fin config.workerCount) (result : HandlerResult Outcome)
      (item : ItemId) (outcome : Outcome) (pc : state.workers worker = .erased item outcome) :
      Transition errors state (.worker worker result)
        ((state.modifyItem item fun old =>
          { old with promise := old.promise ++ [outcome], stage := .delivered }).setWorker
          worker .delivered)
  | deactivates (worker : Fin config.workerCount) (result : HandlerResult Outcome)
      (pc : state.workers worker = .delivered) :
      Transition errors state (.worker worker result)
        (State.setWorker { state with active := state.active - 1 } worker .waiting)

namespace Transition

variable {state next : State config callerCount Outcome}
  {label : Label config callerCount Outcome}

theorem of_workerStep {worker : Fin config.workerCount} {result : HandlerResult Outcome}
    (step : workerStep errors state worker result = some next) :
    Transition errors state (.worker worker result) next := by
  unfold workerStep at step
  split at step
  case h_1 pc =>
    split at step
    case h_1 item rest nonempty =>
      cases step
      exact .pops worker result item rest pc nonempty
    case h_2 empty =>
      split at step
      case isTrue stopping =>
        cases step
        exact .exits worker result pc empty stopping
      case isFalse => cases step
  case h_9 => cases step
  all_goals cases step
  case h_2 item pc => exact .activates worker result item pc
  case h_3 item pc => exact .starts worker result item pc
  case h_4 item pc => exact .handlerEnds worker result item pc
  case h_5 item outcome pc => exact .completes worker result item outcome pc
  case h_6 item outcome pc => exact .erases worker result item outcome pc
  case h_7 item outcome pc => exact .delivers worker result item outcome pc
  case h_8 pc => exact .deactivates worker result pc

theorem of_submitLocked {caller : Fin callerCount} {item : ItemId}
    (pc : state.callers caller = .submitting item)
    (step : callerStep errors state caller = some next) :
    Transition errors state (.caller caller) next := by
  simp only [callerStep, pc, State.submitLocked] at step
  by_cases stopping : state.stopped = true
  · rw [if_pos stopping] at step
    cases step
    exact .submitRefused caller item .stopped pc (by decide)
  rw [if_neg stopping] at step
  by_cases full : state.queue.length + state.reserved ≥ config.queueCapacity
  · rw [if_pos full] at step
    cases step
    exact .submitRefused caller item .queueFull pc (by decide)
  · rw [if_neg full] at step
    cases step
    exact .submitAccepted caller item pc (Bool.eq_false_of_not_eq_true stopping)
      (Nat.lt_of_not_le full)

theorem of_commitLocked {caller : Fin callerCount} {purpose : Purpose} {item : ItemId}
    (pc : state.callers caller = .committing purpose item)
    (step : callerStep errors state caller = some next) :
    Transition errors state (.caller caller) next := by
  have workersStop_eq : state.releaseSlot.workersStop = state.workersStop := by
    simp only [State.releaseSlot]
    split <;> rfl
  have stopped_eq : state.releaseSlot.stopped = state.stopped := by
    simp only [State.releaseSlot]
    split <;> rfl
  simp only [callerStep, pc, State.commitLocked, workersStop_eq, stopped_eq] at step
  by_cases recycled : state.workersStop = true
  · rw [if_pos recycled] at step
    cases step
    exact .commitReclaimed caller purpose item pc recycled
  rw [if_neg recycled] at step
  have open_ := Bool.eq_false_of_not_eq_true recycled
  by_cases stopping : state.stopped = true
  · rw [if_pos stopping] at step
    cases step
    exact .commitCancelled caller purpose item pc open_ stopping
  · rw [if_neg stopping] at step
    cases step
    exact .commitQueued caller purpose item pc open_ (Bool.eq_false_of_not_eq_true stopping)

theorem of_callerStep {caller : Fin callerCount}
    (step : callerStep errors state caller = some next) :
    Transition errors state (.caller caller) next := by
  cases pc : state.callers caller with
  | idle => simp [callerStep, pc] at step
  | submitting item => exact of_submitLocked pc step
  | reserved purpose => simp [callerStep, pc] at step
  | committing purpose item => exact of_commitLocked pc step
  | publishing purpose item =>
      simp only [callerStep, pc] at step
      cases step
      exact .publishes caller purpose item pc
  | awaiting item =>
      simp only [callerStep, pc] at step
      split at step
      case isTrue => cases step
      case isFalse ready =>
        cases step
        exact .receives caller item pc ready
  | shutdownEntered =>
      simp only [callerStep, pc] at step
      cases step
      exact .shutdownCancels caller pc
  | shutdownCancelled =>
      simp only [callerStep, pc] at step
      cases step
      exact .shutdownStops caller pc
  | shutdownJoining =>
      simp only [callerStep, pc] at step
      split at step
      case isTrue joined =>
        cases step
        refine .shutdownJoins caller pc fun worker => ?_
        have exited := joined worker
        split at exited
        · assumption
        · cases exited
      case isFalse => cases step
  | shutdownJoined =>
      simp only [callerStep, pc] at step
      cases step
      exact .shutdownLoads caller pc
  | shutdownLoaded accepted =>
      simp only [callerStep, pc] at step
      cases step
      exact .shutdownReturns caller accepted pc

/-- A reservation is granted exactly when a slot is taken. -/
theorem reserve_cases (state : State config callerCount Outcome) :
    (state.reserve.1.ok = false ∧ state.reserve.2 = state) ∨
      (state.reserve.1.ok = true ∧ state.HasRoom ∧
        state.reserve.2 = { state with reserved := state.reserved + 1 }) := by
  by_cases stopping : state.stopped = true
  · left
    simp [State.reserve, stopping]
  by_cases full : state.queue.length + state.reserved ≥ config.queueCapacity
  · left
    simp [State.reserve, stopping, full]
  · right
    simp [State.reserve, stopping, full, State.HasRoom, Nat.lt_of_not_le full]

theorem of_reserve {caller : Fin callerCount} {purpose : Purpose}
    (step : JudgeManager.step errors state (.reserve caller purpose) = some next) :
    Transition errors state (.reserve caller purpose) next := by
  cases pc : state.callers caller <;> simp only [JudgeManager.step, pc] at step
  case idle =>
    rcases reserve_cases state with ⟨denied, same⟩ | ⟨granted, room, taken⟩
    · simp only [denied, same] at step
      cases step
      exact .reserveDenied caller purpose
    · simp only [granted, taken, if_true] at step
      cases step
      exact .reserves caller purpose pc room
  all_goals cases step

theorem of_resume {caller : Fin callerCount} {outcome : State.ReservedOutcome}
    {task : SubmissionTask}
    (step : JudgeManager.step errors state (.resume caller outcome task) = some next) :
    Transition errors state (.resume caller outcome task) next := by
  cases pc : state.callers caller <;> simp only [JudgeManager.step, pc] at step
  case reserved purpose =>
    split at step
    case isTrue =>
      cases step
      exact .commitBegins caller outcome task purpose pc
    case isFalse =>
      cases step
      exact .releases caller outcome task purpose pc
  all_goals cases step

theorem of_shutdown {caller : Fin callerCount}
    (step : JudgeManager.step errors state (.shutdown caller) = some next) :
    Transition errors state (.shutdown caller) next := by
  cases pc : state.callers caller <;> simp only [JudgeManager.step, pc] at step
  case idle =>
    by_cases owned : state.shutdownOwner.isSome = true
    · rw [if_pos owned] at step
      cases step
    rw [if_neg owned] at step
    by_cases joined : state.workersJoined = true
    · rw [if_pos joined] at step
      cases step
      exact .shutdownAgain caller joined
    · rw [if_neg joined] at step
      cases step
      exact .shutdownBegins caller pc (by simpa using owned)
        (Bool.eq_false_of_not_eq_true joined)
  all_goals cases step

/-- Every step of the system is one of the branches. -/
theorem of_step (step : (system config callerCount errors).step state label = some next) :
    Transition errors state label next := by
  cases label with
  | submit caller task =>
      cases pc : state.callers caller <;> simp only [system, JudgeManager.step, pc] at step
      case idle =>
        cases step
        exact .submitBegins caller task pc
      all_goals cases step
  | reserve caller purpose => exact of_reserve step
  | resume caller outcome task => exact of_resume step
  | commitRefused caller reservation =>
      cases pc : state.callers caller <;> simp only [system, JudgeManager.step, pc] at step
      case idle =>
        split at step
        · cases step
        · cases step
          exact .commitDenied caller reservation
      all_goals cases step
  | caller caller => exact of_callerStep step
  | cancelAll =>
      cases step
      exact .cancels
  | shutdown caller => exact of_shutdown step
  | worker worker result => exact of_workerStep step

end Transition

/-- What holds after the constructor and is kept by every branch whose label is allowed holds
in every state of such a run. -/
theorem invariant_of_transition
    {allowed : State config callerCount Outcome → Label config callerCount Outcome → Prop}
    {inv : State config callerCount Outcome → Prop} {state : State config callerCount Outcome}
    (reaches : (system config callerCount errors).Reaches allowed
      (State.initial config callerCount Outcome) state)
    (initially : inv (State.initial config callerCount Outcome))
    (preserved : ∀ state label next,
      (system config callerCount errors).Reaches allowed
        (State.initial config callerCount Outcome) state →
      inv state → allowed state label → Transition errors state label next → inv next) :
    inv state :=
  reaches.invariant initially fun state label next before holds labelAllowed step =>
    preserved state label next before holds labelAllowed (.of_step step)

end JudgeManager

end OnlineJudge.Judge
