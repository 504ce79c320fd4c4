import Mathlib.Data.Finset.Insert
import Mathlib.Logic.Function.Basic
import OnlineJudge.Library.TransitionSystem
import OnlineJudge.Judge.Result

/-!
# The judge scheduler

`JudgeManager` owns a bounded queue, a fixed set of workers and a count of
reserved slots. The model is an interleaving system: every critical section of
`mutex_` and every operation on an atomic is one step. A thread is a program
counter that names the step it takes next. The condition variable `not_empty_`
is its predicate: a waiting worker can step exactly when the predicate holds,
which is what `wait` with a predicate promises once every change of the
predicate is followed by a notification.

Callers are the code that uses the scheduler: `HttpServer::handle_submit` and
`RecoveryService::run` reserve a slot and then commit or release it, and
`HttpServer::handle_admin_rejudge` submits directly. Any number of them may run,
each any number of calls one after another.

The result type of the handler is a parameter: the scheduler never looks into it.
-/

namespace OnlineJudge.Judge

namespace JudgeManager

def httpReserveThreads : ℕ := 8

/-- The sizes fixed by the constructor, which makes sure that there is a slot and a worker. -/
structure Config where
  queueCapacity : ℕ
  workerCount : ℕ
  queueCapacity_pos : 0 < queueCapacity
  workerCount_pos : 0 < workerCount

/-- One worker and one slot. -/
abbrev Config.smallest : Config where
  queueCapacity := 1
  workerCount := 1
  queueCapacity_pos := Nat.one_pos
  workerCount_pos := Nat.one_pos

/-- `http_thread_count_`, set by the constructor of `HttpServer`. -/
def Config.httpThreadCount (config : Config) : ℕ :=
  config.workerCount + config.queueCapacity + httpReserveThreads

inductive EnqueueStatus where
  | accepted
  | queueFull
  | stopped
  deriving DecidableEq, Repr

structure Reservation where
  ok : Bool := false
  status : EnqueueStatus := .stopped
  deriving DecidableEq, Repr

/-- The identity of an `Item`; the source uses its address. -/
abbrev ItemId := ℕ

/-- How one call of the handler ends: it returns, or it throws with or without a message. -/
inductive HandlerResult (Outcome : Type) where
  | returned (outcome : Outcome)
  | threw (what : Option String)

/-- History variable: where an item is on its way through the scheduler. -/
inductive Stage (workerCount : ℕ) where
  | unborn
  | built
  | refused (status : EnqueueStatus)
  | queued
  | held (worker : Fin workerCount)
  | delivered
  /-- Committed after the workers were told to exit. -/
  | reclaimed
  deriving DecidableEq

/-- The item's call returned, or will return, `Accepted`. -/
def Stage.Accepted {workerCount : ℕ} : Stage workerCount → Prop
  | .queued | .held _ | .delivered | .reclaimed => True
  | .unborn | .built | .refused _ => False

instance {workerCount : ℕ} (stage : Stage workerCount) : Decidable stage.Accepted := by
  cases stage <;> simp only [Stage.Accepted] <;> infer_instance

/-- `JudgeManager::Item`, with the history of its handler calls: how many began, how they ended. -/
structure Item (workerCount : ℕ) (Outcome : Type) where
  task : SubmissionTask
  cancelled : Bool
  /-- The values passed to `promise.set_value`, in order. -/
  promise : List Outcome
  started : ℕ
  results : List (HandlerResult Outcome)
  stage : Stage workerCount

/-- Where a worker thread stands in `worker_loop`: a constructor names what it did last. -/
inductive Worker (Outcome : Type) where
  | waiting
  | popped (item : ItemId)
  | starting (item : ItemId)
  | running (item : ItemId)
  | returned (item : ItemId) (outcome : Outcome)
  | completed (item : ItemId) (outcome : Outcome)
  | erased (item : ItemId) (outcome : Outcome)
  | delivered
  | exited
  deriving DecidableEq

/-- The code on whose behalf a caller uses the scheduler. -/
inductive Purpose where
  | handleSubmit
  | recovery
  | handleAdminRejudge
  deriving DecidableEq

/-- Where a caller thread stands. In `submitting` and `committing` the item is built and the
critical section is next; a `reserved` slot waits for `persist_in_flight` or `claim`. -/
inductive Caller where
  | idle
  | submitting (item : ItemId)
  | reserved (purpose : Purpose)
  | committing (purpose : Purpose) (item : ItemId)
  /-- The item is queued and the lock released; `accepted_.fetch_add` is next. -/
  | publishing (purpose : Purpose) (item : ItemId)
  | awaiting (item : ItemId)
  | shutdownEntered
  | shutdownCancelled
  | shutdownJoining
  | shutdownJoined
  | shutdownLoaded (accepted : ℕ)
  deriving DecidableEq

/-- The members of `JudgeManager` and the threads that use it. -/
structure State (config : Config) (callerCount : ℕ) (Outcome : Type) where
  queue : List ItemId
  reserved : ℕ
  activeItems : Finset ItemId
  stopped : Bool
  workersStop : Bool
  active : ℕ
  nextTaskId : ℕ
  accepted : ℕ
  completed : ℕ
  shutdownOwner : Option (Fin callerCount)
  workersJoined : Bool
  workers : Fin config.workerCount → Worker Outcome
  callers : Fin callerCount → Caller
  items : ItemId → Item config.workerCount Outcome
  nextItem : ItemId
  /-- The values that `shutdown` compared at its end. -/
  shutdownReports : List (ℕ × ℕ)

/-- `make_internal_error` and its messages, for the handler's result type. -/
structure Errors (Outcome : Type) where
  makeInternalError : String → Outcome

namespace Errors

variable {Outcome : Type} (errors : Errors Outcome)

/-- The outcome that `worker_loop` delivers for a handler call. -/
def outcomeOf : HandlerResult Outcome → Outcome
  | .returned outcome => outcome
  | .threw (some what) => errors.makeInternalError ("判题任务异常: " ++ what)
  | .threw none => errors.makeInternalError "判题任务异常"

/-- The outcome of a task committed after the workers were told to exit. -/
def reclaimedOutcome : Outcome := errors.makeInternalError "判题调度器已回收，任务未执行"

end Errors

namespace State

variable {config : Config} {callerCount : ℕ} {Outcome : Type}

/-- The task that an unused identity holds before an item is built there. -/
def emptyTask : SubmissionTask :=
  { taskId := 0, userId := 0, problemId := 0, language := [], sourceCode := [],
    viewerIsAdmin := false, submittedAt := [], rejudgeSubmissionId := 0, inFlightTaskId := [] }

/-- The state after the constructor: all workers started, nobody calling. -/
def initial (config : Config) (callerCount : ℕ) (Outcome : Type) :
    State config callerCount Outcome where
  queue := []
  reserved := 0
  activeItems := ∅
  stopped := false
  workersStop := false
  active := 0
  nextTaskId := 1
  accepted := 0
  completed := 0
  shutdownOwner := none
  workersJoined := false
  workers := fun _ => .waiting
  callers := fun _ => .idle
  items := fun _ =>
    { task := emptyTask, cancelled := false, promise := [], started := 0, results := [],
      stage := .unborn }
  nextItem := 0
  shutdownReports := []

def setCaller (state : State config callerCount Outcome) (caller : Fin callerCount)
    (next : Caller) : State config callerCount Outcome :=
  { state with callers := Function.update state.callers caller next }

def setWorker (state : State config callerCount Outcome) (worker : Fin config.workerCount)
    (next : Worker Outcome) : State config callerCount Outcome :=
  { state with workers := Function.update state.workers worker next }

def modifyItem (state : State config callerCount Outcome) (item : ItemId)
    (change : Item config.workerCount Outcome → Item config.workerCount Outcome) :
    State config callerCount Outcome :=
  { state with items := Function.update state.items item (change (state.items item)) }

/-- The start of `submit` and `commit`: assign a task id and build the item. -/
def buildItem (state : State config callerCount Outcome) (task : SubmissionTask) :
    State config callerCount Outcome :=
  let assigned := if task.taskId = 0 then { task with taskId := state.nextTaskId } else task
  { state with
    nextTaskId := if task.taskId = 0 then state.nextTaskId + 1 else state.nextTaskId
    nextItem := state.nextItem + 1
    items := Function.update state.items state.nextItem
      { task := assigned, cancelled := false, promise := [], started := 0, results := [],
        stage := .built } }

def enqueue (state : State config callerCount Outcome) (item : ItemId) :
    State config callerCount Outcome :=
  { state.modifyItem item (fun old => { old with stage := .queued }) with
    queue := state.queue ++ [item] }

/-- The critical section of `submit`. -/
def submitLocked (state : State config callerCount Outcome) (item : ItemId) :
    EnqueueStatus × State config callerCount Outcome :=
  if state.stopped then
    (.stopped, state.modifyItem item fun old => { old with stage := .refused .stopped })
  else if state.queue.length + state.reserved ≥ config.queueCapacity then
    (.queueFull, state.modifyItem item fun old => { old with stage := .refused .queueFull })
  else
    (.accepted, state.enqueue item)

def reserve (state : State config callerCount Outcome) :
    Reservation × State config callerCount Outcome :=
  if state.stopped then
    ({ ok := false, status := .stopped }, state)
  else if state.queue.length + state.reserved ≥ config.queueCapacity then
    ({ ok := false, status := .queueFull }, state)
  else
    ({ ok := true, status := .accepted }, { state with reserved := state.reserved + 1 })

/-- `if (reserved_ > 0) --reserved_`. -/
def releaseSlot (state : State config callerCount Outcome) :
    State config callerCount Outcome :=
  if state.reserved > 0 then { state with reserved := state.reserved - 1 } else state

def release (state : State config callerCount Outcome) (reservation : Reservation) :
    State config callerCount Outcome :=
  if reservation.ok then state.releaseSlot else state

def cancelItem (item : Item config.workerCount Outcome) : Item config.workerCount Outcome :=
  { item with cancelled := true }

/-- The critical section of `commit`; the flag tells whether the item entered the queue. -/
def commitLocked (errors : Errors Outcome) (state : State config callerCount Outcome)
    (item : ItemId) : Bool × State config callerCount Outcome :=
  let state := state.releaseSlot
  if state.workersStop then
    (false, state.modifyItem item fun old =>
      { cancelItem old with
        promise := old.promise ++ [errors.reclaimedOutcome]
        stage := .reclaimed })
  else
    let state := if state.stopped then state.modifyItem item cancelItem else state
    (true, state.enqueue item)

/-- The critical section of `cancel_all`. -/
def cancelAll (state : State config callerCount Outcome) : State config callerCount Outcome :=
  { state with
    stopped := true
    items := fun item =>
      if item ∈ state.queue ∨ item ∈ state.activeItems then cancelItem (state.items item)
      else state.items item }

/-- Whether a holder of a reservation commits it, by what it did before: `handle_submit`
persists the task, `RecoveryService::run` claims the row. -/
inductive ReservedOutcome where
  | persisted
  | persistProblemNotFound
  | persistInternalError
  | claimed (taken : Bool)
  | claimFailed

def ReservedOutcome.commits : ReservedOutcome → Bool
  | .persisted => true
  | .claimed taken => taken
  | .persistProblemNotFound | .persistInternalError | .claimFailed => false

/-- `handle_submit` and `handle_admin_rejudge` wait for the result; recovery does not. -/
def afterPublishing (purpose : Purpose) (item : ItemId) : Caller :=
  match purpose with
  | .handleSubmit | .handleAdminRejudge => .awaiting item
  | .recovery => .idle

end State

inductive Label (config : Config) (callerCount : ℕ) (Outcome : Type) where
  /-- `handle_admin_rejudge` calls `submit`. -/
  | submit (caller : Fin callerCount) (task : SubmissionTask)
  | reserve (caller : Fin callerCount) (purpose : Purpose)
  /-- The holder of a reservation commits the task or releases the slot. -/
  | resume (caller : Fin callerCount) (outcome : State.ReservedOutcome) (task : SubmissionTask)
  | commitRefused (caller : Fin callerCount) (reservation : Reservation)
  /-- The next step of a call already begun. -/
  | caller (caller : Fin callerCount)
  | cancelAll
  | shutdown (caller : Fin callerCount)
  /-- The next step of a worker; `result` is how its handler ends, when that is the step. -/
  | worker (worker : Fin config.workerCount) (result : HandlerResult Outcome)

section Steps

variable {config : Config} {callerCount : ℕ} {Outcome : Type} (errors : Errors Outcome)

def workerStep (state : State config callerCount Outcome) (worker : Fin config.workerCount)
    (result : HandlerResult Outcome) : Option (State config callerCount Outcome) :=
  match state.workers worker with
  | .waiting =>
      match state.queue with
      | item :: rest =>
          some <| State.setWorker
            { state.modifyItem item (fun old => { old with stage := .held worker }) with
              queue := rest
              activeItems := insert item state.activeItems }
            worker (.popped item)
      | [] => if state.workersStop then some (state.setWorker worker .exited) else none
  | .popped item =>
      some <| State.setWorker { state with active := state.active + 1 } worker (.starting item)
  | .starting item =>
      some <| (state.modifyItem item fun old => { old with started := old.started + 1 }).setWorker
        worker (.running item)
  | .running item =>
      some <| (state.modifyItem item fun old =>
        { old with results := old.results ++ [result] }).setWorker
        worker (.returned item (errors.outcomeOf result))
  | .returned item outcome =>
      some <| State.setWorker { state with completed := state.completed + 1 }
        worker (.completed item outcome)
  | .completed item outcome =>
      some <| State.setWorker { state with activeItems := state.activeItems.erase item }
        worker (.erased item outcome)
  | .erased item outcome =>
      some <| (state.modifyItem item fun old =>
        { old with promise := old.promise ++ [outcome], stage := .delivered }).setWorker
        worker .delivered
  | .delivered =>
      some <| State.setWorker { state with active := state.active - 1 } worker .waiting
  | .exited => none

def callerStep (state : State config callerCount Outcome) (caller : Fin callerCount) :
    Option (State config callerCount Outcome) :=
  match state.callers caller with
  | .idle | .reserved _ => none
  | .submitting item =>
      match state.submitLocked item with
      | (.accepted, next) => some (next.setCaller caller (.publishing .handleAdminRejudge item))
      | (_, next) => some (next.setCaller caller .idle)
  | .committing purpose item =>
      match state.commitLocked errors item with
      | (true, next) => some (next.setCaller caller (.publishing purpose item))
      | (false, next) => some (next.setCaller caller (State.afterPublishing purpose item))
  | .publishing purpose item =>
      some <| State.setCaller { state with accepted := state.accepted + 1 } caller
        (State.afterPublishing purpose item)
  | .awaiting item =>
      if (state.items item).promise = [] then none else some (state.setCaller caller .idle)
  | .shutdownEntered => some (state.cancelAll.setCaller caller .shutdownCancelled)
  | .shutdownCancelled =>
      some <| State.setCaller { state with workersStop := true } caller .shutdownJoining
  | .shutdownJoining =>
      if ∀ worker, state.workers worker matches .exited then
        some <| State.setCaller { state with workersJoined := true } caller .shutdownJoined
      else none
  | .shutdownJoined => some (state.setCaller caller (.shutdownLoaded state.accepted))
  | .shutdownLoaded accepted =>
      some <| State.setCaller
        { state with
          shutdownOwner := none
          shutdownReports := state.shutdownReports ++ [(accepted, state.completed)] }
        caller .idle

def step (state : State config callerCount Outcome) :
    Label config callerCount Outcome → Option (State config callerCount Outcome)
  | .submit caller task =>
      match state.callers caller with
      | .idle => some ((state.buildItem task).setCaller caller (.submitting state.nextItem))
      | _ => none
  | .reserve caller purpose =>
      match state.callers caller with
      | .idle =>
          match state.reserve with
          | (reservation, next) =>
              some (if reservation.ok then next.setCaller caller (.reserved purpose) else next)
      | _ => none
  | .resume caller outcome task =>
      match state.callers caller with
      | .reserved purpose =>
          if outcome.commits then
            some ((state.buildItem task).setCaller caller (.committing purpose state.nextItem))
          else
            some ((state.release { ok := true, status := .accepted }).setCaller caller .idle)
      | _ => none
  | .commitRefused caller reservation =>
      match state.callers caller with
      | .idle => if reservation.ok then none else some state
      | _ => none
  | .caller caller => callerStep errors state caller
  | .cancelAll => some state.cancelAll
  | .shutdown caller =>
      match state.callers caller with
      | .idle =>
          if state.shutdownOwner.isSome then none
          else if state.workersJoined then some state
          else some <| State.setCaller { state with shutdownOwner := some caller } caller
            .shutdownEntered
      | _ => none
  | .worker worker result => workerStep errors state worker result

/-- The scheduler together with all its users, as one interleaving system. -/
def system (config : Config) (callerCount : ℕ) (errors : Errors Outcome) :
    Library.TransitionSystem (State config callerCount Outcome)
      (Label config callerCount Outcome) where
  step state label := step errors state label

/-- The states of every interleaving, from the constructor on. -/
def Reachable (errors : Errors Outcome) (state : State config callerCount Outcome) : Prop :=
  (system config callerCount errors).Reaches Library.TransitionSystem.Unrestricted
    (State.initial config callerCount Outcome) state

end Steps

end JudgeManager

end OnlineJudge.Judge
