import OnlineJudge.Judge.Manager
import OnlineJudge.Service.Program

/-!
# The recovery service

`RecoveryService::run`: puts the in-flight tasks that an earlier process left behind
into the queue again, batch by batch. None of its statements takes the mutex. What the
scheduler and the abort flag answer comes from outside and is given turn by turn; a run
of the service consumes one turn for each time it asks.
-/

namespace OnlineJudge

namespace Service

open Judge Db Library

structure RecoveryOptions where
  batchSize : ℤ := 16
  resetStaleClaims : Bool := true

/-- The value of `aborted_` and the answer of `reserve` when they are asked for. -/
structure RecoveryTurn where
  aborted : Bool := false
  reservation : JudgeManager.EnqueueStatus := .accepted

/-- Where the loops of `run` stand: before reading a batch, before the next task of a batch, or
waiting for a slot for a task. -/
inductive RecoveryPoint where
  | scanning
  | batch (task : InFlightTask) (rest : List InFlightTask)
  | waiting (task : InFlightTask) (rest : List InFlightTask)

/-- The next task of the batch, or the next batch. -/
def RecoveryPoint.after : List InFlightTask → RecoveryPoint
  | [] => .scanning
  | task :: rest => .batch task rest

/-- The task that a recovered row is handed over as. -/
def recoveredTask (task : InFlightTask) : SubmissionTask where
  userId := task.userId
  problemId := task.problemId
  language := task.language
  sourceCode := task.sourceCode
  viewerIsAdmin := true
  submittedAt := task.submittedAt
  inFlightTaskId := task.taskId

/-- The loops of `run`. When the turns run out, the service is still asking. -/
def recoverFrom (owner : Bytes) (limit : ℕ) :
    List RecoveryTurn → RecoveryPoint → (enqueued : ℕ) → Program
  | [], _, _ => .done
  | turn :: turns, .scanning, enqueued =>
      if turn.aborted then Program.finish (.recovered enqueued)
      else
        .exec (.inFlight (.listPending limit)) fun
          | none => Program.finish (.recovered enqueued)
          | some [] => Program.finish (.recovered enqueued)
          | some (task :: rest) =>
              recoverFrom owner limit turns (.batch task rest) enqueued
  | turn :: turns, .batch task rest, enqueued =>
      recoverFrom owner limit turns
        (if turn.aborted then .scanning else .waiting task rest) enqueued
  | turn :: turns, .waiting task rest, enqueued =>
      match turn.reservation with
      | .stopped => Program.finish (.recovered enqueued)
      | .queueFull =>
          recoverFrom owner limit turns
            (if turn.aborted then .scanning else .waiting task rest) enqueued
      | .accepted =>
          .exec (.inFlight (.claim task.id owner)) fun
            | none => Program.finish (.recovered enqueued)
            | some false => recoverFrom owner limit turns (.after rest) enqueued
            | some true =>
                .emit (.handedOver task.id (recoveredTask task))
                  (recoverFrom owner limit turns (.after rest) (enqueued + 1))

/-- `const int batch_size = options_.batch_size > 0 ? options_.batch_size : 1`. -/
def RecoveryOptions.limit (options : RecoveryOptions) : ℕ :=
  if 0 < options.batchSize then options.batchSize.toNat else 1

/-- `RecoveryService::run`. -/
def recoveryRun (options : RecoveryOptions) (instanceId : Bytes)
    (turns : List RecoveryTurn) : Program :=
  if options.resetStaleClaims then
    .exec (.inFlight .resetStaleClaims) fun
      | none => Program.finish (.recovered 0)
      | some () => recoverFrom instanceId options.limit turns .scanning 0
  else recoverFrom instanceId options.limit turns .scanning 0

end Service

end OnlineJudge
