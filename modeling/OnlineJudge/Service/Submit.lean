import Mathlib.Algebra.Ring.Int.Defs
import OnlineJudge.Service.PerCase
import OnlineJudge.Service.Program

/-!
# The submit service

`SubmitService`: accepting a task, giving one up, and judging and settling it. The
judge is a function of the task, since it runs outside any transaction and never
touches the database; `now` is the clock, which counts only when a task carries no time
of its own.
-/

namespace OnlineJudge

namespace Service

open Judge Db Library

/-- What an accepted task is made of. -/
structure PersistRequest where
  userId : ℤ
  problemId : ℤ
  language : Bytes
  sourceCode : Bytes
  submittedAt : Bytes
  /-- The identifiers that `generate_task_id` yields, attempt by attempt. -/
  generated : ℕ → TaskId

/-- `kMaxAttempts` of `InFlightStore::insert`. -/
def maxTaskIdAttempts : ℕ := 5

/-- `InFlightStore::insert`: a taken identifier is replaced by a new one, a few times. -/
def insertInFlight (request : PersistRequest) (submittedAt : Bytes) (failure : Event) :
    (attempts attempt : ℕ) → Program
  | 0, _ => Program.rollbackWith failure
  | attempts + 1, attempt =>
      .exec
        (.inFlight (.insert (request.generated attempt) request.userId request.problemId
          request.language request.sourceCode submittedAt)) fun
        | none => Program.rollbackWith failure
        | some .taskIdTaken =>
            insertInFlight request submittedAt failure attempts (attempt + 1)
        | some (.row _) =>
            Program.commitWith (.persisted .ok (request.generated attempt) []) failure

def persistInFlight (request : PersistRequest) (now : Bytes) : Program :=
  let failure := Event.persisted .internalError [] internalErrorText
  Program.beginWith failure <|
    .exec (.problems (.findById request.problemId)) fun
      | none => Program.rollbackWith failure
      | some none => Program.rollbackWith (.persisted .problemNotFound [] [])
      | some (some _) =>
          insertInFlight request
            (if request.submittedAt = [] then now else request.submittedAt) failure
            maxTaskIdAttempts 0

/-- `SubmitService::settle_interrupted`, followed by `next`. -/
def settleInterrupted (taskId : TaskId) (reason : Bytes) (next : Program) : Program :=
  if taskId = [] then next
  else
    .lock <| .begin fun
      | false => .unlock next
      | true =>
          .exec (.inFlight (.markInterrupted taskId reason)) fun
            | none => .rollback (.unlock next)
            | some () => .commit fun
                | true => .unlock next
                | false => .rollback (.unlock next)

def discardInFlight (taskId : TaskId) : Program :=
  settleInterrupted taskId (Bytes.ofString "入队失败，已放弃执行") (Program.finish .discarded)

/-- The snapshot that a task is judged on. -/
def toJudgeTask (language sourceCode : Bytes) (problem : ProblemRecord)
    (records : List TestcaseRow) : JudgeTask where
  language := language
  sourceCode := sourceCode
  testcases := records.map fun record => { input := record.input, output := record.output }
  timeLimitMs := problem.timeLimitMs
  memoryLimitKb := problem.memoryLimitKb

def totalRuntimeMs (result : JudgeResult) : ℤ := (result.cases.map (·.timeMs)).sum

/-- The greatest memory of a case, `0` without a measurement. -/
def peakMemoryKb (result : JudgeResult) : ℤ :=
  result.cases.foldl (fun peak item => if peak < item.memoryKb then item.memoryKb else peak) 0

structure StatusState where
  hasRecord : Bool := false
  accepted : Bool := false
  firstAcAt : Bytes := []
  submitCount : ℤ := 0
  deriving DecidableEq, Repr

structure StatusUpdate where
  accepted : Bool := false
  hasFirstAcAt : Bool := false
  firstAcAt : Bytes := []
  submitCount : ℤ := 0
  deriving DecidableEq, Repr

def computeStatusUpdate (current : StatusState) (submissionAccepted : Bool)
    (submissionTime : Bytes) : StatusUpdate :=
  let submitCount := current.submitCount + 1
  if current.accepted then
    let best :=
      if submissionAccepted ∧ submissionTime ≠ [] ∧
          (current.firstAcAt = [] ∨ submissionTime < current.firstAcAt) then
        submissionTime
      else current.firstAcAt
    if best ≠ [] then
      { accepted := true, hasFirstAcAt := true, firstAcAt := best, submitCount := submitCount }
    else { accepted := true, submitCount := submitCount }
  else if submissionAccepted then
    { accepted := true
      hasFirstAcAt := true
      firstAcAt := submissionTime
      submitCount := submitCount }
  else { submitCount := submitCount }

/-- The row that `UserProblemStatusStore::upsert` writes. -/
def StatusUpdate.row (update : StatusUpdate) (userId problemId : ℤ) : StatusRow where
  userId := userId
  problemId := problemId
  accepted := update.accepted
  firstAcAt := if update.hasFirstAcAt then some update.firstAcAt else none
  submitCount := update.submitCount

/-- The status read in the settlement, as the state that the update starts from. -/
def StatusState.ofRecord (found : Option StatusRecord) : StatusState :=
  let current := found.getD {}
  { hasRecord := found.isSome
    accepted := current.accepted
    firstAcAt := current.firstAcAt.getD []
    submitCount := current.submitCount }

def internalError : Event := .settled Outcome.internalError

def problemNotFound : Event := .settled { kind := .problemNotFound }

/-- The reason of an interruption. -/
def problemMissingReason : Bytes := Bytes.ofString "题目不存在，无法判题"

/-- The end of a settlement: the submission, the status of the user, the commit. -/
def storeSubmission (record : SubmissionRecord) (settles : Option TaskId)
    (result : JudgeResult) : Program :=
  .exec (.submissions (.insert record settles)) fun
    | none => Program.rollbackWith internalError
    | some newId =>
        .exec (.statuses (.find record.userId record.problemId)) fun
          | none => Program.rollbackWith internalError
          | some found =>
              let update := computeStatusUpdate (StatusState.ofRecord found)
                (result.status = .AC) record.createdAt
              .exec (.statuses (.upsert (update.row record.userId record.problemId))) fun
                | none => Program.rollbackWith internalError
                | some () =>
                    Program.commitWith
                      (.settled
                        { kind := .ok
                          submission := some { record with id := newId }
                          judge := result })
                      internalError

/-- The settlement transaction. An in-flight task is settled by deleting its row. -/
def settle (task : SubmissionTask) (record : SubmissionRecord) (result : JudgeResult) :
    Program :=
  Program.beginWith internalError <|
    .exec (.problems (.findById task.problemId)) fun
      | none => Program.rollbackWith internalError
      | some none =>
          if task.inFlightTaskId = [] then Program.rollbackWith problemNotFound
          else
            .exec (.inFlight (.markInterrupted task.inFlightTaskId problemMissingReason)) fun
              | none => Program.rollbackWith internalError
              | some () => Program.commitWith problemNotFound internalError
      | some (some _) =>
          if task.inFlightTaskId = [] then storeSubmission record none result
          else
            .exec (.inFlight (.removeByTaskId task.inFlightTaskId)) fun
              | none => Program.rollbackWith internalError
              | some false =>
                  Program.rollbackWith
                    (.settled
                      { kind := .alreadySettled, error := Bytes.ofString "任务已结算" })
              | some true => storeSubmission record (some task.inFlightTaskId) result

def submissionRecord (task : SubmissionTask) (result : JudgeResult) (perCase now : Bytes) :
    SubmissionRecord where
  id := 0
  userId := task.userId
  problemId := task.problemId
  language := task.language
  sourceCode := task.sourceCode
  status := result.status
  perCase := perCase
  compileMsg := result.compileOutput
  runtimeMs := totalRuntimeMs result
  memoryKb := peakMemoryKb result
  createdAt := if task.submittedAt = [] then now else task.submittedAt

/-- `SubmitService::submit`. Serialising the cases happens outside the `try` block, so that an
exception of the library leaves the service. -/
def submit (dump : Dump) (judge : JudgeTask → JudgeResult) (now : Bytes)
    (task : SubmissionTask) : Program :=
  .exec (.problems (.findById task.problemId)) fun
    | none => Program.finish internalError
    | some none =>
        settleInterrupted task.inFlightTaskId problemMissingReason
          (Program.finish problemNotFound)
    | some (some problem) =>
        if problem.visible = false ∧ task.viewerIsAdmin = false ∧ task.inFlightTaskId = [] then
          Program.finish problemNotFound
        else
          .exec (.testcases (.list task.problemId)) fun
            | none => Program.finish internalError
            | some records =>
                let judgeTask := toJudgeTask task.language task.sourceCode problem records
                let result := judge judgeTask
                .emit (.judging task.problemId records) <|
                  match dump (buildPerCaseJson judgeTask result) with
                  | none => Program.finish .threw
                  | some perCase =>
                      settle task (submissionRecord task result perCase now) result

end Service

end OnlineJudge
