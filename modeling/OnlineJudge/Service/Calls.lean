import OnlineJudge.Service.Rejudge
import OnlineJudge.Service.Recovery
import OnlineJudge.Service.ProblemAdmin
import OnlineJudge.Service.Users

/-!
# The server

All calls that write to the database, each with what the outside world answers during
the call. `server dump` is the system whose runs the properties are about: any number
of threads, each serving one call, in any order of their steps.
-/

namespace OnlineJudge

namespace Service

open Judge Db Library Library.SharedConnection

inductive Call where
  | persist (request : PersistRequest) (now : Bytes)
  | discard (taskId : TaskId)
  /-- The handler of the scheduler runs a task. -/
  | handle (task : SubmissionTask) (judge : JudgeTask → JudgeResult) (now : Bytes)
  | recover (options : RecoveryOptions) (instanceId : Bytes) (turns : List RecoveryTurn)
  | createProblem (data : ProblemData) (now : Bytes)
  | updateProblem (id : ℤ) (patch : ProblemPatch) (now : Bytes)
  | removeProblem (id : ℤ)
  | createTestcase (problemId : ℤ) (data : TestcaseData)
  | updateTestcase (problemId testcaseId : ℤ) (patch : TestcasePatch)
  | removeTestcase (problemId testcaseId : ℤ)
  | register (request : RegisterRequest)
  | resetPassword (userId : ℤ) (newHash : Bytes)
  | changePassword (request : PasswordRequest)
  | changeRole (userId : ℤ) (newRole : Role)

/-- The handler that `HttpServer` gives to the scheduler. -/
def handle (dump : Dump) (judge : JudgeTask → JudgeResult) (now : Bytes)
    (task : SubmissionTask) : Program :=
  if task.rejudgeSubmissionId ≠ 0 then rejudge dump judge task.rejudgeSubmissionId
  else submit dump judge now task

def Call.body (dump : Dump) (id : ThreadId) : Call → Program
  | .persist request now => persistInFlight request now
  | .discard taskId => discardInFlight taskId
  | .handle task judge now => Service.handle dump judge now task
  | .recover options instanceId turns => recoveryRun options instanceId turns
  | .createProblem data now => Service.createProblem data now
  | .updateProblem problemId patch now => Service.updateProblem problemId patch now
  | .removeProblem problemId => Service.removeProblem problemId
  | .createTestcase problemId data => Service.createTestcase problemId data
  | .updateTestcase problemId testcaseId patch =>
      Service.updateTestcase problemId testcaseId patch
  | .removeTestcase problemId testcaseId => Service.removeTestcase problemId testcaseId
  | .register request => registerUser id request
  | .resetPassword userId newHash => Service.resetPassword id userId newHash
  | .changePassword request => Service.changePassword id request
  | .changeRole userId newRole => Service.changeRole id userId newRole

def server (dump : Dump) : SharedConnection.Service Db Reply Event Call where
  execute := execute
  body := Call.body dump

abbrev State := SharedConnection.State Db Reply Event Call

abbrev Label := SharedConnection.Label Call

end Service

end OnlineJudge
