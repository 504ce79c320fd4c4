import OnlineJudge.Text

/-!
# What is judged and what comes out

The verdicts, the task handed to the judge and its result, as `judge/status.h`,
`judge/executor.h` and `judge/judge.h` declare them. Times and sizes are integers
without a bound: nothing below depends on their width.
-/

namespace OnlineJudge.Judge

inductive JudgeStatus where
  | AC
  | WA
  | CE
  | TLE
  | RE
  | MLE
  | SYSERR
  deriving DecidableEq, Repr

/-- `judge_status_name`. -/
def JudgeStatus.name : JudgeStatus → Bytes
  | .AC => Bytes.ofString "AC"
  | .WA => Bytes.ofString "WA"
  | .CE => Bytes.ofString "CE"
  | .TLE => Bytes.ofString "TLE"
  | .RE => Bytes.ofString "RE"
  | .MLE => Bytes.ofString "MLE"
  | .SYSERR => Bytes.ofString "SYSERR"

inductive TerminationReason where
  | launchFailure
  | cancelled
  | memoryExceeded
  | timedOut
  | signaled
  | nonZeroExit
  | completed
  deriving DecidableEq, Repr

/-- `termination_reason_name`. -/
def TerminationReason.name : TerminationReason → Bytes
  | .completed => Bytes.ofString "completed"
  | .nonZeroExit => Bytes.ofString "non_zero_exit"
  | .signaled => Bytes.ofString "signaled"
  | .timedOut => Bytes.ofString "timed_out"
  | .memoryExceeded => Bytes.ofString "memory_exceeded"
  | .cancelled => Bytes.ofString "cancelled"
  | .launchFailure => Bytes.ofString "launch_failure"

structure Testcase where
  input : Bytes
  output : Bytes
  deriving DecidableEq, Repr

structure JudgeTask where
  language : Bytes
  sourceCode : Bytes
  testcases : List Testcase
  timeLimitMs : ℤ
  memoryLimitKb : ℤ
  deriving DecidableEq, Repr

structure TestcaseResult where
  index : ℤ := 0
  status : JudgeStatus := .AC
  timeMs : ℤ := 0
  memoryKb : ℤ := 0
  memoryExceeded : Bool := false
  timedOut : Bool := false
  outputTruncated : Bool := false
  globalDeadlineHit : Bool := false
  termination : TerminationReason := .launchFailure
  sanitizerError : Bool := false
  exitCode : ℤ := 0
  termSignal : ℤ := 0
  actualOutput : Bytes := []
  stderrOutput : Bytes := []
  message : Bytes := []
  deriving DecidableEq, Repr

structure JudgeResult where
  status : JudgeStatus := .SYSERR
  compileOk : Bool := false
  compileOutput : Bytes := []
  compileOutputTruncated : Bool := false
  compileTimeMs : ℤ := 0
  cases : List TestcaseResult := []
  total : ℤ := 0
  passed : ℤ := 0
  message : Bytes := []
  globalDeadlineHit : Bool := false
  cancelled : Bool := false
  deriving DecidableEq, Repr

/-- A scheduled task with all the data the handler needs. -/
structure SubmissionTask where
  taskId : ℕ := 0
  userId : ℤ := 0
  problemId : ℤ := 0
  language : Bytes := []
  sourceCode : Bytes := []
  viewerIsAdmin : Bool := false
  submittedAt : Bytes := []
  rejudgeSubmissionId : ℤ := 0
  inFlightTaskId : Bytes := []
  deriving DecidableEq, Repr

end OnlineJudge.Judge
