import OnlineJudge.Judge.Result

/-!
# Running processes within a budget

The interface between the judge and whatever compiles and runs programs
(`judge/executor.h`), the deadline that all phases of one execution share
(`judge/deadline.cpp`), and the wait for a compile permit (`judge/compile_gate.cpp`).
Instants are nanoseconds of the steady clock, limits are milliseconds.
-/

namespace OnlineJudge.Judge

inductive Language where
  | cpp17
  | c11
  deriving DecidableEq, Repr

def parseLanguage (text : Bytes) : Option Language :=
  let lowered := text.map Bytes.toLower
  if lowered = Bytes.ofString "c++17" ∨ lowered = Bytes.ofString "cpp17" ∨
      lowered = Bytes.ofString "c++" ∨ lowered = Bytes.ofString "cpp" then
    some .cpp17
  else if lowered = Bytes.ofString "c11" ∨ lowered = Bytes.ofString "c" then some .c11
  else none

structure ProcessResult where
  launched : Bool := false
  launchError : Bool := false
  launchErrorMessage : Bytes := []
  sandboxError : Bool := false
  termination : TerminationReason := .launchFailure
  timedOut : Bool := false
  cancelled : Bool := false
  exited : Bool := false
  exitCode : ℤ := 0
  termSignal : ℤ := 0
  memoryExceeded : Bool := false
  memoryKb : ℤ := 0
  stdoutTruncated : Bool := false
  stderrTruncated : Bool := false
  sanitizerError : Bool := false
  stdoutData : Bytes := []
  stderrData : Bytes := []
  timeMs : ℤ := 0
  deriving DecidableEq, Repr

structure CompileRequest where
  language : Language
  compiler : Bytes
  sourcePath : Bytes
  outputPath : Bytes
  workingDirectory : Bytes
  extraFlags : List Bytes
  sanitizers : Bool
  timeLimitMs : ℤ
  outputLimitBytes : ℕ
  sandbox : Bool
  memoryLimitKb : ℤ
  deriving DecidableEq, Repr

structure RunRequest where
  executablePath : Bytes
  workingDirectory : Bytes
  timeLimitMs : ℤ
  stdoutLimitBytes : ℕ
  stderrLimitBytes : ℕ
  sandbox : Bool
  memoryLimitKb : ℤ
  deriving DecidableEq, Repr

/-- What a call of the executor returns, and the nanoseconds until it returns. -/
structure Execution where
  result : ProcessResult
  elapsed : ℤ
  deriving DecidableEq, Repr

/-- `IExecutor`. Equal requests may be answered differently from call to call, so that a run
also depends on the number of the test case. -/
structure Executor where
  compile : CompileRequest → Execution
  run : ℕ → RunRequest → Bytes → Execution

def nanosPerMs : ℤ := 1000000

/-- `std::chrono::ceil` to milliseconds: the conversion truncates, a remainder counts as one. -/
def ceilMs (nanos : ℤ) : ℤ :=
  let whole := nanos.tdiv nanosPerMs
  if whole * nanosPerMs < nanos then whole + 1 else whole

theorem ceilMs_bounds {nanos : ℤ} (nonneg : 0 ≤ nanos) :
    nanos ≤ ceilMs nanos * nanosPerMs ∧ ceilMs nanos * nanosPerMs < nanos + nanosPerMs := by
  simp only [ceilMs, nanosPerMs, Int.tdiv_eq_ediv_of_nonneg nonneg]
  omega

structure Deadline where
  timePoint : ℤ
  deriving DecidableEq, Repr

namespace Deadline

def afterMs (now ms : ℤ) : Deadline where
  timePoint := now + ms * nanosPerMs

/-- `std::numeric_limits<int>::max()`. -/
def maxInt : ℤ := 2147483647

def remainingMs (deadline : Deadline) (now : ℤ) : ℤ :=
  if deadline.timePoint ≤ now then 0
  else
    let count := ceilMs (deadline.timePoint - now)
    if maxInt < count then maxInt else count

theorem remainingMs_pos_iff {deadline : Deadline} {now : ℤ} :
    0 < deadline.remainingMs now ↔ now < deadline.timePoint := by
  rw [remainingMs]
  split
  · omega
  · have bounds := @ceilMs_bounds (deadline.timePoint - now) (by omega)
    simp only [nanosPerMs, maxInt] at *
    omega

theorem remainingMs_le {deadline : Deadline} {now : ℤ} (before : now < deadline.timePoint) :
    deadline.remainingMs now ≤ ceilMs (deadline.timePoint - now) := by
  simp only [remainingMs, if_neg (show ¬deadline.timePoint ≤ now by omega)]
  omega

/-- What is left of the budget overshoots the deadline by less than a millisecond. -/
theorem add_remainingMs_lt {deadline : Deadline} {now : ℤ} (before : now < deadline.timePoint) :
    now + deadline.remainingMs now * nanosPerMs < deadline.timePoint + nanosPerMs := by
  have small := remainingMs_le before
  have bounds := @ceilMs_bounds (deadline.timePoint - now) (by omega)
  simp only [nanosPerMs] at *
  omega

end Deadline

def effectiveTimeLimitMs (problemLimitMs remainingGlobalMs : ℤ) : ℤ :=
  if problemLimitMs ≤ 0 ∨ remainingGlobalMs ≤ 0 then 0
  else if problemLimitMs < remainingGlobalMs then problemLimitMs else remainingGlobalMs

theorem effectiveTimeLimitMs_le {problemLimitMs remainingGlobalMs : ℤ}
    (positive : 0 < effectiveTimeLimitMs problemLimitMs remainingGlobalMs) :
    effectiveTimeLimitMs problemLimitMs remainingGlobalMs ≤ problemLimitMs ∧
      effectiveTimeLimitMs problemLimitMs remainingGlobalMs ≤ remainingGlobalMs := by
  rw [effectiveTimeLimitMs] at positive ⊢
  omega

/-- A look at the gate that finds every permit taken. -/
structure GatePoll where
  cancelled : Bool
  now : ℤ
  deriving DecidableEq, Repr

/-- `CompileGate::acquire`, given the looks that find the gate full before one finds a permit.
Without a gate there is no such look. -/
def acquire (deadline : Deadline) : List GatePoll → Bool
  | [] => true
  | poll :: polls =>
      if poll.cancelled then false
      else if deadline.remainingMs poll.now ≤ 0 then false
      else acquire deadline polls

end OnlineJudge.Judge
