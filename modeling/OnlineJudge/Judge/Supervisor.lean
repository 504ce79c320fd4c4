import OnlineJudge.Judge.Capture
import OnlineJudge.Judge.Executor
import OnlineJudge.Library.TransitionSystem

/-!
# The supervision of a process

The loop of `LocalExecutor::spawn`, from a successful launch to the result: it looks
whether the process has ended, ends it for one of three reasons, samples its memory and
serves its three streams. What a turn of the loop is told by the kernel, the clock and the
cancellation token is a `Round`; an answer that the turn does not ask for has no effect.
What the loop has done to the outside and read from it is kept as a history that no
decision depends on.
-/

namespace OnlineJudge.Judge

open Library

/-- The status of a process that has ended, as `WIFEXITED` and `WIFSIGNALED` tell it apart. -/
inductive WaitStatus where
  | exited (code : ℕ)
  | signaled (signal : ℕ) (positive : 0 < signal)
  deriving DecidableEq

inductive WaitAnswer where
  | running
  | reaped (status : WaitStatus)
  /-- `ECHILD`. -/
  | noChild
  | failed
  deriving DecidableEq

inductive WriteAnswer where
  | took (count : ℕ)
  /-- `EINTR` or `EAGAIN`. -/
  | again
  | failed
  deriving DecidableEq, Repr

/-- What `poll` reports of the standard input of the process. -/
inductive InputEvent where
  | quiet
  /-- `POLLERR` or `POLLHUP`. -/
  | broken
  | writable (answer : WriteAnswer)
  deriving DecidableEq, Repr

inductive PollAnswer where
  | interrupted
  | failed
  | timeout
  /-- The streams that are ready, with what the reads from them answer. -/
  | ready (output errors : Option (List ReadAnswer)) (input : InputEvent)

structure Round where
  wait : WaitAnswer
  /-- The clock after `waitpid` has reaped the process. -/
  reapedAt : ℤ
  now : ℤ
  cancelled : Bool
  rssKb : ℤ
  poll : PollAnswer

/-- What is fixed before the loop begins. -/
structure Supervision where
  start : ℤ
  input : Bytes
  timeLimitMs : ℤ
  stdoutLimit : ℕ
  stderrLimit : ℕ
  memoryLimitKb : ℤ
  /-- There is a cancellation token. -/
  cancellable : Bool
  /-- There is something to sample: the process group of the compiler, or a known payload. -/
  sampled : Bool
  deriving DecidableEq, Repr

/-- A call of `kill_process_group`: when, and whether the process had been reaped by then. -/
structure Kill where
  time : ℤ
  reaped : Bool
  deriving DecidableEq, Repr

/-- A look at the memory of the process. Those of the loop enforce the limit, the first one after
the launch and the last one after the end do not. -/
structure MemorySample where
  rssKb : ℤ
  enforced : Bool
  deriving DecidableEq, Repr

structure History where
  /-- The clock of the last turn. -/
  lastLook : ℤ
  kills : List Kill := []
  sent : Bytes := []
  outputRead : Bytes := []
  errorsRead : Bytes := []
  samples : List MemorySample := []
  deriving DecidableEq, Repr

structure Supervisor where
  inputOpen : Bool
  inputOffset : ℕ := 0
  output : Pipe := {}
  errors : Pipe := {}
  childReaped : Bool := false
  status : Option WaitStatus := none
  childReapedAt : ℤ := 0
  killed : Bool := false
  cancelled : Bool := false
  timedOut : Bool := false
  memoryExceeded : Bool := false
  lastMemoryCheck : ℤ
  peakMemoryKb : ℤ := 0
  history : History
  deriving DecidableEq

namespace Supervision

variable (spec : Supervision)

def deadline : Deadline := .afterMs spec.start spec.timeLimitMs

/-- `read_group_rss_kb` or `read_pid_rss_kb`, whichever applies. -/
def readRss (rssKb : ℤ) : ℤ := if spec.sampled then rssKb else -1

end Supervision

/-- The time between two samples of the memory, which also bounds the wait of `poll`. -/
def pollCapMs : ℤ := 20

/-- How long the streams may stay open once the process has been reaped. -/
def graceMs : ℤ := 200

namespace Supervisor

/-- The peak follows every sample. -/
def recordSample (state : Supervisor) (sample : MemorySample) : Supervisor :=
  { state with
    peakMemoryKb := max state.peakMemoryKb sample.rssKb
    history := { state.history with samples := state.history.samples ++ [sample] } }

/-- `initialRssKb` is sampled right after the launch. -/
def begin (spec : Supervision) (initialRssKb : ℤ) : Supervisor :=
  let fresh : Supervisor :=
    { inputOpen := spec.input ≠ []
      lastMemoryCheck := spec.start
      history := { lastLook := spec.start } }
  if 0 < spec.memoryLimitKb then fresh.recordSample ⟨spec.readRss initialRssKb, false⟩ else fresh

section Checks

variable (spec : Supervision) (round : Round) (state : Supervisor)

def reap : Supervisor :=
  if state.childReaped then state
  else
    match round.wait with
    | .reaped status =>
        { state with
          childReaped := true
          status := some status
          childReapedAt := round.reapedAt }
    | .noChild => { state with childReaped := true, childReapedAt := round.reapedAt }
    | .running => state
    | .failed => state

def readClock : Supervisor :=
  { state with history := { state.history with lastLook := round.now } }

/-- `kill_process_group`. -/
def kill : Supervisor :=
  { state with
    killed := true
    history :=
      { state.history with
        kills := state.history.kills ++ [⟨round.now, state.childReaped⟩] } }

def checkCancel : Supervisor :=
  if !state.killed && spec.cancellable && round.cancelled then
    { state.kill round with cancelled := true }
  else state

def checkDeadline : Supervisor :=
  if !state.killed && !state.childReaped && decide (spec.deadline.timePoint ≤ round.now) then
    { state.kill round with timedOut := true }
  else state

def takeSample : Supervisor :=
  { state.recordSample ⟨spec.readRss round.rssKb, true⟩ with lastMemoryCheck := round.now }

def checkMemory : Supervisor :=
  if !state.killed && decide (0 < spec.memoryLimitKb) && !state.childReaped &&
      decide (pollCapMs * nanosPerMs ≤ round.now - state.lastMemoryCheck) then
    if spec.memoryLimitKb < spec.readRss round.rssKb then
      { (state.takeSample spec round).kill round with memoryExceeded := true }
    else state.takeSample spec round
  else state

/-- The streams are still open too long after the process was reaped. -/
def graceOver : Bool :=
  state.childReaped && (state.output.isOpen || state.errors.isOpen) &&
    decide (graceMs * nanosPerMs < round.now - state.childReapedAt)

/-- Somebody else holds the streams open: they are given up. -/
def abandon : Supervisor :=
  let stopped := if state.killed then state else state.kill round
  { stopped with
    output := { stopped.output with isOpen := false }
    errors := { stopped.errors with isOpen := false } }

end Checks

section Streams

variable (spec : Supervision) (state : Supervisor)

/-- The output is polled while it is open. -/
def readOutput (answers : List ReadAnswer) : Supervisor :=
  { state with
    output := state.output.poll spec.stdoutLimit answers
    history :=
      { state.history with
        outputRead :=
          state.history.outputRead ++ if state.output.isOpen then Pipe.drained answers else [] } }

def readErrors (answers : List ReadAnswer) : Supervisor :=
  { state with
    errors := state.errors.poll spec.stderrLimit answers
    history :=
      { state.history with
        errorsRead :=
          state.history.errorsRead ++ if state.errors.isOpen then Pipe.drained answers else [] } }

/-- One `write` of what is left of the input, of which the pipe takes a beginning. -/
def writeInput : WriteAnswer → Supervisor
  | .took count =>
      let taken := (spec.input.drop state.inputOffset).take count
      let offset := state.inputOffset + taken.length
      { state with
        inputOffset := offset
        inputOpen := state.inputOpen && decide (offset < spec.input.length)
        history := { state.history with sent := state.history.sent ++ taken } }
  | .again => state
  | .failed => { state with inputOpen := false }

/-- The input is polled unless the process is being killed. -/
def feed (event : InputEvent) : Supervisor :=
  if state.inputOpen && !state.killed && decide (state.inputOffset < spec.input.length) then
    match event with
    | .quiet => state
    | .broken => { state with inputOpen := false }
    | .writable answer => state.writeInput spec answer
  else state

end Streams

/-- The checks of a turn, up to `poll`. -/
def check (spec : Supervision) (round : Round) (state : Supervisor) : Supervisor :=
  (((state.readClock round).checkCancel spec round).checkDeadline spec round).checkMemory spec round

/-- How long `poll` waits at most, for a turn that has read the clock at `now`. -/
def pollTimeoutMs (spec : Supervision) (now : ℤ) (state : Supervisor) : ℤ :=
  if state.killed then pollCapMs
  else min (max 0 ((spec.deadline.timePoint - now).tdiv nanosPerMs)) pollCapMs

/-- The streams that `poll` has reported, in this order. -/
def serve (spec : Supervision) (state : Supervisor) (output errors : Option (List ReadAnswer))
    (input : InputEvent) : Supervisor :=
  ((state.readOutput spec (output.getD [])).readErrors spec (errors.getD [])).feed spec input

end Supervisor

/-- The loop: in the middle of its work, or left, with or without a failure of `poll`. -/
inductive Loop where
  | running (state : Supervisor)
  | left (state : Supervisor) (readFailed : Bool)

namespace Supervision

variable (spec : Supervision)

/-- A turn of the loop. -/
def turn (state : Supervisor) (round : Round) : Loop :=
  let looked := state.reap round
  if looked.childReaped && !looked.output.isOpen && !looked.errors.isOpen then
    .left looked false
  else
    let checked := looked.check spec round
    if checked.graceOver round then .left (checked.abandon round) false
    else
      match round.poll with
      | .failed => .left checked true
      | .interrupted => .running checked
      | .timeout => .running checked
      | .ready output errors input => .running (checked.serve spec output errors input)

def system : TransitionSystem Loop Round where
  step
    | .running state, round => some (spec.turn state round)
    | .left _ _, _ => none

end Supervision

/-- What happens after the loop: the wait for the process if it has not been reaped, a last
sample of its memory and a last reading of the clock. -/
structure Closing where
  wait : WaitAnswer
  killedAt : ℤ
  finishedAt : ℤ
  rssKb : ℤ

namespace Supervisor

/-- After a failure of `poll` nobody watches the process any more: it is killed. -/
def killUnwatched (state : Supervisor) (readFailed : Bool) (closing : Closing) : Supervisor :=
  if readFailed && !state.childReaped then
    { state with
      history :=
        { state.history with kills := state.history.kills ++ [⟨closing.killedAt, false⟩] } }
  else state

/-- The `waitpid` that blocks until the process has ended. -/
def await (state : Supervisor) (closing : Closing) : Supervisor :=
  if state.childReaped then state
  else
    match closing.wait with
    | .reaped status => { state with childReaped := true, status := some status }
    | _ => state

/-- The end of `spawn`, up to the result. -/
def close (spec : Supervision) (state : Supervisor) (readFailed : Bool) (closing : Closing) :
    Supervisor :=
  let waited := (state.killUnwatched readFailed closing).await closing
  if 0 < spec.memoryLimitKb then waited.recordSample ⟨spec.readRss closing.rssKb, false⟩
  else waited

def exited (state : Supervisor) : Bool :=
  match state.status with
  | some (.exited _) => true
  | _ => false

def exitCode (state : Supervisor) : ℤ :=
  match state.status with
  | some (.exited code) => code
  | _ => 0

def termSignal (state : Supervisor) : ℤ :=
  match state.status with
  | some (.signaled signal _) => signal
  | _ => 0

/-- An ending that the loop has brought about goes before the status of the process. -/
def termination (state : Supervisor) : TerminationReason :=
  if state.cancelled then .cancelled
  else if state.timedOut then .timedOut
  else if state.memoryExceeded then .memoryExceeded
  else if state.exited && state.exitCode = 0 then .completed
  else if state.exited then .nonZeroExit
  else if state.termSignal ≠ 0 then .signaled
  else .launchFailure

end Supervisor

/-- The marks of a report by a sanitizer. -/
def sanitizerMarkers : List Bytes :=
  ["AddressSanitizer", "UndefinedBehaviorSanitizer", "LeakSanitizer", "runtime error:",
    "heap-buffer-overflow", "stack-buffer-overflow", "SUMMARY: AddressSanitizer",
    "SUMMARY: UndefinedBehaviorSanitizer"].map Bytes.ofString

def looksLikeSanitizerReport (stderrData : Bytes) : Bool :=
  sanitizerMarkers.any fun marker => marker <:+: stderrData

/-- The result of a process that was launched. -/
def Supervisor.result (spec : Supervision) (state : Supervisor) (finishedAt : ℤ) :
    ProcessResult where
  launched := true
  termination := state.termination
  timedOut := state.timedOut
  cancelled := state.cancelled
  exited := state.exited
  exitCode := state.exitCode
  termSignal := state.termSignal
  memoryExceeded := state.memoryExceeded
  memoryKb := max 0 state.peakMemoryKb
  stdoutTruncated := state.output.capture.truncated
  stderrTruncated := state.errors.capture.truncated
  sanitizerError :=
    state.termination ≠ .completed && looksLikeSanitizerReport state.errors.capture.buffer
  stdoutData := state.output.capture.buffer
  stderrData := state.errors.capture.buffer
  timeMs := (finishedAt - spec.start).tdiv nanosPerMs

namespace Supervisor

section Cases

variable {spec : Supervision} {round : Round} {state : Supervisor}

/-- What `waitpid` has changed. -/
inductive Reaped (round : Round) (state : Supervisor) : Supervisor → Prop where
  | unchanged : Reaped round state state
  | reaped {status : Option WaitStatus} (alive : state.childReaped = false)
      (ended : round.wait = .noChild ∧ status = state.status ∨
        ∃ answer, round.wait = .reaped answer ∧ status = some answer) :
      Reaped round state
        { state with
          childReaped := true
          status := status
          childReapedAt := round.reapedAt }

theorem reap_cases (round : Round) (state : Supervisor) :
    Reaped round state (state.reap round) := by
  rw [reap]
  split
  · exact .unchanged
  · rename_i alive
    rw [Bool.not_eq_true] at alive
    split
    · rename_i answer reaped
      exact .reaped alive (.inr ⟨answer, reaped, rfl⟩)
    · rename_i noChild
      exact .reaped alive (.inl ⟨noChild, rfl⟩)
    · exact .unchanged
    · exact .unchanged

/-- What the checks do: they end the process for one reason at most, and only once. -/
inductive Checked (spec : Supervision) (round : Round) (state : Supervisor) :
    Supervisor → Prop where
  | unchanged
      (settled : state.killed = true ∨ state.childReaped = true ∨
        round.now < spec.deadline.timePoint) :
      Checked spec round state state
  | sampled (spared : state.killed = false) (alive : state.childReaped = false)
      (early : round.now < spec.deadline.timePoint) (limited : 0 < spec.memoryLimitKb)
      (within : spec.readRss round.rssKb ≤ spec.memoryLimitKb) :
      Checked spec round state (state.takeSample spec round)
  | cancelled (spared : state.killed = false)
      (asked : (spec.cancellable && round.cancelled) = true) :
      Checked spec round state { state.kill round with cancelled := true }
  | timedOut (spared : state.killed = false) (alive : state.childReaped = false)
      (late : spec.deadline.timePoint ≤ round.now) :
      Checked spec round state { state.kill round with timedOut := true }
  | exceeded (spared : state.killed = false) (alive : state.childReaped = false)
      (limited : 0 < spec.memoryLimitKb)
      (above : spec.memoryLimitKb < spec.readRss round.rssKb) :
      Checked spec round state
        { (state.takeSample spec round).kill round with memoryExceeded := true }

theorem checkMemory_of_killed (killed : state.killed = true) :
    state.checkMemory spec round = state := by
  simp [checkMemory, killed]

theorem checkDeadline_of_killed (killed : state.killed = true) :
    state.checkDeadline spec round = state := by
  simp [checkDeadline, killed]

/-- The check of the memory, once the deadline has been looked at. -/
theorem checkMemory_cases (spared : state.killed = false)
    (settled : state.childReaped = true ∨ round.now < spec.deadline.timePoint) :
    Checked spec round state (state.checkMemory spec round) := by
  rw [checkMemory]
  split
  · rename_i due
    simp only [Bool.and_eq_true, Bool.not_eq_true', decide_eq_true_eq] at due
    rcases due with ⟨⟨⟨-, limited⟩, alive⟩, -⟩
    have early : round.now < spec.deadline.timePoint := by simpa [alive] using settled
    split
    · rename_i above
      exact .exceeded spared alive limited above
    · rename_i within
      exact .sampled spared alive early limited (by omega)
  · exact .unchanged (.inr settled)

theorem check_cases (spec : Supervision) (round : Round) (state : Supervisor) :
    Checked spec round (state.readClock round) (state.check spec round) := by
  rw [check]
  generalize state.readClock round = state
  cases killed : state.killed with
  | true =>
      have noCancel : state.checkCancel spec round = state := by simp [checkCancel, killed]
      rw [noCancel, checkDeadline_of_killed killed, checkMemory_of_killed killed]
      exact .unchanged (.inl killed)
  | false =>
      by_cases asked : (spec.cancellable && round.cancelled) = true
      · have cancels : state.checkCancel spec round =
            { state.kill round with cancelled := true } := by
          simp [checkCancel, killed, asked]
        rw [cancels, checkDeadline_of_killed rfl, checkMemory_of_killed rfl]
        exact .cancelled killed asked
      · have goesOn : state.checkCancel spec round = state := by
          simp [checkCancel, killed, asked]
        rw [goesOn]
        by_cases late : state.childReaped = false ∧ spec.deadline.timePoint ≤ round.now
        · have ends : state.checkDeadline spec round =
              { state.kill round with timedOut := true } := by
            simp [checkDeadline, killed, late]
          rw [ends, checkMemory_of_killed rfl]
          exact .timedOut killed late.1 late.2
        · have spares : state.checkDeadline spec round = state := by
            rw [checkDeadline, if_neg]
            simpa [killed] using late
          rw [spares]
          refine checkMemory_cases killed ?_
          cases reaped : state.childReaped with
          | true => exact .inl rfl
          | false =>
              simp only [reaped, true_and, not_le] at late
              exact .inr late

end Cases

end Supervisor

namespace Supervision

/-- How a turn can end. -/
inductive Turned (spec : Supervision) (round : Round) (checked : Supervisor) : Loop → Prop where
  | abandoned (above : checked.graceOver round = true) :
      Turned spec round checked (.left (checked.abandon round) false)
  | pollFailed (failed : round.poll = .failed) : Turned spec round checked (.left checked true)
  | idle (within : checked.graceOver round = false) : Turned spec round checked (.running checked)
  | served (output errors : Option (List ReadAnswer)) (input : InputEvent)
      (within : checked.graceOver round = false) :
      Turned spec round checked (.running (checked.serve spec output errors input))

/-- A turn ends at once when the process and both streams are done; otherwise it checks. -/
theorem turn_cases (spec : Supervision) (state : Supervisor) (round : Round) :
    ((state.reap round).childReaped = true ∧ (state.reap round).output.isOpen = false ∧
        (state.reap round).errors.isOpen = false ∧
        spec.turn state round = .left (state.reap round) false) ∨
      ((state.reap round).childReaped = true →
        ((state.reap round).output.isOpen || (state.reap round).errors.isOpen) = true) ∧
      Turned spec round ((state.reap round).check spec round) (spec.turn state round) := by
  simp only [turn]
  split
  · rename_i finished
    simp only [Bool.and_eq_true, Bool.not_eq_true'] at finished
    exact .inl ⟨finished.1.1, finished.1.2, finished.2, rfl⟩
  · rename_i unfinished
    refine .inr ⟨fun reaped => ?_, ?_⟩
    · simp only [reaped, Bool.true_and, Bool.and_eq_true, Bool.not_eq_true', not_and,
        Bool.not_eq_false] at unfinished
      cases isOpen : (state.reap round).output.isOpen with
      | true => rfl
      | false => simp [unfinished isOpen]
    split
    · rename_i above
      exact .abandoned above
    · rename_i within
      rw [Bool.not_eq_true] at within
      split
      · rename_i failed
        exact .pollFailed failed
      · exact .idle within
      · exact .idle within
      · exact .served _ _ _ within

/-- What every allowed turn keeps holds wherever the loop stands. -/
theorem invariant_of_reaches {allowed : Loop → Round → Prop} (inv : Loop → Prop)
    {spec : Supervision} {first : Supervisor} {loop : Loop}
    (reaches : spec.system.Reaches allowed (.running first) loop) (initially : inv (.running first))
    (preserved : ∀ state round, inv (.running state) → allowed (.running state) round →
      inv (spec.turn state round)) : inv loop := by
  apply reaches.invariant initially
  intro before round next _ holds isAllowed step
  cases before with
  | left => cases step
  | running state =>
      rcases Option.some.inj step with rfl
      exact preserved state round holds isAllowed

end Supervision

end OnlineJudge.Judge
