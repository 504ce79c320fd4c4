import OnlineJudge.Judge.LocalExecutor
import OnlineJudge.Judge.Supervisor.Outcome
import OnlineJudge.Judge.Verdict

/-!
# What `AC` says about the processes

The engine sees of a process only what the executor reports. With the local executor the
report is exact: behind an accepted submission there is a compiler that was launched and
ended with exit code zero, and behind every test case of it a process that was launched,
that ended by itself with exit code zero, and whose whole output, not only the part that
was kept, matches what is expected.
-/

namespace OnlineJudge.Judge

open Library TransitionSystem

/-- The executor is the local one; each of its processes has its own answers of the host. -/
structure Executor.IsLocal (executor : Executor) (compiler : SpawnHost) (hosts : ℕ → SpawnHost) :
    Prop where
  compiles : ∀ request,
    LocalExecutor.compile compiler request = some (executor.compile request).result
  runs : ∀ index request input,
    LocalExecutor.run (hosts index) request input = some (executor.run index request input).result

/-- The call of `spawn` has launched a process that ended with exit code zero: the loop has
followed it to its end, by the answers of the host, and the result was made from that. -/
structure Finished (host : SpawnHost) (request : SpawnRequest) (result : ProcessResult)
    (state : Supervisor) (readFailed : Bool) : Prop where
  spawned : spawn host request = some result
  launched : result.launched = true
  followed : (supervision host request).system.run
    (.running (.begin (supervision host request) host.initialRssKb)) host.rounds =
      some (.left state readFailed)
  reported : result = (state.close (supervision host request) readFailed host.closing).result
    (supervision host request) host.closing.finishedAt
  exited : (state.close (supervision host request) readFailed host.closing).status =
    some (.exited 0)

/-- A process that has also done what was asked of it. -/
structure EndedWell (host : SpawnHost) (request : SpawnRequest) (expected : Bytes)
    (result : ProcessResult) (state : Supervisor) (readFailed : Bool) : Prop
    extends Finished host request result state readFailed where
  /-- It was not ended by the loop; what was killed later was not the process itself. -/
  byItself : readFailed = false → ∀ kill ∈
    (state.close (supervision host request) readFailed host.closing).history.kills,
    kill.reaped = true
  withinMemory : ∀ sample ∈
    (state.close (supervision host request) readFailed host.closing).history.samples,
    sample.enforced = true → sample.rssKb ≤ request.memoryLimitKb
  fed : (state.close (supervision host request) readFailed host.closing).history.sent <+:
    request.input
  whole : (state.close (supervision host request) readFailed
    host.closing).history.outputRead.length ≤ request.stdoutLimit
  outputs_match : outputsMatch expected
    (state.close (supervision host request) readFailed host.closing).history.outputRead = true

variable {host : SpawnHost} {request : SpawnRequest} {result : ProcessResult}

/-- The outcomes of `spawn`: two kinds of failure before the launch, or the loop. -/
theorem spawn_cases (host : SpawnHost) (request : SpawnRequest) :
    (∃ failed, spawn host request = some failed ∧
        (failed.launchError = true ∨ failed.cancelled = true)) ∨
      spawn host request = supervise host request := by
  unfold spawn
  split
  · exact .inl ⟨_, rfl, .inl rfl⟩
  · exact .inl ⟨_, rfl, .inl rfl⟩
  · split
    · exact .inl ⟨_, rfl, .inr rfl⟩
    split
    · exact .inl ⟨_, rfl, .inl rfl⟩
    split
    · exact .inl ⟨_, rfl, .inl rfl⟩
    split
    · exact .inl ⟨_, rfl, .inl rfl⟩
    split
    · exact .inl ⟨_, rfl, .inl rfl⟩
    · exact .inr rfl

/-- Only a process that was launched has neither of the two flags. -/
theorem supervise_of_spawn (spawned : spawn host request = some result)
    (launched : result.launchError = false) (notCancelled : result.cancelled = false) :
    supervise host request = some result := by
  rcases spawn_cases host request with ⟨failed, isFailed, flags⟩ | same
  · rw [isFailed, Option.some.injEq] at spawned
    subst failed
    simp [launched, notCancelled] at flags
  · exact same.symm.trans spawned

/-- The loop has come to its end. -/
theorem run_of_supervise (supervised : supervise host request = some result) :
    ∃ state readFailed,
      (supervision host request).system.run
        (.running (.begin (supervision host request) host.initialRssKb)) host.rounds =
          some (.left state readFailed) ∧
      result = (state.close (supervision host request) readFailed host.closing).result
        (supervision host request) host.closing.finishedAt := by
  simp only [supervise] at supervised
  split at supervised
  · rename_i state readFailed ran
    exact ⟨state, readFailed, ran, (Option.some.inj supervised).symm⟩
  · simp at supervised

theorem finished_of_exited (spawned : spawn host request = some result)
    (launched : result.launchError = false) (notCancelled : result.cancelled = false)
    (exited : result.exited = true) (exitCode : result.exitCode = 0) :
    ∃ state readFailed, Finished host request result state readFailed := by
  rcases run_of_supervise (supervise_of_spawn spawned launched notCancelled) with
    ⟨state, readFailed, ran, reported⟩
  refine ⟨state, readFailed, spawned, by rw [reported]; rfl, ran, reported, ?_⟩
  simp only [reported, Supervisor.result] at exited exitCode
  exact Supervisor.status_of_exited exited exitCode

/-- Evidence that passes, given by a process of the local executor. -/
theorem Finished.endedWell {state : Supervisor} {readFailed : Bool}
    (finished : Finished host request result state readFailed) {expected : Bytes}
    (notCancelled : result.cancelled = false) (inTime : result.timedOut = false)
    (withinMemory : result.memoryExceeded = false) (whole : result.stdoutTruncated = false)
    (matching : outputsMatch expected result.stdoutData = true) :
    EndedWell host request expected result state readFailed := by
  have reported := finished.reported
  have sound : state.Sound (supervision host request) host.rounds :=
    Supervision.sound_of_run finished.followed
  have explained := sound.explained readFailed host.closing host.closing.finishedAt
  rw [← reported] at explained
  rcases Supervisor.close_cases (supervision host request) state readFailed host.closing with
    ⟨-, -, -, closed⟩
  have streams := closed sound.streams
  have noReason : (state.close (supervision host request) readFailed host.closing).reasons =
      (false, false, false) := by
    simp only [reported, Supervisor.result] at notCancelled inTime withinMemory
    simp only [Supervisor.reasons, Prod.mk.injEq]
    exact ⟨notCancelled, inTime, withinMemory⟩
  have short : (state.close (supervision host request) readFailed
      host.closing).history.outputRead.length ≤ (supervision host request).stdoutLimit := by
    rw [← not_lt, ← streams.output.truncated]
    rw [reported] at whole
    simpa [Supervisor.result] using whole
  refine ⟨finished, explained.byItself noReason, ?_, ?_, short, ?_⟩
  · intro sample mem enforced
    by_contra above
    rw [not_le] at above
    have exceeded := explained.overLimit.mpr ⟨sample, mem, enforced, above⟩
    simp [withinMemory] at exceeded
  · rw [streams.sent]
    exact List.take_prefix _ _
  · have kept := streams.output.buffer
    rw [List.take_of_length_le short] at kept
    rw [← kept]
    simpa [reported, Supervisor.result] using matching

section Verdict

variable {options : JudgeOptions} {environment : Environment} {task : JudgeTask}

/-- Behind an `AC` of the local executor there are a compiler that ended with exit code zero and,
for every test case, a process in the same directory that ended by itself with exit code zero,
within its memory, and whose whole output is the expected one. -/
theorem accepted_output_is_whole {compiler : SpawnHost} {hosts : ℕ → SpawnHost}
    (isLocal : environment.executor.IsLocal compiler hosts)
    (accepted : (judge options environment task).1.status = .AC) :
    ∃ directory,
      (∃ language limitMs result state readFailed,
        Finished compiler
          (LocalExecutor.compileSpawn (compileRequest options language directory limitMs))
          result state readFailed) ∧
      ∀ case ∈ task.testcases.zipIdx, ∃ limitMs result state readFailed,
        EndedWell (hosts case.2)
          (LocalExecutor.runSpawn (runRequest options task directory limitMs) case.1.input)
          case.1.output result state readFailed := by
  rcases judge_accepted_iff_deserved.mp accepted with ⟨language, directory, deserved⟩
  refine ⟨directory, ?_, ?_⟩
  · have succeeded := deserved.compiled
    have spawned := isLocal.compiles (compileRequest options language directory
      (compileProcess options environment (globalDeadline options environment) language
        directory).limitMs)
    rcases finished_of_exited spawned succeeded.launched succeeded.not_cancelled
      succeeded.exited succeeded.exitCode_eq with ⟨state, readFailed, finished⟩
    exact ⟨language, _, _, state, readFailed, finished⟩
  · intro case mem
    have passed := (deserved.passed case mem).2
    have spawned := isLocal.runs case.2 (runRequest options task directory
      (caseProcess options environment task (globalDeadline options environment) directory
        case).limitMs) case.1.input
    rcases finished_of_exited spawned passed.launched passed.not_cancelled passed.exited
      passed.exitCode_eq with ⟨state, readFailed, finished⟩
    exact ⟨_, _, state, readFailed,
      finished.endedWell passed.not_cancelled passed.within_time passed.within_memory
        passed.whole_output passed.outputs_match⟩

/-- The process writes a line and ends with exit code zero. -/
def answering : Round where
  wait := .reaped (.exited 0)
  reapedAt := 1000
  now := 2000
  cancelled := false
  rssKb := 0
  poll := .ready (some [.data [52, 50, 10] (by decide), .endOfFile]) (some [.endOfFile]) .quiet

def answeringHost : SpawnHost where
  cancellable := false
  cancelledBefore := false
  path := none
  accessError _ := none
  rules _ := []
  setupError := none
  failure _ := none
  strerror _ := []
  payloadPid := 7
  start := 0
  initialRssKb := 0
  rounds := [answering, answering]
  closing := { wait := .running, killedAt := 0, finishedAt := 3000, rssKb := 0 }

theorem check_of_reaped {spec : Supervision} {round : Round} {state : Supervisor}
    (reaped : state.childReaped = true) (calm : round.cancelled = false) :
    state.check spec round = state.readClock round := by
  simp [Supervisor.check, Supervisor.checkCancel, Supervisor.checkDeadline,
    Supervisor.checkMemory, Supervisor.readClock, reaped, calm]

theorem turn_answering (spec : Supervision) {state : Supervisor}
    (alive : state.childReaped = false) (output : state.output = {})
    (errors : state.errors = {}) :
    ∃ next, spec.turn state answering = .running next ∧
      spec.turn next answering = .left next false := by
  have looked : state.reap answering =
      { state with childReaped := true, status := some (.exited 0), childReapedAt := 1000 } := by
    simp [Supervisor.reap, alive, answering]
  have quiet (served : Supervisor) : served.feed spec .quiet = served := by
    simp [Supervisor.feed]
  have finished (next : Supervisor) (reaped : next.childReaped = true)
      (closed : next.output.isOpen = false ∧ next.errors.isOpen = false) :
      spec.turn next answering = .left next false := by
    have again : next.reap answering = next := by simp [Supervisor.reap, reaped]
    simp [Supervision.turn, again, reaped, closed]
  suffices served : ∃ next, spec.turn state answering = .running next ∧
      next.childReaped = true ∧ next.output.isOpen = false ∧ next.errors.isOpen = false by
    rcases served with ⟨next, turned, reaped, closed⟩
    exact ⟨next, turned, finished next reaped closed⟩
  simp only [Supervision.turn, looked, output, errors]
  rw [check_of_reaped (by rfl) (by rfl)]
  simp [Supervisor.graceOver, Supervisor.readClock, answering, graceMs, nanosPerMs,
    Supervisor.serve, quiet, Supervisor.readOutput, Supervisor.readErrors, Pipe.poll, Pipe.drain]

/-- Whatever is asked of the host, the call comes to its end. -/
theorem spawn_answering (request : SpawnRequest) : (spawn answeringHost request).isSome = true := by
  rcases spawn_cases answeringHost request with ⟨failed, isFailed, -⟩ | same
  · simp [isFailed]
  · rw [same, supervise]
    generalize supervision answeringHost request = spec
    have begun : (Supervisor.begin spec 0).childReaped = false ∧
        (Supervisor.begin spec 0).output = {} ∧ (Supervisor.begin spec 0).errors = {} := by
      simp only [Supervisor.begin]
      split <;> exact ⟨rfl, rfl, rfl⟩
    rcases turn_answering spec begun.1 begun.2.1 begun.2.2 with ⟨next, first, second⟩
    simp [answeringHost, TransitionSystem.run, Supervision.system, first, second]

def answeringExecutor : Executor where
  compile request :=
    { result := (LocalExecutor.compile answeringHost request).getD {}, elapsed := 0 }
  run _ request input :=
    { result := (LocalExecutor.run answeringHost request input).getD {}, elapsed := 0 }

theorem answeringExecutor_isLocal :
    answeringExecutor.IsLocal answeringHost fun _ => answeringHost where
  compiles _ :=
    (Option.some_get (spawn_answering _)).symm.trans (congrArg some (Option.get_eq_getD _))
  runs _ _ _ :=
    (Option.some_get (spawn_answering _)).symm.trans (congrArg some (Option.get_eq_getD _))

def answeringEnvironment : Environment :=
  { promptEnvironment with executor := answeringExecutor }

theorem accepted_output_is_whole_answered :
    ∃ directory limitMs result state readFailed,
      EndedWell answeringHost
        (LocalExecutor.runSpawn (runRequest {} oneCase directory limitMs) []) [52, 50]
        result state readFailed := by
  rcases accepted_output_is_whole answeringExecutor_isLocal
    (show (judge {} answeringEnvironment oneCase).1.status = .AC by decide +kernel) with
    ⟨directory, -, ended⟩
  exact ⟨directory, ended (⟨[], [52, 50]⟩, 0) (by simp [oneCase])⟩

end Verdict

end OnlineJudge.Judge
