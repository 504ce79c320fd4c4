import Mathlib.Algebra.Order.Group.Int
import OnlineJudge.Judge.Engine

/-!
# The global time budget

All phases of a judgement share one deadline. No process is started once it has passed,
and none gets more than what is left of it, rounded up to a millisecond: however many
test cases there are, the last process ends less than a millisecond too late.
-/

namespace OnlineJudge.Judge

/-- An executor that returns within the limit that it is given. -/
structure Executor.Punctual (executor : Executor) : Prop where
  compile : ∀ request, 0 ≤ request.timeLimitMs →
    (executor.compile request).elapsed ≤ request.timeLimitMs * nanosPerMs
  run : ∀ index request input, 0 ≤ request.timeLimitMs →
    (executor.run index request input).elapsed ≤ request.timeLimitMs * nanosPerMs

/-- The limit of a phase by itself. -/
def Phase.capMs (options : JudgeOptions) (task : JudgeTask) : Phase → ℤ
  | .compile => options.compileTimeLimitMs
  | .testcase _ _ => min task.timeLimitMs options.maxTimeLimitMs

/-- A process that keeps to the budget of the deadline. -/
structure WithinBudget (options : JudgeOptions) (task : JudgeTask) (deadline : Deadline)
    (launch : Launch) : Prop where
  before : launch.start < deadline.timePoint
  limit_pos : 0 < launch.limitMs
  limit_le_cap : launch.limitMs ≤ launch.phase.capMs options task
  limit_le_remaining : launch.limitMs ≤ ceilMs (deadline.timePoint - launch.start)
  finish_lt : launch.finish < deadline.timePoint + nanosPerMs

variable {options : JudgeOptions} {environment : Environment} {task : JudgeTask}

/-- A process within what is left of the budget overshoots by less than a millisecond. -/
theorem finish_lt_of_limit_le {deadline : Deadline} {launch : Launch}
    (before : launch.start < deadline.timePoint)
    (limit_le : launch.limitMs ≤ deadline.remainingMs launch.start)
    (punctual : launch.execution.elapsed ≤ launch.limitMs * nanosPerMs) :
    launch.finish < deadline.timePoint + nanosPerMs := by
  have overshoot := Deadline.add_remainingMs_lt before
  rw [Launch.finish]
  simp only [nanosPerMs] at *
  omega

theorem CompileStarted.withinBudget {deadline : Deadline} {language : Language}
    {directory : Bytes} {launch : Launch}
    (started : CompileStarted options environment deadline language directory launch)
    (positive : 0 < options.compileTimeLimitMs) (punctual : environment.executor.Punctual) :
    WithinBudget options task deadline launch := by
  have limit_pos := started.limit_pos positive
  have elapsed : launch.execution.elapsed ≤ launch.limitMs * nanosPerMs := by
    rw [started.launch_eq]
    exact punctual.compile (compileRequest options language directory launch.limitMs) limit_pos.le
  refine ⟨started.before, limit_pos, ?_, ?_, ?_⟩
  · rw [started.launch_eq]
    exact started.limit_le
  · exact started.limit_le_remaining.trans (Deadline.remainingMs_le started.before)
  · exact finish_lt_of_limit_le started.before started.limit_le_remaining elapsed

theorem problemLimitMs_eq_min (options : JudgeOptions) (task : JudgeTask) :
    problemLimitMs options task = min task.timeLimitMs options.maxTimeLimitMs := by
  rw [problemLimitMs]
  omega

theorem Started.withinBudget {deadline : Deadline} {directory : Bytes} {index : ℕ}
    {testcase : Testcase} {launch : Launch}
    (started : Started options environment task deadline directory index testcase launch)
    (punctual : environment.executor.Punctual) : WithinBudget options task deadline launch := by
  have elapsed : launch.execution.elapsed ≤ launch.limitMs * nanosPerMs := by
    rw [started.launch_eq]
    exact punctual.run index (runRequest options task directory launch.limitMs) testcase.input
      started.limit_pos.le
  refine ⟨started.before, started.limit_pos, ?_, ?_, ?_⟩
  · rw [started.launch_eq]
    exact started.limit_le.trans (problemLimitMs_eq_min options task).le
  · exact started.limit_le_remaining.trans (Deadline.remainingMs_le started.before)
  · exact finish_lt_of_limit_le started.before started.limit_le_remaining elapsed

/-- The loop keeps to the budget: every pass reads the clock anew. -/
theorem runCases_withinBudget {deadline : Deadline} {directory : Bytes} {index : ℕ}
    {rest : List Testcase} {result : JudgeResult} (punctual : environment.executor.Punctual) :
    ∀ launch ∈ (runCases options environment task deadline directory index rest result).2,
      WithinBudget options task deadline launch := by
  induction rest generalizing index result with
  | nil => simp [runCases]
  | cons testcase rest ih =>
      rw [runCases]
      rcases stepCase_cases options environment task deadline directory index testcase result with
        ⟨final, step, _⟩ | ⟨launch, started, ⟨_, step⟩ | ⟨_, step⟩⟩
      · simp [step]
      · simpa [step] using started.withinBudget punctual
      · rw [step]
        intro other mem
        rcases List.mem_cons.mp mem with rfl | later
        · exact started.withinBudget punctual
        · exact ih other later

/-- Every process of a judgement starts before the deadline, with a positive limit that is within
the limit of its phase and within what is left of the budget, and returns less than a millisecond
after the budget is used up. -/
theorem judge_within_budget (options : JudgeOptions) (environment : Environment)
    (task : JudgeTask) (positive : 0 < options.compileTimeLimitMs)
    (punctual : environment.executor.Punctual) :
    ∀ launch ∈ (judge options environment task).2,
      launch.start < environment.createdAt + options.globalTimeLimitMs * nanosPerMs ∧
        0 < launch.limitMs ∧ launch.limitMs ≤ launch.phase.capMs options task ∧
        launch.limitMs ≤
          ceilMs (environment.createdAt + options.globalTimeLimitMs * nanosPerMs - launch.start) ∧
        launch.finish - environment.createdAt < (options.globalTimeLimitMs + 1) * nanosPerMs := by
  intro launch mem
  suffices within : WithinBudget options task (globalDeadline options environment) launch by
    refine ⟨within.before, within.limit_pos, within.limit_le_cap, within.limit_le_remaining, ?_⟩
    have finish_lt := within.finish_lt
    simp only [globalDeadline, Deadline.afterMs, nanosPerMs] at finish_lt ⊢
    omega
  rcases judge_cases options environment task with
    ⟨final, judged, _⟩ | ⟨_, language, directory, compiled, started, ended⟩
  · simp [judged] at mem
  · have compile_within : WithinBudget options task (globalDeadline options environment) compiled :=
      started.withinBudget positive punctual
    rcases ended with ⟨final, judged, _⟩ | ⟨initial, final, launches, _, ran, judged⟩
    · rw [judged, List.mem_singleton] at mem
      exact mem ▸ compile_within
    · rw [judged] at mem
      rcases List.mem_cons.mp mem with rfl | later
      · exact compile_within
      · have rest_within := @runCases_withinBudget options environment task
          (globalDeadline options environment) directory 0 task.testcases initial punctual
        rw [ran] at rest_within
        exact rest_within launch later

/-- An executor that succeeds and takes all the time it may. -/
def slowExecutor : Executor where
  compile request :=
    { result := { exited := true, timeMs := request.timeLimitMs }
      elapsed := request.timeLimitMs * nanosPerMs }
  run _ request _ :=
    { result := { exited := true, timeMs := request.timeLimitMs }
      elapsed := request.timeLimitMs * nanosPerMs }

theorem slowExecutor_punctual : slowExecutor.Punctual :=
  ⟨fun _ _ => le_rfl, fun _ _ _ _ => le_rfl⟩

/-- A judgement at instant zero whose compiler returns after 60 ms. -/
def slowEnvironment : Environment where
  executor := slowExecutor
  createdAt := 0
  cancelledAtStart := false
  createWorkspace _ := .ok (Bytes.ofString "/tmp/oj")
  writeFile _ _ := .ok ()
  gatePolls := []
  cancelledAtGate := false
  compileAt := 0
  fileExists _ := true
  cancelledAtCase _ := false
  caseAt index := 60000000 + index * 50000000

def twoCases : JudgeTask where
  language := Bytes.ofString "c"
  sourceCode := []
  testcases := [⟨[], []⟩, ⟨[], []⟩]
  timeLimitMs := 1000
  memoryLimitKb := 0

/-- The compiler gets 60 of 100 ms, the first test case the rest, the second is not started. -/
theorem judge_within_budget_slow :
    (judge { compileTimeLimitMs := 60, globalTimeLimitMs := 100 } slowEnvironment twoCases).2.map
        (·.limitMs) = [60, 40] ∧
      ∀ launch ∈
          (judge { compileTimeLimitMs := 60, globalTimeLimitMs := 100 } slowEnvironment
            twoCases).2,
        launch.start < 0 + 100 * nanosPerMs ∧ 0 < launch.limitMs ∧
          launch.limitMs ≤
            launch.phase.capMs { compileTimeLimitMs := 60, globalTimeLimitMs := 100 } twoCases ∧
          launch.limitMs ≤ ceilMs (0 + 100 * nanosPerMs - launch.start) ∧
          launch.finish - 0 < (100 + 1) * nanosPerMs :=
  ⟨by decide +kernel,
    judge_within_budget { compileTimeLimitMs := 60, globalTimeLimitMs := 100 } slowEnvironment
      twoCases (by decide) slowExecutor_punctual⟩

end OnlineJudge.Judge
