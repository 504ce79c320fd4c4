import OnlineJudge.Judge.Classification
import OnlineJudge.Judge.Comparator
import OnlineJudge.Judge.Executor

/-!
# The judge engine

`JudgeEngine::judge`: check the input, create a directory, compile once, run the test
cases in order, sum up. Everything the engine asks of the outside is a value of the
environment, one for each time it asks; the processes that it starts are listed beside
the result.
-/

namespace OnlineJudge.Judge

structure JudgeOptions where
  workspaceRoot : Bytes := []
  cppCompiler : Bytes := Bytes.ofString "g++"
  cCompiler : Bytes := Bytes.ofString "gcc"
  compileTimeLimitMs : ℤ := 10000
  maxTimeLimitMs : ℤ := 60000
  globalTimeLimitMs : ℤ := 60000
  stdoutLimitBytes : ℕ := 64 * 1024
  stderrLimitBytes : ℕ := 16 * 1024
  compileOutputLimitBytes : ℕ := 64 * 1024
  sandboxEnabled : Bool := true
  compileMemoryLimitKb : ℤ := 1024 * 1024
  defaultMemoryLimitKb : ℤ := 65536
  extraCompileFlags : List Bytes := []
  sanitizersEnabled : Bool := true
  deriving DecidableEq, Repr

/-- What one call of the engine meets: the token at each look, the clock at each reading, the
file system, the gate and the executor. -/
structure Environment where
  executor : Executor
  createdAt : ℤ
  cancelledAtStart : Bool
  /-- `Workspace::create`: the path of the new directory or an error. -/
  createWorkspace : Bytes → Except Bytes Bytes
  writeFile : Bytes → Bytes → Except Bytes Unit
  gatePolls : List GatePoll
  cancelledAtGate : Bool
  compileAt : ℤ
  fileExists : Bytes → Bool
  cancelledAtCase : ℕ → Bool
  caseAt : ℕ → ℤ

inductive Phase where
  | compile
  | testcase (index : ℕ) (input : Bytes)
  deriving DecidableEq, Repr

structure Launch where
  phase : Phase
  limitMs : ℤ
  start : ℤ
  execution : Execution
  deriving DecidableEq, Repr

namespace Launch

def result (launch : Launch) : ProcessResult := launch.execution.result

def finish (launch : Launch) : ℤ := launch.start + launch.execution.elapsed

end Launch

/-- `judge_status_severity`. -/
def JudgeStatus.severity : JudgeStatus → ℕ
  | .AC => 0
  | .WA => 1
  | .RE => 2
  | .MLE => 3
  | .TLE => 4
  | .SYSERR => 5
  | .CE => 6

/-- `summarize_cases`: the most severe status, the first of equals. -/
def summarizeCases (cases : List TestcaseResult) : JudgeStatus :=
  if cases = [] then .SYSERR
  else
    cases.foldl
      (fun worst item => if worst.severity < item.status.severity then item.status else worst) .AC

section Engine

variable (options : JudgeOptions) (environment : Environment) (task : JudgeTask)

def markGlobalExhausted (result : JudgeResult) : JudgeResult :=
  { result with
    globalDeadlineHit := true
    status := .SYSERR
    message :=
      Bytes.ofString "全局判题时间上限（" ++ Bytes.ofInt options.globalTimeLimitMs ++
        Bytes.ofString " ms）耗尽，剩余测试点未执行" }

def markCancelled (result : JudgeResult) : JudgeResult :=
  { result with
    cancelled := true
    status := .SYSERR
    message := Bytes.ofString "服务停止，判题已取消" }

def systemError (message : Bytes) (result : JudgeResult) : JudgeResult :=
  { result with status := .SYSERR, message := message }

/-- The time limit of the problem, cut at the limit of a single test case. -/
def problemLimitMs : ℤ :=
  if options.maxTimeLimitMs < task.timeLimitMs then options.maxTimeLimitMs else task.timeLimitMs

def effectiveMemoryLimitKb : ℤ :=
  if 0 < task.memoryLimitKb then task.memoryLimitKb else options.defaultMemoryLimitKb

/-- `operator/` of `std::filesystem::path`, for a relative name. -/
def joinPath (directory name : Bytes) : Bytes :=
  if directory = [] ∨ directory.getLast? = some 47 then directory ++ name
  else directory ++ [47] ++ name

def sourceName : Language → Bytes
  | .cpp17 => Bytes.ofString "main.cpp"
  | .c11 => Bytes.ofString "main.c"

def executablePath (directory : Bytes) : Bytes := joinPath directory (Bytes.ofString "program")

def compileRequest (language : Language) (directory : Bytes) (limitMs : ℤ) : CompileRequest where
  language := language
  compiler :=
    match language with
    | .cpp17 => options.cppCompiler
    | .c11 => options.cCompiler
  sourcePath := joinPath directory (sourceName language)
  outputPath := executablePath directory
  workingDirectory := directory
  extraFlags := options.extraCompileFlags
  sanitizers := options.sanitizersEnabled
  timeLimitMs := limitMs
  outputLimitBytes := options.compileOutputLimitBytes
  sandbox := options.sandboxEnabled
  memoryLimitKb := options.compileMemoryLimitKb

def runRequest (directory : Bytes) (limitMs : ℤ) : RunRequest where
  executablePath := executablePath directory
  workingDirectory := directory
  timeLimitMs := limitMs
  stdoutLimitBytes := options.stdoutLimitBytes
  stderrLimitBytes := options.stderrLimitBytes
  sandbox := options.sandboxEnabled
  memoryLimitKb := effectiveMemoryLimitKb options task

/-- The diagnostics of the compiler: both streams, without internal paths. -/
def compileDiagnostics (directory : Bytes) (compiled : ProcessResult) : Bytes :=
  scrubCompileDiagnostics
    (if compiled.stderrData = [] then compiled.stdoutData
    else if compiled.stdoutData = [] then compiled.stderrData
    else compiled.stdoutData ++ [10] ++ compiled.stderrData)
    directory

def recordCompile (directory : Bytes) (compiled : ProcessResult) (result : JudgeResult) :
    JudgeResult :=
  { result with
    compileTimeMs := compiled.timeMs
    compileOutputTruncated := compiled.stdoutTruncated
    compileOutput := compileDiagnostics directory compiled }

def compilerMissingMessage (compiled : ProcessResult) : Bytes :=
  (if compiled.sandboxError then Bytes.ofString "编译沙箱不可用: "
  else Bytes.ofString "编译环境故障: ") ++ compiled.launchErrorMessage

/-- How the judgement ends when there is nothing to run, `none` when the program was built.
`capped` tells that the global budget had cut the limit of the compiler. -/
def compileFailure (capped : Bool) (directory : Bytes) (compiled : ProcessResult)
    (result : JudgeResult) : Option JudgeResult :=
  if compiled.cancelled then some (markCancelled result)
  else if compiled.launchError then
    some (systemError (compilerMissingMessage compiled) result)
  else if compiled.timedOut then
    if capped then some (markGlobalExhausted options result)
    else
      some
        { result with
          status := .CE
          message :=
            Bytes.ofString "编译超时（" ++ Bytes.ofInt options.compileTimeLimitMs ++
              Bytes.ofString " ms）" }
  else if compiled.exited = false then
    some (systemError (Bytes.ofString "编译器未正常结束") result)
  else if compiled.termSignal ≠ 0 then
    some <| systemError
      (Bytes.ofString "编译器被信号 " ++ Bytes.ofInt compiled.termSignal ++
        Bytes.ofString " 终止") result
  else if compiled.exitCode ≠ 0 then
    some { result with status := .CE, message := Bytes.ofString "编译错误" }
  else if environment.fileExists (executablePath directory) = false then
    some (systemError (Bytes.ofString "编译成功但未生成可执行文件") result)
  else none

/-- The evidence on a test case, from what the executor reports. -/
def caseEvidence (globalCapped : Bool) (testcase : Testcase) (run : ProcessResult) :
    CaseEvidence where
  launchError := run.launchError
  sandboxError := run.sandboxError
  cancelled := run.cancelled
  timedOut := run.timedOut
  globalCapped := globalCapped
  memoryExceeded := run.memoryExceeded
  exited := run.exited
  exitCode := run.exitCode
  termSignal := run.termSignal
  outputTruncated := run.stdoutTruncated
  sanitizerError := run.sanitizerError
  outputMatches := outputsMatch testcase.output run.stdoutData
  timeLimitMs := problemLimitMs options task
  memoryLimitKb := effectiveMemoryLimitKb options task
  peakMemoryKb := run.memoryKb
  stdoutLimitBytes := options.stdoutLimitBytes

/-- The result of a test case. A program that could not be started keeps the reason that the
executor gives. -/
def caseResult (index : ℕ) (verdict : CaseVerdict) (run : ProcessResult) : TestcaseResult where
  index := index
  status := verdict.status
  timeMs := run.timeMs
  memoryKb := run.memoryKb
  memoryExceeded := run.memoryExceeded
  timedOut := run.timedOut
  outputTruncated := run.stdoutTruncated
  globalDeadlineHit := verdict.globalDeadlineHit
  termination := run.termination
  sanitizerError := run.sanitizerError
  exitCode := run.exitCode
  termSignal := run.termSignal
  actualOutput := if verdict.status = .AC then [] else run.stdoutData
  stderrOutput := run.stderrData
  message :=
    (if run.launchError then
      (if run.sandboxError then Bytes.ofString "运行沙箱不可用: "
        else Bytes.ofString "无法启动运行进程: ") ++ run.launchErrorMessage
    else verdict.message) ++
      (if verdict.globalDeadlineHit then
        Bytes.ofString "（" ++ Bytes.ofInt options.globalTimeLimitMs ++ Bytes.ofString " ms）"
      else [])

def addCase (item : TestcaseResult) (result : JudgeResult) : JudgeResult :=
  { result with
    cases := result.cases ++ [item]
    passed := if item.status = .AC then result.passed + 1 else result.passed }

/-- The process for a test case, started at once after the clock was read. -/
def caseLaunch (directory : Bytes) (limitMs : ℤ) (index : ℕ) (testcase : Testcase) : Launch where
  phase := .testcase index testcase.input
  limitMs := limitMs
  start := environment.caseAt index
  execution :=
    environment.executor.run index (runRequest options task directory limitMs) testcase.input

def caseVerdict (testcase : Testcase) (launch : Launch) : CaseVerdict :=
  classifyCase
    (caseEvidence options task (launch.limitMs < problemLimitMs options task) testcase
      launch.result)

/-- What is left to do after a case that ends the loop. -/
def abortCases (run : ProcessResult) (result : JudgeResult) : JudgeResult :=
  if run.cancelled then markCancelled result
  else if run.launchError then result
  else markGlobalExhausted options result

/-- One pass of the loop: it leaves before the process is started, leaves after it, or goes on. -/
inductive CaseStep where
  | stopped (result : JudgeResult)
  | aborted (result : JudgeResult) (launch : Launch)
  | continued (result : JudgeResult) (launch : Launch)

def stepCase (deadline : Deadline) (directory : Bytes) (index : ℕ) (testcase : Testcase)
    (result : JudgeResult) : CaseStep :=
  if environment.cancelledAtCase index then .stopped (markCancelled result)
  else
    let remaining := deadline.remainingMs (environment.caseAt index)
    if remaining ≤ 0 then .stopped (markGlobalExhausted options result)
    else
      let limit := effectiveTimeLimitMs (problemLimitMs options task) remaining
      if limit ≤ 0 then .stopped (markGlobalExhausted options result)
      else
        let launch := caseLaunch options environment task directory limit index testcase
        let verdict := caseVerdict options task testcase launch
        let added := addCase (caseResult options index verdict launch.result) result
        if verdict.abortRemaining then .aborted (abortCases options launch.result added) launch
        else .continued added launch

/-- The loop over the test cases, from the one at `index` on. -/
def runCases (deadline : Deadline) (directory : Bytes) :
    ℕ → List Testcase → JudgeResult → JudgeResult × List Launch
  | _, [], result => (result, [])
  | index, testcase :: rest, result =>
      match stepCase options environment task deadline directory index testcase result with
      | .stopped final => (final, [])
      | .aborted final launch => (final, [launch])
      | .continued added launch =>
          let (final, launches) := runCases deadline directory (index + 1) rest added
          (final, launch :: launches)

/-- The end of the judgement: a stop by the budget or by the service overrides the verdicts. -/
def summarize (result : JudgeResult) : JudgeResult :=
  let status := summarizeCases result.cases
  if result.globalDeadlineHit then { result with status := .SYSERR }
  else if result.cancelled then { result with status := .SYSERR }
  else if status = .AC then
    { result with status := status, message := Bytes.ofString "全部测试点通过" }
  else if status = .WA then
    { result with status := status, message := Bytes.ofString "存在输出不匹配的测试点" }
  else { result with status := status }

/-- The compiler, started at once after the clock was read. -/
def compileLaunch (language : Language) (directory : Bytes) (limitMs : ℤ) : Launch where
  phase := .compile
  limitMs := limitMs
  start := environment.compileAt
  execution :=
    environment.executor.compile (compileRequest options language directory limitMs)

/-- From the compile permit on. -/
def compileAndRun (deadline : Deadline) (language : Language) (directory : Bytes)
    (result : JudgeResult) : JudgeResult × List Launch :=
  let remaining := deadline.remainingMs environment.compileAt
  if remaining ≤ 0 then (markGlobalExhausted options result, [])
  else
    let capped := remaining < options.compileTimeLimitMs
    let limit := if capped then remaining else options.compileTimeLimitMs
    let launch := compileLaunch options environment language directory limit
    let recorded := recordCompile directory launch.result result
    match compileFailure options environment capped directory launch.result recorded with
    | some failed => (failed, [launch])
    | none =>
        let (final, launches) :=
          runCases options environment task deadline directory 0 task.testcases
            { recorded with compileOk := true }
        (summarize final, launch :: launches)

def judge : JudgeResult × List Launch :=
  let result : JudgeResult := { total := task.testcases.length }
  match parseLanguage task.language with
  | none => (systemError (Bytes.ofString "不支持的语言: " ++ task.language) result, [])
  | some language =>
      if task.testcases = [] then
        (systemError (Bytes.ofString "没有可执行的测试用例") result, [])
      else if task.timeLimitMs ≤ 0 then
        (systemError
          (Bytes.ofString "无效的时间限制: " ++ Bytes.ofInt task.timeLimitMs ++
            Bytes.ofString " ms") result, [])
      else
        let deadline := Deadline.afterMs environment.createdAt options.globalTimeLimitMs
        if environment.cancelledAtStart then (markCancelled result, [])
        else
          match environment.createWorkspace options.workspaceRoot with
          | .error error =>
              (systemError (Bytes.ofString "创建判题工作目录失败: " ++ error) result, [])
          | .ok directory =>
              match environment.writeFile (joinPath directory (sourceName language))
                  task.sourceCode with
              | .error error => (systemError (Bytes.ofString "写入源码失败: " ++ error) result, [])
              | .ok () =>
                  if acquire deadline environment.gatePolls then
                    compileAndRun options environment task deadline language directory result
                  else if environment.cancelledAtGate then (markCancelled result, [])
                  else (markGlobalExhausted options result, [])

/-- A process started for a test case, within its limits. -/
structure Started (deadline : Deadline) (directory : Bytes) (index : ℕ) (testcase : Testcase)
    (launch : Launch) : Prop where
  not_cancelled : environment.cancelledAtCase index = false
  launch_eq :
    launch = caseLaunch options environment task directory launch.limitMs index testcase
  before : launch.start < deadline.timePoint
  limit_pos : 0 < launch.limitMs
  limit_le : launch.limitMs ≤ problemLimitMs options task
  limit_le_remaining : launch.limitMs ≤ deadline.remainingMs launch.start

theorem Started.phase_eq {deadline : Deadline} {directory : Bytes} {index : ℕ}
    {testcase : Testcase} {launch : Launch}
    (started : Started options environment task deadline directory index testcase launch) :
    launch.phase = .testcase index testcase.input := by
  rw [started.launch_eq]
  rfl

theorem Started.start_eq {deadline : Deadline} {directory : Bytes} {index : ℕ}
    {testcase : Testcase} {launch : Launch}
    (started : Started options environment task deadline directory index testcase launch) :
    launch.start = environment.caseAt index := by
  rw [started.launch_eq]
  rfl

/-- The result that a process leaves for its test case. -/
def ranCase (index : ℕ) (testcase : Testcase) (launch : Launch) : TestcaseResult :=
  caseResult options index (caseVerdict options task testcase launch) launch.result

/-- All that one pass of the loop can do. -/
theorem stepCase_cases (deadline : Deadline) (directory : Bytes) (index : ℕ)
    (testcase : Testcase) (result : JudgeResult) :
    (∃ final, stepCase options environment task deadline directory index testcase result =
        .stopped final ∧
      (final = markCancelled result ∨ final = markGlobalExhausted options result)) ∨
    ∃ launch, Started options environment task deadline directory index testcase launch ∧
      (((caseVerdict options task testcase launch).abortRemaining = true ∧
          stepCase options environment task deadline directory index testcase result =
            .aborted
              (abortCases options launch.result
                (addCase (ranCase options task index testcase launch) result)) launch) ∨
        ((caseVerdict options task testcase launch).abortRemaining = false ∧
          stepCase options environment task deadline directory index testcase result =
            .continued (addCase (ranCase options task index testcase launch) result) launch)) := by
  rw [stepCase]
  split
  · exact .inl ⟨_, rfl, .inl rfl⟩
  · dsimp only
    split
    · exact .inl ⟨_, rfl, .inr rfl⟩
    · split
      · exact .inl ⟨_, rfl, .inr rfl⟩
      · rename_i running remaining limited
        have positive := Int.not_le.mp limited
        have limits := effectiveTimeLimitMs_le positive
        have before := Deadline.remainingMs_pos_iff.mp (Int.not_le.mp remaining)
        generalize effectiveTimeLimitMs (problemLimitMs options task)
          (deadline.remainingMs (environment.caseAt index)) = limit at positive limits ⊢
        refine .inr ⟨caseLaunch options environment task directory limit index testcase,
          ⟨by simpa using running, rfl, before, positive, limits.1, limits.2⟩, ?_⟩
        split
        · exact .inl ⟨‹_›, rfl⟩
        · rename_i continues
          exact .inr ⟨by simpa using continues, rfl⟩

/-- The compiler, started within its limits. -/
structure CompileStarted (deadline : Deadline) (language : Language) (directory : Bytes)
    (launch : Launch) : Prop where
  launch_eq : launch = compileLaunch options environment language directory launch.limitMs
  before : launch.start < deadline.timePoint
  limit_le : launch.limitMs ≤ options.compileTimeLimitMs
  limit_le_remaining : launch.limitMs ≤ deadline.remainingMs launch.start
  limit_pos : 0 < options.compileTimeLimitMs → 0 < launch.limitMs

/-- The compiler ran to its end and reported success. -/
structure ProcessResult.Succeeded (compiled : ProcessResult) : Prop where
  not_cancelled : compiled.cancelled = false
  launched : compiled.launchError = false
  within_time : compiled.timedOut = false
  exited : compiled.exited = true
  termSignal_eq : compiled.termSignal = 0
  exitCode_eq : compiled.exitCode = 0

/-- An input that cannot be judged. -/
def BadInput : Prop :=
  parseLanguage task.language = none ∨ task.testcases = [] ∨ task.timeLimitMs ≤ 0

/-- A judgement that ended before the first test case. -/
structure NothingRun (initial final : JudgeResult) (launches : List Launch) : Prop where
  cases_eq : final.cases = initial.cases
  passed_eq : final.passed = initial.passed
  total_eq : final.total = initial.total
  launches_le : launches.length ≤ 1
  status_eq :
    final.status = .SYSERR ∨
      final.status = .CE ∧ launches ≠ [] ∧ final.cancelled = initial.cancelled ∧
        final.globalDeadlineHit = initial.globalDeadlineHit ∧
        ∀ launch ∈ launches, launch.result.cancelled = false ∧ launch.result.launchError = false

theorem compileFailure_eq_none_iff {capped : Bool} {directory : Bytes} {compiled : ProcessResult}
    {result : JudgeResult} :
    compileFailure options environment capped directory compiled result = none ↔
      compiled.Succeeded ∧ environment.fileExists (executablePath directory) = true := by
  constructor
  · intro built
    unfold compileFailure at built
    split_ifs at built with h1 h2 h3 _ h4 h5 h6 h7
    exact
      ⟨⟨by simpa using h1, by simpa using h2, by simpa using h3, by simpa using h4,
        not_not.mp h5, not_not.mp h6⟩, by simpa using h7⟩
  · rintro ⟨⟨h1, h2, h3, h4, h5, h6⟩, h7⟩
    simp [compileFailure, h1, h2, h3, h4, h5, h6, h7]

theorem compileFailure_nothingRun {capped : Bool} {directory : Bytes} {launch : Launch}
    {result final : JudgeResult}
    (failed : compileFailure options environment capped directory launch.result result =
      some final) :
    NothingRun result final [launch] := by
  unfold compileFailure at failed
  split_ifs at failed with h1 h2 h3 <;> cases failed
  all_goals
    first
    | exact ⟨rfl, rfl, rfl, le_rfl, .inl rfl⟩
    | exact ⟨rfl, rfl, rfl, le_rfl, .inr ⟨rfl, by simp, rfl, rfl, by simp [h1, h2]⟩⟩

/-- The global deadline of the judgement. -/
def globalDeadline : Deadline := .afterMs environment.createdAt options.globalTimeLimitMs

/-- The compiler built the program and the loop over the test cases was entered. -/
structure LoopEntered (launch : Launch) (directory : Bytes) (initial : JudgeResult) : Prop where
  good_input : ¬BadInput task
  directory_eq : environment.createWorkspace options.workspaceRoot = .ok directory
  succeeded : launch.result.Succeeded
  built : environment.fileExists (executablePath directory) = true
  cases_eq : initial.cases = []
  passed_eq : initial.passed = 0
  total_eq : initial.total = task.testcases.length
  compileOk : initial.compileOk = true
  not_cancelled : initial.cancelled = false
  within_budget : initial.globalDeadlineHit = false

theorem compileAndRun_cases (deadline : Deadline) (language : Language) {directory : Bytes}
    (good_input : ¬BadInput task)
    (created : environment.createWorkspace options.workspaceRoot = .ok directory) :
    (∃ final, compileAndRun options environment task deadline language directory
          { total := task.testcases.length } = (final, []) ∧
        NothingRun { total := task.testcases.length } final []) ∨
      ∃ launch, CompileStarted options environment deadline language directory launch ∧
        ((∃ final, compileAndRun options environment task deadline language directory
              { total := task.testcases.length } = (final, [launch]) ∧
            NothingRun { total := task.testcases.length } final [launch]) ∨
          ∃ initial final launches, LoopEntered options environment task launch directory initial ∧
            runCases options environment task deadline directory 0 task.testcases initial =
              (final, launches) ∧
            compileAndRun options environment task deadline language directory
              { total := task.testcases.length } = (summarize final, launch :: launches)) := by
  unfold compileAndRun
  dsimp only
  split
  · exact .inl ⟨_, rfl, rfl, rfl, rfl, Nat.zero_le _, .inl rfl⟩
  · rename_i remaining
    have before := Deadline.remainingMs_pos_iff.mp (Int.not_le.mp remaining)
    obtain ⟨limit, limit_eq⟩ : ∃ limit,
        (if deadline.remainingMs environment.compileAt < options.compileTimeLimitMs then
          deadline.remainingMs environment.compileAt else options.compileTimeLimitMs) = limit :=
      ⟨_, rfl⟩
    rw [limit_eq]
    refine .inr ⟨compileLaunch options environment language directory limit,
      ⟨rfl, before, ?_, ?_, ?_⟩, ?_⟩
    · change limit ≤ _
      omega
    · change limit ≤ deadline.remainingMs environment.compileAt
      omega
    · change _ → 0 < limit
      omega
    · split
      · rename_i failure
        have nothing := compileFailure_nothingRun options environment failure
        exact .inl ⟨_, rfl, ⟨nothing.cases_eq, nothing.passed_eq, nothing.total_eq,
          nothing.launches_le, nothing.status_eq⟩⟩
      · rename_i built
        rcases (compileFailure_eq_none_iff options environment).mp built with ⟨succeeded, exists_⟩
        exact .inr ⟨_, _, _,
          ⟨good_input, created, succeeded, exists_, rfl, rfl, rfl, rfl, rfl, rfl⟩, rfl, rfl⟩

/-- All ways in which a judgement can end. -/
theorem judge_cases :
    (∃ final, judge options environment task = (final, []) ∧
      NothingRun { total := task.testcases.length } final []) ∨
    ¬BadInput task ∧ ∃ language directory launch,
      CompileStarted options environment (globalDeadline options environment) language directory
        launch ∧
      ((∃ final, judge options environment task = (final, [launch]) ∧
          NothingRun { total := task.testcases.length } final [launch]) ∨
        ∃ initial final launches, LoopEntered options environment task launch directory initial ∧
          runCases options environment task (globalDeadline options environment) directory 0
            task.testcases initial = (final, launches) ∧
          judge options environment task = (summarize final, launch :: launches)) := by
  have early (result : JudgeResult) (message : Bytes) :
      NothingRun result (systemError message result) [] :=
    ⟨rfl, rfl, rfl, Nat.zero_le _, .inl rfl⟩
  have exhausted (result : JudgeResult) :
      NothingRun result (markGlobalExhausted options result) [] :=
    ⟨rfl, rfl, rfl, Nat.zero_le _, .inl rfl⟩
  have cancelled (result : JudgeResult) : NothingRun result (markCancelled result) [] :=
    ⟨rfl, rfl, rfl, Nat.zero_le _, .inl rfl⟩
  unfold judge
  cases parsed : parseLanguage task.language with
  | none => exact .inl ⟨_, rfl, early _ _⟩
  | some language =>
      dsimp only
      split
      · exact .inl ⟨_, rfl, early _ _⟩
      · rename_i testcases_ne
        split
        · exact .inl ⟨_, rfl, early _ _⟩
        · rename_i limited
          split
          · exact .inl ⟨_, rfl, cancelled _⟩
          · cases created : environment.createWorkspace options.workspaceRoot with
            | error error => exact .inl ⟨_, rfl, early _ _⟩
            | ok directory =>
                dsimp only
                split
                · exact .inl ⟨_, rfl, early _ _⟩
                · split
                  · have good_input : ¬BadInput task := by
                      simp [BadInput, parsed, testcases_ne, limited]
                    rcases compileAndRun_cases options environment task
                        (globalDeadline options environment) language good_input created with
                      unstarted | ⟨launch, started, ended⟩
                    · exact .inl unstarted
                    · exact .inr ⟨good_input, language, directory, launch, started, ended⟩
                  · split
                    · exact .inl ⟨_, rfl, cancelled _⟩
                    · exact .inl ⟨_, rfl, exhausted _⟩

end Engine

end OnlineJudge.Judge
