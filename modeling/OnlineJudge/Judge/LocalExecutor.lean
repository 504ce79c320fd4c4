import OnlineJudge.Judge.Engine
import OnlineJudge.Judge.Seccomp
import OnlineJudge.Judge.Supervisor

/-!
# The local executor

`LocalExecutor` in `judge/local_executor.cpp`: what is prepared before the fork, how a
failed launch is reported, and the result of a process that was launched. The processes
that lead from the fork to `execve` are the subject of `Judge/Launching`; here the host tells
which record, if any, arrived through the pipe for failures.
-/

namespace OnlineJudge.Judge

inductive SandboxPhase where
  | compile
  | run
  deriving DecidableEq, Repr

structure SandboxLimits where
  memoryLimitKb : ℤ := 65536
  cpuLimitSec : ℤ := 3
  fsizeLimitBytes : ℤ := 67108864
  stackLimitBytes : ℤ := 67108864
  nofileLimit : ℤ := 64
  coreLimitBytes : ℤ := 0
  deriving DecidableEq, Repr

/-- The limits of the engine are at most 60000 ms, so the sum does not overflow an `int`. -/
def computeLimits (phase : SandboxPhase) (memoryLimitKb timeLimitMs : ℤ) : SandboxLimits :=
  let memory := if 0 < memoryLimitKb then memoryLimitKb else 65536
  let seconds := if 0 < timeLimitMs then (timeLimitMs + 999).tdiv 1000 else 1
  let whole := if seconds < 1 then 1 else seconds
  match phase with
  | .run =>
      { memoryLimitKb := memory
        cpuLimitSec := whole + 1
        fsizeLimitBytes := 67108864
        stackLimitBytes := 67108864
        nofileLimit := 64 }
  | .compile =>
      { memoryLimitKb := memory
        cpuLimitSec := whole + 5
        fsizeLimitBytes := 536870912
        stackLimitBytes := 268435456
        nofileLimit := 256 }

inductive SandboxStage where
  | none
  | unshare
  | root
  | chroot
  | limits
  | seccomp
  | chdir
  | exec
  deriving DecidableEq, Repr

/-- `sandbox_stage_name`. -/
def SandboxStage.name : SandboxStage → Bytes
  | .none => Bytes.ofString "none"
  | .unshare => Bytes.ofString "namespace"
  | .root => Bytes.ofString "mount"
  | .chroot => Bytes.ofString "chroot"
  | .limits => Bytes.ofString "setrlimit"
  | .seccomp => Bytes.ofString "seccomp"
  | .chdir => Bytes.ofString "chdir"
  | .exec => Bytes.ofString "exec"

/-- What a child reports to the parent when it cannot go on. -/
structure ExecFailure where
  stage : SandboxStage
  error : ℤ
  deriving DecidableEq, Repr

def describeFailure (strerror : ℤ → Bytes) (failure : ExecFailure) : Bytes :=
  let reason := strerror failure.error
  match failure.stage with
  | .unshare => Bytes.ofString "沙箱初始化失败（命名空间）: " ++ reason
  | .root => Bytes.ofString "沙箱初始化失败（最小根目录/挂载）: " ++ reason
  | .chroot => Bytes.ofString "沙箱初始化失败（chroot）: " ++ reason
  | .limits => Bytes.ofString "沙箱资源限制设置失败（setrlimit）: " ++ reason
  | .seccomp => Bytes.ofString "沙箱系统调用过滤安装失败（seccomp）: " ++ reason
  | .chdir => Bytes.ofString "切换工作目录失败: " ++ reason
  | .exec => Bytes.ofString "启动进程失败: " ++ reason
  | .none =>
      Bytes.ofString "进程启动失败（" ++ failure.stage.name ++ Bytes.ofString "）: " ++ reason

/-- `kSandboxBoxPath`. -/
def sandboxBoxPath : Bytes := Bytes.ofString "/box"

/-- `kSandboxToolsPath`. -/
def sandboxToolsPath : Bytes := Bytes.ofString "/oj-tools"

def baseName (path : Bytes) : Bytes := (path.reverse.takeWhile (· ≠ 47)).reverse

def dirName (path : Bytes) : Bytes :=
  if 47 ∈ path then
    let directory := path.take (path.length - (baseName path).length - 1)
    if directory = [] then [47] else directory
  else [46]

/-- Directories that the root of the sandbox has under their own names. -/
def systemPrefixes : List Bytes :=
  ["/usr/", "/bin/", "/sbin/", "/lib/", "/lib64/", "/usr", "/bin", "/sbin", "/lib",
    "/lib64"].map Bytes.ofString

def isSystemPrefix (path : Bytes) : Bool :=
  systemPrefixes.any fun start => path = start || (start ++ [47]).isPrefixOf path

/-- The search of `resolve_in_path` through the directories in turn. -/
def searchDirectories (executable : Bytes → Bool) (name : Bytes) : List Bytes → Option Bytes
  | [] => none
  | directory :: rest =>
      let candidate := (if directory = [] then [46] else directory) ++ [47] ++ name
      if executable candidate then some candidate else searchDirectories executable name rest

def defaultPath : Bytes :=
  Bytes.ofString "/usr/local/sbin:/usr/local/bin:/usr/sbin:/usr/bin:/sbin:/bin"

def resolveInPath (path : Option Bytes) (executable : Bytes → Bool) (name : Bytes) :
    Option Bytes :=
  if name = [] then none
  else
    let searched :=
      match path with
      | some [] => defaultPath
      | some given => given
      | none => defaultPath
    searchDirectories executable name (searched.splitOn 58)

structure SpawnRequest where
  arguments : List Bytes
  workingDirectory : Bytes
  input : Bytes
  timeLimitMs : ℤ
  stdoutLimit : ℕ
  stderrLimit : ℕ
  mergeStderr : Bool
  sandbox : Bool
  phase : SandboxPhase
  memoryLimitKb : ℤ
  deriving DecidableEq, Repr

/-- All that the children need, made ready before the fork. -/
structure LaunchPlan where
  program : Bytes
  insideProgram : Bytes
  arguments : List Bytes
  environment : List Bytes
  workingDirectory : Bytes
  rootDirectory : Bytes
  /-- A directory of the host that is mounted read-only, and where. -/
  extraBind : Option (Bytes × Bytes)
  /-- The program that is copied into the box of the sandbox. -/
  copied : Option Bytes
  filter : List Library.ClassicBpf.Instruction
  limits : SandboxLimits
  mergeStderr : Bool
  deriving DecidableEq, Repr

/-- One call of `spawn`, as the host answers it. -/
structure SpawnHost where
  /-- There is a cancellation token. -/
  cancellable : Bool
  cancelledBefore : Bool
  path : Option Bytes
  /-- `access` with `X_OK`: the text of the error, if there is one. -/
  accessError : Bytes → Option Bytes
  /-- The system calls that the filter of a phase refuses. -/
  rules : SandboxPhase → List SeccompRule
  /-- The text for a pipe or a fork that fails. -/
  setupError : Option Bytes
  /-- What the parent reads from the pipe for failures. -/
  failure : LaunchPlan → Option ExecFailure
  strerror : ℤ → Bytes
  payloadPid : ℤ
  start : ℤ
  initialRssKb : ℤ
  rounds : List Round
  closing : Closing

section Preparation

variable (host : SpawnHost) (request : SpawnRequest)

/-- The program as an executable file of the host, or why there is none. -/
def locate (program : Bytes) : Except Bytes Bytes :=
  let executable (candidate : Bytes) := (host.accessError candidate).isNone
  let found :=
    if 47 ∈ program then some program else resolveInPath host.path executable program
  match found with
  | none =>
      .error (Bytes.ofString "启动进程失败: 未在 PATH 中找到可执行文件 " ++ program)
  | some resolved =>
      match host.accessError resolved with
      | some error =>
          .error
            (Bytes.ofString "启动进程失败: 无法执行 " ++ resolved ++ Bytes.ofString " (" ++ error ++
              Bytes.ofString ")")
      | none => .ok resolved

/-- A path below the working directory, as the sandbox sees it. -/
def insideBox (path : Bytes) : Option Bytes :=
  if (request.workingDirectory ++ [47]).isPrefixOf path then
    some (sandboxBoxPath ++ [47] ++ path.drop (request.workingDirectory.length + 1))
  else none

/-- Where the sandbox finds the program, and the directory that has to be mounted for it. -/
def placeProgram (program : Bytes) : Bytes × Option (Bytes × Bytes) :=
  if request.sandbox then
    match insideBox request program with
    | some inside => (inside, none)
    | none =>
        if isSystemPrefix program then (program, none)
        else
          (sandboxToolsPath ++ [47] ++ baseName program, some (dirName program, sandboxToolsPath))
  else (program, none)

def childEnvironment (phase : SandboxPhase) : List Bytes :=
  ["PATH=/usr/bin:/bin", "HOME=/nonexistent", "TMPDIR=/tmp", "LANG=C", "LC_ALL=C"].map
      Bytes.ofString ++
    match phase with
    | .run =>
        ["ASAN_OPTIONS=detect_leaks=0", "UBSAN_OPTIONS=print_stacktrace=1:halt_on_error=1"].map
          Bytes.ofString
    | .compile => []

def mapArgument (argument : Bytes) : Bytes :=
  if request.sandbox then (insideBox request argument).getD argument else argument

def prepare (program : Bytes) : Except Bytes LaunchPlan := do
  let filter ← if request.sandbox then buildSeccompProgram (host.rules request.phase) else .ok []
  let (inside, extraBind) := placeProgram request program
  return {
    program := program
    insideProgram := inside
    arguments := inside :: (request.arguments.drop 1).map (mapArgument request)
    environment := childEnvironment request.phase
    workingDirectory := request.workingDirectory
    rootDirectory := request.workingDirectory ++ Bytes.ofString "/.oj_sandbox"
    extraBind := extraBind
    copied :=
      if request.sandbox && request.phase = .run &&
          (sandboxBoxPath ++ [47]).isPrefixOf inside then some program
      else none
    filter := filter
    limits :=
      if request.sandbox then
        computeLimits request.phase request.memoryLimitKb request.timeLimitMs
      else {}
    mergeStderr := request.mergeStderr }

/-- What the loop is about. -/
def supervision : Supervision where
  start := host.start
  input := request.input
  timeLimitMs := request.timeLimitMs
  stdoutLimit := request.stdoutLimit
  stderrLimit := request.stderrLimit
  memoryLimitKb := request.memoryLimitKb
  cancellable := host.cancellable
  sampled := request.phase = .compile || 0 < host.payloadPid

/-- From a successful launch on; there is no result as long as the loop goes on. -/
def supervise : Option ProcessResult :=
  let spec := supervision host request
  match spec.system.run (.running (.begin spec host.initialRssKb)) host.rounds with
  | some (.left state readFailed) =>
      some ((state.close spec readFailed host.closing).result spec host.closing.finishedAt)
  | _ => none

def notLaunched (message : Bytes) : ProcessResult :=
  { launchError := true, launchErrorMessage := message }

/-- Failures of the program itself are not failures of the sandbox. -/
def launchFailed (failure : ExecFailure) : ProcessResult :=
  { notLaunched (describeFailure host.strerror failure) with
    sandboxError := failure.stage ≠ .exec && failure.stage ≠ .chdir }

def spawn : Option ProcessResult :=
  match request.arguments with
  | [] => some (notLaunched (Bytes.ofString "空的可执行文件路径"))
  | [] :: _ => some (notLaunched (Bytes.ofString "空的可执行文件路径"))
  | program :: _ =>
      if host.cancellable && host.cancelledBefore then
        some
          { cancelled := true
            termination := .cancelled
            launchErrorMessage := Bytes.ofString "任务已取消" }
      else
        match locate host program with
        | .error message => some (notLaunched message)
        | .ok resolved =>
            match prepare host request resolved with
            | .error message =>
                some
                  { notLaunched (Bytes.ofString "构建 seccomp 过滤失败: " ++ message) with
                    sandboxError := true }
            | .ok plan =>
                match host.setupError with
                | some message => some (notLaunched message)
                | none =>
                    match host.failure plan with
                    | some failure => some (launchFailed host failure)
                    | none => supervise host request

end Preparation

namespace LocalExecutor

def compileArguments (request : CompileRequest) : List Bytes :=
  [request.compiler, Bytes.ofString "-O2",
      match request.language with
      | .cpp17 => Bytes.ofString "-std=c++17"
      | .c11 => Bytes.ofString "-std=c11",
      request.sourcePath, Bytes.ofString "-o", request.outputPath, Bytes.ofString "-lm"] ++
    (if request.sanitizers then
      ["-fsanitize=address,undefined", "-fno-omit-frame-pointer",
        "-fno-sanitize-recover=all"].map Bytes.ofString
    else []) ++ request.extraFlags

/-- The diagnostics of the compiler go to its output. -/
def compileSpawn (request : CompileRequest) : SpawnRequest where
  arguments := compileArguments request
  workingDirectory := request.workingDirectory
  input := []
  timeLimitMs := request.timeLimitMs
  stdoutLimit := request.outputLimitBytes
  stderrLimit := request.outputLimitBytes
  mergeStderr := true
  sandbox := request.sandbox
  phase := .compile
  memoryLimitKb := request.memoryLimitKb

def compile (host : SpawnHost) (request : CompileRequest) : Option ProcessResult :=
  spawn host (compileSpawn request)

def runSpawn (request : RunRequest) (input : Bytes) : SpawnRequest where
  arguments := [request.executablePath]
  workingDirectory := request.workingDirectory
  input := input
  timeLimitMs := request.timeLimitMs
  stdoutLimit := request.stdoutLimitBytes
  stderrLimit := request.stderrLimitBytes
  mergeStderr := false
  sandbox := request.sandbox
  phase := .run
  memoryLimitKb := request.memoryLimitKb

def run (host : SpawnHost) (request : RunRequest) (input : Bytes) : Option ProcessResult :=
  spawn host (runSpawn request input)

end LocalExecutor

end OnlineJudge.Judge
