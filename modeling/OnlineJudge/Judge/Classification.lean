import OnlineJudge.Judge.Result

/-!
# The verdict of a test case

`judge/classification.cpp`: what the executor reports is turned into a verdict by nine
rules, the first that applies decides. Compiler diagnostics lose the internal paths.
-/

namespace OnlineJudge.Judge

structure CaseEvidence where
  launchError : Bool := false
  sandboxError : Bool := false
  cancelled : Bool := false
  timedOut : Bool := false
  globalCapped : Bool := false
  memoryExceeded : Bool := false
  exited : Bool := false
  exitCode : ℤ := 0
  termSignal : ℤ := 0
  outputTruncated : Bool := false
  sanitizerError : Bool := false
  outputMatches : Bool := false
  timeLimitMs : ℤ := 0
  memoryLimitKb : ℤ := 0
  peakMemoryKb : ℤ := 0
  stdoutLimitBytes : ℤ := 0
  deriving DecidableEq, Repr

structure CaseVerdict where
  status : JudgeStatus := .SYSERR
  message : Bytes := []
  globalDeadlineHit : Bool := false
  abortRemaining : Bool := false
  deriving DecidableEq, Repr

def startFailureMessage (evidence : CaseEvidence) : Bytes :=
  if evidence.sandboxError then Bytes.ofString "运行沙箱不可用"
  else Bytes.ofString "无法启动运行进程"

def runtimeErrorMessage (evidence : CaseEvidence) : Bytes :=
  if evidence.termSignal ≠ 0 then
    Bytes.ofString "运行时被信号 " ++ Bytes.ofInt evidence.termSignal ++ Bytes.ofString " 终止" ++
      (if evidence.sanitizerError then Bytes.ofString "（疑似 Sanitizer 诊断）" else [])
  else if evidence.exited then Bytes.ofString "非零退出码 " ++ Bytes.ofInt evidence.exitCode
  else Bytes.ofString "运行进程未正常结束"

def classifyCase (evidence : CaseEvidence) : CaseVerdict :=
  if evidence.cancelled then
    { status := .SYSERR
      message := Bytes.ofString "服务停止，判题已取消"
      abortRemaining := true }
  else if evidence.launchError then
    { status := .SYSERR
      message := startFailureMessage evidence
      abortRemaining := true }
  else if evidence.memoryExceeded then
    { status := .MLE
      message :=
        Bytes.ofString "超出内存限制（RSS > " ++ Bytes.ofInt evidence.memoryLimitKb ++
          Bytes.ofString " kB，峰值 " ++ Bytes.ofInt evidence.peakMemoryKb ++
          Bytes.ofString " kB）" }
  else if evidence.timedOut ∧ evidence.globalCapped then
    { status := .TLE
      globalDeadlineHit := true
      abortRemaining := true
      message := Bytes.ofString "触发全局判题时间上限" }
  else if evidence.timedOut then
    { status := .TLE
      message :=
        Bytes.ofString "超出时间限制（" ++ Bytes.ofInt evidence.timeLimitMs ++
          Bytes.ofString " ms）" }
  else if evidence.termSignal ≠ 0 ∨ (evidence.exited = true ∧ evidence.exitCode ≠ 0) ∨
      evidence.exited = false then
    { status := .RE, message := runtimeErrorMessage evidence }
  else if evidence.outputTruncated then
    { status := .RE
      message :=
        Bytes.ofString "标准输出超过上限 " ++ Bytes.ofInt evidence.stdoutLimitBytes ++
          Bytes.ofString " 字节" }
  else if evidence.outputMatches then { status := .AC }
  else { status := .WA, message := Bytes.ofString "输出不匹配" }

/-- Nothing speaks against the program, and its output is the expected one. -/
structure CaseEvidence.Passes (evidence : CaseEvidence) : Prop where
  not_cancelled : evidence.cancelled = false
  launched : evidence.launchError = false
  within_memory : evidence.memoryExceeded = false
  within_time : evidence.timedOut = false
  exited : evidence.exited = true
  exitCode_eq : evidence.exitCode = 0
  termSignal_eq : evidence.termSignal = 0
  whole_output : evidence.outputTruncated = false
  outputMatches : evidence.outputMatches = true

/-- What a verdict says about the evidence, whichever rule has decided. -/
inductive CaseEvidence.Judged (evidence : CaseEvidence) (verdict : CaseVerdict) : Prop where
  | blamesJudge (notRun : evidence.cancelled = true ∨ evidence.launchError = true)
      (status : verdict.status = .SYSERR) (aborts : verdict.abortRemaining = true)
  | outOfBudget (notCancelled : evidence.cancelled = false)
      (launched : evidence.launchError = false) (status : verdict.status = .TLE)
      (aborts : verdict.abortRemaining = true)
  | fails (notCancelled : evidence.cancelled = false) (launched : evidence.launchError = false)
      (status : verdict.status = .MLE ∨ verdict.status = .TLE ∨ verdict.status = .RE ∨
        verdict.status = .WA)
      (continues : verdict.abortRemaining = false)
  | passes (passes : evidence.Passes) (status : verdict.status = .AC)
      (continues : verdict.abortRemaining = false)

theorem classifyCase_judged (evidence : CaseEvidence) :
    evidence.Judged (classifyCase evidence) := by
  rw [classifyCase]
  refine iteInduction (fun cancelled => ?_) fun notCancelled => ?_
  · exact .blamesJudge (.inl cancelled) rfl rfl
  rw [Bool.not_eq_true] at notCancelled
  refine iteInduction (fun notStarted => ?_) fun launched => ?_
  · exact .blamesJudge (.inr notStarted) rfl rfl
  rw [Bool.not_eq_true] at launched
  have fails {verdict : CaseVerdict} (status : verdict.status = .MLE ∨ verdict.status = .TLE ∨
      verdict.status = .RE ∨ verdict.status = .WA) (continues : verdict.abortRemaining = false) :
      evidence.Judged verdict :=
    .fails notCancelled launched status continues
  refine iteInduction (fun memoryExceeded => ?_) fun withinMemory => ?_
  · exact fails (by simp) rfl
  refine iteInduction (fun capped => ?_) fun notCapped => ?_
  · exact .outOfBudget notCancelled launched rfl rfl
  refine iteInduction (fun timedOut => ?_) fun withinTime => ?_
  · exact fails (by simp) rfl
  refine iteInduction (fun crashed => ?_) fun exited => ?_
  · exact fails (by simp) rfl
  refine iteInduction (fun truncated => ?_) fun whole => ?_
  · exact fails (by simp) rfl
  refine iteInduction (fun same => ?_) fun different => ?_
  · simp only [not_or, not_and, not_not, Bool.not_eq_false, Bool.not_eq_true] at *
    rcases exited with ⟨termSignal, exitCode, exited⟩
    refine .passes ?_ rfl rfl
    exact
      ⟨notCancelled, launched, withinMemory, withinTime, exited, exitCode exited, termSignal,
        whole, same⟩
  · exact fails (by simp) rfl

theorem classifyCase_eq_AC_iff {evidence : CaseEvidence} :
    (classifyCase evidence).status = .AC ↔ evidence.Passes := by
  constructor
  · intro accepted
    cases classifyCase_judged evidence with
    | passes passes => exact passes
    | blamesJudge _ status | outOfBudget _ _ status => simp [status] at accepted
    | fails _ _ status =>
        rcases status with status | status | status | status <;> simp [status] at accepted
  · rintro ⟨h1, h2, h3, h4, h5, h6, h7, h8, h9⟩
    simp [classifyCase, h1, h2, h3, h4, h5, h6, h7, h8, h9]

/-- Which case ends the loop: one that was cancelled or could not be started, for which the
judge is to blame, or one that ran out of the global budget. -/
theorem classifyCase_abort {evidence : CaseEvidence}
    (aborts : (classifyCase evidence).abortRemaining = true) :
    ((evidence.cancelled = true ∨ evidence.launchError = true) ∧
        (classifyCase evidence).status = .SYSERR) ∨
      evidence.cancelled = false ∧ evidence.launchError = false ∧
        (classifyCase evidence).status = .TLE := by
  cases classifyCase_judged evidence with
  | blamesJudge notRun status => exact .inl ⟨notRun, status⟩
  | outOfBudget notCancelled launched status => exact .inr ⟨notCancelled, launched, status⟩
  | fails _ _ _ continues | passes _ _ continues => simp [continues] at aborts

/-- A case that does not end the loop ran, and its verdict is about the program. -/
theorem classifyCase_continue {evidence : CaseEvidence}
    (continues : (classifyCase evidence).abortRemaining = false) :
    evidence.cancelled = false ∧ evidence.launchError = false ∧
      (classifyCase evidence).status ≠ .SYSERR := by
  cases classifyCase_judged evidence with
  | blamesJudge _ _ aborts | outOfBudget _ _ _ aborts => simp [aborts] at continues
  | fails notCancelled launched status =>
      refine ⟨notCancelled, launched, ?_⟩
      rcases status with status | status | status | status <;> simp [status]
  | passes passes status => exact ⟨passes.not_cancelled, passes.launched, by simp [status]⟩

theorem classifyCase_ne_CE (evidence : CaseEvidence) : (classifyCase evidence).status ≠ .CE := by
  cases classifyCase_judged evidence with
  | fails _ _ status => rcases status with status | status | status | status <;> simp [status]
  | blamesJudge _ status | outOfBudget _ _ status | passes _ status => simp [status]

/-- `erase_all`, with the number of bytes of the present occurrence still to be dropped. -/
def eraseAllFrom (needle : Bytes) : ℕ → Bytes → Bytes
  | _, [] => []
  | skipped + 1, _ :: text => eraseAllFrom needle skipped text
  | 0, byte :: text =>
      if needle.isPrefixOf (byte :: text) then eraseAllFrom needle (needle.length - 1) text
      else byte :: eraseAllFrom needle 0 text

/-- `erase_all`: one pass from left to right, the search goes on where the text was cut. -/
def eraseAll (needle text : Bytes) : Bytes :=
  if needle = [] then text else eraseAllFrom needle 0 text

def scrubCompileDiagnostics (text workspacePath : Bytes) : Bytes :=
  eraseAll (Bytes.ofString "/box/")
    (eraseAll (Bytes.ofString "/.oj_sandbox") (eraseAll workspacePath text))

end OnlineJudge.Judge
