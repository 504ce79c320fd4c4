import OnlineJudge.Judge.Verdict
import OnlineJudge.Service.Footprint
import OnlineJudge.Service.Replacement

/-!
# When a task is settled

Nothing but the database should keep an accepted task from being settled. What does keep
it is the serialisation of the per-case document: the library throws on a string that is
not UTF-8, and a program's output reaches the document as it is. With a database that
works, a task is settled exactly if the reports that get into the document are text.
-/

namespace OnlineJudge

namespace Service

open Judge Db Library Library.SharedConnection

section Document

variable {task : JudgeTask} {item : TestcaseResult}

/-- The strings that a case puts into the document. -/
structure CaseIsText (task : JudgeTask) (item : TestcaseResult) : Prop where
  message : Bytes.ValidUtf8 item.message
  actualOutput : Bytes.ValidUtf8 item.actualOutput
  stderrOutput : Bytes.ValidUtf8 item.stderrOutput
  testcase : item.status = .WA → 0 ≤ item.index →
    ∀ testcase, task.testcases[item.index.toNat]? = some testcase →
      Bytes.ValidUtf8 testcase.input ∧ Bytes.ValidUtf8 testcase.output

theorem isText_statusName (status : JudgeStatus) : Bytes.ValidUtf8 status.name := by
  cases status <;> exact Bytes.validUtf8_ofString _

theorem isText_terminationName (reason : TerminationReason) : Bytes.ValidUtf8 reason.name := by
  cases reason <;> exact Bytes.validUtf8_ofString _

theorem diagnosticMembers_isText :
    (∀ member ∈ diagnosticMembers task item, member.2.IsText) ↔ CaseIsText task item := by
  have optional (name : String) (value : Bytes) :
      (∀ member ∈ (if value ≠ [] then [(name, JsonValue.string value)] else []),
        member.2.IsText) ↔ Bytes.ValidUtf8 value := by
    by_cases empty : value = []
    · simp [empty]
    · simp [empty, JsonValue.IsText]
  have flag : ∀ member ∈ (if item.sanitizerError then [("sanitizer_error", JsonValue.bool true)]
      else []), member.2.IsText := by
    split <;> simp [JsonValue.IsText]
  simp only [diagnosticMembers, List.forall_mem_append, optional]
  refine Iff.trans (and_congr_right fun _ => (?shown : _ ↔
    (item.status = .WA → 0 ≤ item.index →
      ∀ testcase, task.testcases[item.index.toNat]? = some testcase →
        Bytes.ValidUtf8 testcase.input ∧ Bytes.ValidUtf8 testcase.output))) ?_
  case shown =>
    by_cases wrong : item.status = .WA ∧ 0 ≤ item.index
    · rw [if_pos wrong]
      cases found : task.testcases[item.index.toNat]? with
      | none => simp
      | some testcase => simp [wrong.1, wrong.2, JsonValue.IsText]
    · rw [if_neg wrong]
      simp only [List.not_mem_nil, false_imp_iff, implies_true, true_iff]
      exact fun isWrong inRange => absurd ⟨isWrong, inRange⟩ wrong
  constructor
  · rintro ⟨⟨⟨⟨-, message⟩, actual⟩, stderr⟩, testcase⟩
    exact ⟨message, by simpa [JsonValue.IsText] using actual, stderr, testcase⟩
  · rintro ⟨message, actual, stderr, testcase⟩
    refine ⟨⟨⟨⟨⟨⟨?_, flag⟩, ?_⟩, message⟩, ?_⟩, stderr⟩, testcase⟩
    · simpa [JsonValue.IsText] using isText_terminationName item.termination
    · simp [JsonValue.IsText]
    · simpa [JsonValue.IsText] using actual

/-- An accepted case has no string but the name of its verdict. -/
theorem caseMembers_isText :
    (∀ member ∈ caseMembers task item, member.2.IsText) ↔
      (item.status ≠ .AC → CaseIsText task item) := by
  have header : ∀ member ∈ [("index", JsonValue.int item.index),
      ("status", .string item.status.name), ("time_ms", .int item.timeMs),
      ("memory_kb", if 0 < item.memoryKb then .int item.memoryKb else .null)],
      member.2.IsText := by
    have memory : (if 0 < item.memoryKb then JsonValue.int item.memoryKb else .null).IsText := by
      split <;> trivial
    simp only [List.forall_mem_cons, List.not_mem_nil, false_imp_iff, implies_true, and_true]
    exact ⟨trivial, isText_statusName item.status, trivial, memory⟩
  have flag (name : String) (set : Bool) :
      ∀ member ∈ (if set then [(name, JsonValue.bool true)] else []), member.2.IsText := by
    split <;> simp [JsonValue.IsText]
  simp only [caseMembers, List.forall_mem_append]
  constructor
  · rintro ⟨-, diagnostics⟩ rejected
    rw [if_pos rejected] at diagnostics
    exact diagnosticMembers_isText.mp diagnostics
  · intro textual
    refine ⟨⟨⟨header, flag _ _⟩, flag _ _⟩, ?_⟩
    split
    · rename_i rejected
      exact diagnosticMembers_isText.mpr (textual rejected)
    · simp

end Document

section Reports

variable {options : JudgeOptions} {task : JudgeTask}

/-- What the executor reports on a case is text; so is the test case, if it is shown. -/
structure ReportIsText (options : JudgeOptions) (task : JudgeTask) (testcase : Testcase)
    (launch : Launch) : Prop where
  stdout : Bytes.ValidUtf8 launch.result.stdoutData
  stderr : Bytes.ValidUtf8 launch.result.stderrData
  startError : launch.result.launchError = true →
    Bytes.ValidUtf8 launch.result.launchErrorMessage
  testcase : (caseVerdict options task testcase launch).status = .WA →
    Bytes.ValidUtf8 testcase.input ∧ Bytes.ValidUtf8 testcase.output

instance (testcase : Testcase) (launch : Launch) :
    Decidable (ReportIsText options task testcase launch) :=
  decidable_of_iff
    (Bytes.ValidUtf8 launch.result.stdoutData ∧ Bytes.ValidUtf8 launch.result.stderrData ∧
      (launch.result.launchError = true → Bytes.ValidUtf8 launch.result.launchErrorMessage) ∧
      ((caseVerdict options task testcase launch).status = .WA →
        Bytes.ValidUtf8 testcase.input ∧ Bytes.ValidUtf8 testcase.output))
    ⟨fun ⟨stdout, stderr, startError, shown⟩ => ⟨stdout, stderr, startError, shown⟩,
      fun ⟨stdout, stderr, startError, shown⟩ => ⟨stdout, stderr, startError, shown⟩⟩

/-- Every report on a case that is not accepted is text. -/
def ReportsAreText (options : JudgeOptions) (task : JudgeTask) (launches : List Launch) : Prop :=
  ∀ run ∈ task.testcases.zip launches,
    (caseVerdict options task run.1 run.2).status ≠ .AC → ReportIsText options task run.1 run.2

instance (launches : List Launch) : Decidable (ReportsAreText options task launches) :=
  inferInstanceAs (Decidable (∀ run ∈ task.testcases.zip launches,
    (caseVerdict options task run.1 run.2).status ≠ .AC →
      ReportIsText options task run.1 run.2))

theorem classifyCase_message_isText (evidence : CaseEvidence) :
    Bytes.ValidUtf8 (classifyCase evidence).message := by
  have starts : Bytes.ValidUtf8 (startFailureMessage evidence) := by
    rw [startFailureMessage]
    split <;> simp
  have crashes : Bytes.ValidUtf8 (runtimeErrorMessage evidence) := by
    rw [runtimeErrorMessage]
    split_ifs <;> simp
  -- every branch is a literal with numbers or one of the two messages above
  simp [classifyCase, apply_ite CaseVerdict.message, apply_ite Bytes.ValidUtf8, starts, crashes]

theorem ranCase_message_isText {index : ℕ} {testcase : Testcase} {launch : Launch} :
    Bytes.ValidUtf8 (ranCase options task index testcase launch).message ↔
      (launch.result.launchError = true → Bytes.ValidUtf8 launch.result.launchErrorMessage) := by
  unfold ranCase caseResult
  rw [Bytes.validUtf8_append_iff_left (by split <;> simp)]
  cases launched : launch.result.launchError with
  | true =>
      rw [if_pos rfl, Bytes.validUtf8_append_iff_right (by split <;> simp)]
      simp
  | false =>
      rw [if_neg nofun]
      simpa [caseVerdict] using classifyCase_message_isText _

theorem ranCase_isText {index : ℕ} {testcase : Testcase} {launch : Launch}
    (known : task.testcases[index]? = some testcase)
    (rejected : (caseVerdict options task testcase launch).status ≠ .AC) :
    CaseIsText task (ranCase options task index testcase launch) ↔
      ReportIsText options task testcase launch := by
  have output : (ranCase options task index testcase launch).actualOutput =
      launch.result.stdoutData := if_neg rejected
  constructor
  · rintro ⟨message, actual, stderr, shown⟩
    exact ⟨output ▸ actual, stderr, ranCase_message_isText.mp message,
      fun wrong => shown wrong (Int.natCast_nonneg index) testcase known⟩
  · rintro ⟨stdout, stderr, startError, shown⟩
    refine ⟨ranCase_message_isText.mpr startError, output.symm ▸ stdout, stderr, ?_⟩
    intro wrong _ other found
    rcases Option.some.inj (known.symm.trans found) with rfl
    exact shown wrong

theorem isTextDocument_casesOf {launches : List Launch} :
    IsTextDocument ((casesOf options task 0 task.testcases launches).map (caseMembers task)) ↔
      ReportsAreText options task launches := by
  simp only [IsTextDocument, List.forall_mem_map, caseMembers_isText, ReportsAreText]
  constructor
  · intro textual run mem rejected
    rcases List.mem_iff_getElem?.mp mem with ⟨index, found⟩
    rcases List.getElem?_zip_eq_some.mp found with ⟨isCase, isLaunch⟩
    have listed : ranCase options task index run.1 run.2 ∈
        casesOf options task 0 task.testcases launches := by
      refine List.mem_iff_getElem?.mpr ⟨index, ?_⟩
      simp [casesOf, List.getElem?_zipWith, isCase, isLaunch]
    exact (ranCase_isText isCase rejected).mp (textual _ listed rejected)
  · intro textual item mem rejected
    rcases List.mem_iff_getElem?.mp mem with ⟨index, found⟩
    rcases List.getElem?_zipWith_eq_some.mp found with ⟨case, launch, isCase, isLaunch, rfl⟩
    rw [List.getElem?_zipIdx, Option.map_eq_some_iff] at isCase
    rcases isCase with ⟨testcase, isTestcase, rfl⟩
    rw [Nat.zero_add] at rejected ⊢
    have zipped : (testcase, launch) ∈ task.testcases.zip launches :=
      List.mem_iff_getElem?.mpr ⟨index, List.getElem?_zip_eq_some.mpr ⟨isTestcase, isLaunch⟩⟩
    exact (ranCase_isText isTestcase rejected).mpr (textual _ zipped rejected)

end Reports

section Judging

/-- How the judge is left: it returns, or an exception is caught, with its text if it has one. -/
inductive Judging where
  | returned (environment : Environment)
  | threw (what : Option Bytes)

/-- The result that is settled: an exception becomes a `SYSERR` without cases. -/
def Judging.result (options : JudgeOptions) (task : JudgeTask) : Judging → JudgeResult
  | .returned environment => (judge options environment task).1
  | .threw what =>
      { status := .SYSERR
        total := task.testcases.length
        message :=
          match what with
          | some text => Bytes.ofString "判题内部错误: " ++ text
          | none => Bytes.ofString "判题内部错误" }

/-- What the executor reported on the test cases, in order. -/
def Judging.reports (options : JudgeOptions) (task : JudgeTask) : Judging → List Launch
  | .returned environment => (judge options environment task).2.tail
  | .threw _ => []

theorem Judging.isTextDocument_iff {options : JudgeOptions} {task : JudgeTask}
    (judging : Judging) :
    IsTextDocument (buildPerCaseJson task (judging.result options task)) ↔
      ReportsAreText options task (judging.reports options task) := by
  rw [← isTextDocument_casesOf, buildPerCaseJson]
  cases judging with
  | returned environment => rw [Judging.result, judge_casesOf, Judging.reports]
  | threw what => simp [Judging.result, Judging.reports, casesOf]

end Judging

/-- The task is settled: the call returned success, the row of the task is deleted, and there is one
submission more, which is the task's. -/
structure Completed (before : Db) (task : SubmissionTask) (events : List Event) (after : Db) :
    Prop where
  returned : ReturnsOk events
  deleted : after.inFlight.rows =
    before.inFlight.rows.filter (·.taskId ≠ task.inFlightTaskId)
  inserted : ∃ row : SubmissionRow,
    after.submissions.rows = before.submissions.rows ++ [row] ∧
      row.settles = some task.inFlightTaskId ∧ row.userId = task.userId ∧
      row.problemId = task.problemId

/-- The contents in which a task can be settled. -/
structure Settleable (db : Db) (task : SubmissionTask) (problem : ProblemRow) : Prop where
  accepted : task.inFlightTaskId ≠ []
  present : db.inFlight.rows.any (·.taskId = task.inFlightTaskId)
  user : db.hasUser task.userId
  problem : db.problems.rows.find? (·.id = task.problemId) = some problem

/-- The task as it is handed to the judge. -/
def judgedTask (db : Db) (task : SubmissionTask) (problem : ProblemRow) : JudgeTask :=
  toJudgeTask task.language task.sourceCode problem.load (db.testcases.ofProblem task.problemId)

section Settlement

variable {base : Db} {task : SubmissionTask} {problem : ProblemRow} {record : SubmissionRecord}
  {result : JudgeResult} {final : Connection Db} {events : List Event}

theorem Settleable.hasProblem (settleable : Settleable base task problem) :
    base.hasProblem task.problemId :=
  List.any_eq_true.mpr
    ⟨problem, List.mem_of_find?_eq_some settleable.problem,
      by simpa using List.find?_some settleable.problem⟩

/-- With the user and the problem there, an upsert is not refused. -/
theorem upsertStatus_accepted {db : Db} {row : StatusRow} (user : db.hasUser row.userId)
    (problem : db.hasProblem row.problemId) : ∃ rows, db.upsertStatus row = some rows := by
  unfold Db.upsertStatus
  split
  · exact ⟨_, rfl⟩
  · rw [if_pos ⟨user, problem⟩]
    exact ⟨_, rfl⟩

/-- The transaction of a settlement, when no call fails. -/
theorem solo_settle (settleable : Settleable base task problem)
    (isUser : record.userId = task.userId) (isProblem : record.problemId = task.problemId)
    (solo : Solo Db.execute False (settle task record result)
      { committed := base, work := none } events final) :
    Completed base task events final.committed := by
  have solo := solo_begins rfl solo
  have found : Db.execute (.problems (.findById task.problemId)) base =
      some (some problem.load, base) := by
    simp [Db.execute, ProblemStmt.run, settleable.problem]
  have solo := solo_exec found solo
  dsimp only at solo
  rw [if_neg settleable.accepted] at solo
  let cleared : Db :=
    { base with
      inFlight :=
        { base.inFlight with
          rows := base.inFlight.rows.filter (·.taskId ≠ task.inFlightTaskId) } }
  have removed : Db.execute (.inFlight (.removeByTaskId task.inFlightTaskId)) base =
      some (true, cleared) := by
    simp [Db.execute, InFlightStmt.run, settleable.present, cleared]
  have solo := solo_exec removed solo
  dsimp only at solo
  let row : SubmissionRow :=
    { record with id := base.submissions.nextId, settles := some task.inFlightTaskId }
  let stored : Db :=
    { cleared with
      submissions :=
        { rows := base.submissions.rows ++ [row]
          nextId := base.submissions.nextId + 1 } }
  have user : base.hasUser record.userId := isUser ▸ settleable.user
  have hasProblem : base.hasProblem record.problemId := isProblem ▸ settleable.hasProblem
  have inserted : Db.execute (.submissions (.insert record (some task.inFlightTaskId))) cleared =
      some (base.submissions.nextId, stored) := by
    have known : cleared.hasUser record.userId ∧ cleared.hasProblem record.problemId :=
      ⟨user, hasProblem⟩
    simp only [Db.execute, SubmissionStmt.run]
    rw [if_pos known]
    rfl
  have solo := solo_exec inserted solo
  have read : Db.execute (.statuses (.find record.userId record.problemId)) stored =
      some ((stored.statusOf record.userId record.problemId).map StatusRow.load, stored) := rfl
  have solo := solo_exec read solo
  dsimp only at solo
  generalize computeStatusUpdate _ _ record.createdAt = update at solo
  obtain ⟨rows, upserted⟩ :
      ∃ rows, stored.upsertStatus (update.row record.userId record.problemId) = some rows :=
    upsertStatus_accepted user hasProblem
  have written : Db.execute (.statuses (.upsert (update.row record.userId record.problemId)))
      stored = some ((), { stored with statuses := rows }) := by
    simp only [Db.execute, StatusStmt.run, upserted]
    rfl
  have solo := solo_exec written solo
  rcases solo_commits rfl solo with ⟨rfl, rfl⟩
  exact ⟨⟨_, List.mem_singleton_self _, rfl⟩, rfl, row, rfl, rfl, isUser, isProblem⟩

/-- A task that runs by itself, its calls not failing. -/
theorem solo_submit {options : JudgeOptions} {dump : Dump} {judging : Judging} {now : Bytes}
    (strict : StrictDump dump) (settleable : Settleable base task problem)
    (solo : Solo Db.execute False (submit dump (judging.result options) now task)
      { committed := base, work := none } events final) :
    Completed base task events final.committed ↔
      ReportsAreText options (judgedTask base task problem)
        (judging.reports options (judgedTask base task problem)) := by
  have found : Db.execute (.problems (.findById task.problemId)) base =
      some (some problem.load, base) := by
    simp [Db.execute, ProblemStmt.run, settleable.problem]
  have solo := solo_exec found solo
  dsimp only at solo
  rw [if_neg (fun hidden => settleable.accepted hidden.2.2)] at solo
  have listed : Db.execute (.testcases (.list task.problemId)) base =
      some (base.testcases.ofProblem task.problemId, base) := rfl
  have solo := solo_exec listed solo
  rw [← judging.isTextDocument_iff, ← strict]
  cases solo with
  | emit rest =>
      split at rest
      case h_1 thrown =>
        cases rest with
        | emit rest =>
            cases rest with
            | done =>
                refine iff_of_false ?_ (by simpa [judgedTask] using congrArg Option.isSome thrown)
                rintro ⟨⟨outcome, mem, isOk⟩, -, -⟩
                simp at mem
      case h_2 perCase dumped =>
        refine iff_of_true ?_ (by simpa [judgedTask] using congrArg Option.isSome dumped)
        have settled := solo_settle settleable rfl rfl rest
        exact ⟨returnsOk_judging.mpr settled.returned, settled.deleted, settled.inserted⟩

end Settlement

/-- One execution of an accepted task that runs by itself, with a database that works: it comes to
its end, and then the task is settled exactly if the executor's reports on the cases that are not
accepted are text. -/
theorem task_completes_iff {dump : Dump} {options : JudgeOptions} {judging : Judging}
    {task : SubmissionTask} {problem : ProblemRow} {now : Bytes} {before : Db}
    (strict : StrictDump dump) (submits : task.rejudgeSubmissionId = 0)
    (settleable : Settleable before task problem) :
    Finishes (server dump) False 0
        ((server dump).spawn (.initial before) (.handle task (judging.result options) now)) ∧
      ∀ (state : State) (thread : SharedConnection.Thread Reply Event Call),
        (server dump).system.Reaches (Alone 0 False)
            ((server dump).spawn (.initial before) (.handle task (judging.result options) now))
            state →
          state.threads 0 = some thread → thread.program = some .done →
            (Completed before task thread.events state.committed ↔
              ReportsAreText options (judgedTask before task problem)
                (judging.reports options (judgedTask before task problem))) := by
  refine ⟨finishes_alone, ?_⟩
  intro state thread reaches born returned
  have solo := solo_of_alone reaches born returned
  rw [Call.body, Service.handle, if_neg (not_not.mpr submits)] at solo
  exact solo_submit strict settleable solo

section Runs

/-- A problem with one test case, and a task on it. -/
def oneTask : Db where
  users :=
    { rows :=
        [{ id := 1, account := [97], nickname := [98], passwordHash := [1], role := .user
           resetPwdFlag := 0, createdAt := [50] }]
      nextId := 2 }
  problems :=
    { rows :=
        [{ id := 1, title := [97], description := [], difficulty := .easy, tags := []
           timeLimitMs := 1000, memoryLimitKb := 65536, visible := true
           createdAt := [50], updatedAt := [50] }]
      nextId := 2 }
  testcases :=
    { rows :=
        [{ id := 1, problemId := 1, ord := 1, isSample := true, input := [49], output := [50] }]
      nextId := 2 }
  inFlight :=
    { rows :=
        [{ id := 1, taskId := [116], userId := 1, problemId := 1, language := Bytes.ofString "c11"
           sourceCode := [120], submittedAt := [50], state := .pending, reason := []
           owner := [] }]
      nextId := 2
      accepted := [[116]] }

def queuedTask : SubmissionTask where
  userId := 1
  problemId := 1
  language := Bytes.ofString "c11"
  sourceCode := [120]
  submittedAt := [50]
  inFlightTaskId := [116]

/-- A judgement in which everything goes well and the program prints `output`. -/
def printing (output : Bytes) : Environment where
  executor :=
    { compile := fun _ => { result := { exited := true }, elapsed := 0 }
      run := fun _ _ _ => { result := { exited := true, stdoutData := output }, elapsed := 0 } }
  createdAt := 0
  cancelledAtStart := false
  createWorkspace _ := .ok (Bytes.ofString "/tmp/oj")
  writeFile _ _ := .ok ()
  gatePolls := []
  cancelledAtGate := false
  compileAt := 0
  fileExists _ := true
  cancelledAtCase _ := false
  caseAt _ := 0

def judgedPrinting (output : Bytes) : Call :=
  .handle queuedTask ((Judging.returned (printing output)).result {}) []

theorem oneTask_settleable : ∃ problem, Settleable oneTask queuedTask problem :=
  ⟨_, nofun, rfl, rfl, rfl⟩

/-- A wrong answer that is text is settled. -/
theorem task_completes_iff_wrong :
    ∃ (state : State) (thread : SharedConnection.Thread Reply Event Call),
      (server dumpStrict).system.run
          ((server dumpStrict).spawn (.initial oneTask) (judgedPrinting [51]))
          (List.replicate 13 (.run 0 true)) = some state ∧
        state.threads 0 = some thread ∧ thread.program = some .done ∧
        (state.committed.submissions.rows.map (·.status)) = [.WA] ∧
        Completed oneTask queuedTask thread.events state.committed := by
  have execution : ∃ (state : State) (thread : SharedConnection.Thread Reply Event Call),
      (server dumpStrict).system.run
          ((server dumpStrict).spawn (.initial oneTask) (judgedPrinting [51]))
          (List.replicate 13 (.run 0 true)) = some state ∧
        state.threads 0 = some thread ∧ thread.program = some .done ∧
        (state.committed.submissions.rows.map (·.status)) = [.WA] :=
    ⟨_, _, rfl, rfl, rfl, rfl⟩
  rcases execution with ⟨state, thread, execution, born, returned, status⟩
  refine ⟨state, thread, execution, born, returned, status, ?_⟩
  have alone : ∀ label ∈ List.replicate 13 (.run 0 true : Label),
      label = .run 0 true ∨ False ∧ label = .run 0 false :=
    fun label mem => .inl (List.eq_of_mem_replicate mem)
  have reaches : (server dumpStrict).system.Reaches (Alone 0 False)
      ((server dumpStrict).spawn (.initial oneTask) (judgedPrinting [51])) state :=
    TransitionSystem.reaches_of_run (TransitionSystem.admits_of_forall_mem alone _) execution
  rcases oneTask_settleable with ⟨problem, settleable⟩
  refine ((task_completes_iff dumpStrict_strict rfl settleable).2 state thread reaches born
    returned).mpr ?_
  cases settleable.problem
  decide +kernel

/-- A wrong answer of the byte 0xFF makes the library throw; the row of the task stays. -/
theorem task_stays_pending :
    ∃ (state : State) (thread : SharedConnection.Thread Reply Event Call),
      StrictDump dumpStrict ∧ (∃ problem, Settleable oneTask queuedTask problem) ∧
        (server dumpStrict).system.run
          ((server dumpStrict).spawn (.initial oneTask) (judgedPrinting [255]))
          (List.replicate 4 (.run 0 true)) = some state ∧
        state.threads 0 = some thread ∧ thread.program = some .done ∧
        thread.events.getLast? = some .threw ∧ state.committed = oneTask ∧
        ¬Completed oneTask queuedTask thread.events state.committed := by
  refine ⟨_, _, dumpStrict_strict, oneTask_settleable, rfl, rfl, rfl, rfl, rfl, ?_⟩
  rintro ⟨⟨outcome, mem, -⟩, -, -⟩
  simp at mem

end Runs

end Service

end OnlineJudge
