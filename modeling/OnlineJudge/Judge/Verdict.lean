import Mathlib.Algebra.Order.Group.Int
import Mathlib.Data.List.Forall2
import OnlineJudge.Judge.Engine

/-!
# What a verdict stands for

A judgement that was broken off is never presented as a verdict on the program, and
`AC` is given exactly to a program that passed every test case. Both follow the loop
over the test cases: it either ran all of them, each to an end for which the program
is responsible, or it left a mark that makes the summary a `SYSERR`.
-/

namespace OnlineJudge.Judge

/-- The most severe status is that of some case, or the one that the search started from. -/
theorem foldl_severity (cases : List TestcaseResult) (worst : JudgeStatus) :
    let found := cases.foldl
      (fun worst item => if worst.severity < item.status.severity then item.status else worst)
      worst
    (found = worst ∨ ∃ item ∈ cases, item.status = found) ∧
      worst.severity ≤ found.severity ∧
      ∀ item ∈ cases, item.status.severity ≤ found.severity := by
  induction cases generalizing worst with
  | nil => simp
  | cons first rest ih =>
      rw [List.foldl_cons]
      obtain ⟨start, start_eq⟩ : ∃ start,
          (if worst.severity < first.status.severity then first.status else worst) = start :=
        ⟨_, rfl⟩
      have start_mem : start = worst ∨ first.status = start := by
        by_cases less : worst.severity < first.status.severity
        · exact .inr (by rw [← start_eq, if_pos less])
        · exact .inl (by rw [← start_eq, if_neg less])
      have start_ge :
          worst.severity ≤ start.severity ∧ first.status.severity ≤ start.severity := by
        rw [← start_eq]
        split <;> omega
      rw [start_eq]
      rcases ih start with ⟨found, above, greatest⟩
      refine ⟨?_, start_ge.1.trans above, ?_⟩
      · rcases found with same | ⟨item, mem, same⟩
        · rcases start_mem with kept | replaced
          · exact .inl (same.trans kept)
          · exact .inr ⟨first, List.mem_cons_self, replaced.trans same.symm⟩
        · exact .inr ⟨item, List.mem_cons_of_mem _ mem, same⟩
      · intro item mem
        rcases List.mem_cons.mp mem with rfl | later
        · exact start_ge.2.trans above
        · exact greatest item later

theorem summarizeCases_spec {cases : List TestcaseResult} (nonempty : cases ≠ []) :
    (∃ item ∈ cases, item.status = summarizeCases cases) ∧
      ∀ item ∈ cases, item.status.severity ≤ (summarizeCases cases).severity := by
  rw [summarizeCases, if_neg nonempty]
  rcases foldl_severity cases .AC with ⟨found, _, greatest⟩
  refine ⟨?_, greatest⟩
  rcases found with accepted | found
  · rcases List.exists_mem_of_ne_nil cases nonempty with ⟨item, mem⟩
    have severity := greatest item mem
    rw [accepted] at severity ⊢
    refine ⟨item, mem, ?_⟩
    cases status : item.status <;> simp [status, JudgeStatus.severity] at severity ⊢
  · exact found

theorem summarizeCases_eq_AC_iff {cases : List TestcaseResult} :
    summarizeCases cases = .AC ↔ cases ≠ [] ∧ ∀ item ∈ cases, item.status = .AC := by
  constructor
  · intro accepted
    have nonempty : cases ≠ [] := by
      rintro rfl
      simp [summarizeCases] at accepted
    refine ⟨nonempty, ?_⟩
    intro item mem
    have severity := (summarizeCases_spec nonempty).2 item mem
    rw [accepted] at severity
    cases status : item.status <;> simp [status, JudgeStatus.severity] at severity ⊢
  · rintro ⟨nonempty, accepted⟩
    rcases (summarizeCases_spec nonempty).1 with ⟨item, mem, same⟩
    rw [← same, accepted item mem]

theorem summarizeCases_eq_SYSERR {cases : List TestcaseResult}
    (failed : ∃ item ∈ cases, item.status = .SYSERR)
    (ne_CE : ∀ item ∈ cases, item.status ≠ .CE) : summarizeCases cases = .SYSERR := by
  rcases failed with ⟨item, mem, status⟩
  have spec := summarizeCases_spec (List.ne_nil_of_mem mem)
  rcases spec.1 with ⟨worst, worst_mem, same⟩
  have severity := spec.2 item mem
  have possible := ne_CE worst worst_mem
  rw [status, ← same] at severity
  rw [← same]
  cases kind : worst.status <;> simp [kind, JudgeStatus.severity] at severity possible ⊢

/-- The judgement left the loop early: the summary must not look at the verdicts alone. -/
def BrokenOff (result : JudgeResult) : Prop :=
  result.cancelled = true ∨ result.globalDeadlineHit = true ∨
    ∃ item ∈ result.cases, item.status = .SYSERR

/-- The cases are those from the first on, in order, and the passed ones are counted. -/
structure Recorded (index : ℕ) (result : JudgeResult) : Prop where
  length_eq : result.cases.length = index
  index_eq : ∀ i (bound : i < result.cases.length), result.cases[i].index = i
  passed_eq : result.passed = result.cases.countP fun item => item.status = .AC
  ne_CE : ∀ item ∈ result.cases, item.status ≠ .CE

theorem Recorded.addCase {index : ℕ} {result : JudgeResult} {item : TestcaseResult}
    (recorded : Recorded index result) (index_eq : item.index = index)
    (ne_CE : item.status ≠ .CE) : Recorded (index + 1) (addCase item result) := by
  refine ⟨?_, ?_, ?_, ?_⟩
  · simp [Judge.addCase, recorded.length_eq]
  · intro i bound
    have last : i < result.cases.length ∨ i = result.cases.length := by
      simp [Judge.addCase] at bound
      omega
    rcases last with earlier | rfl
    · simpa [Judge.addCase, List.getElem_append_left earlier] using recorded.index_eq i earlier
    · simpa [Judge.addCase, recorded.length_eq] using index_eq
  · by_cases accepted : item.status = .AC <;>
      simp [Judge.addCase, accepted, recorded.passed_eq, List.countP_append]
  · intro other mem
    rcases List.mem_append.mp mem with earlier | new
    · exact recorded.ne_CE other earlier
    · rw [List.mem_singleton.mp new]
      exact ne_CE

theorem Recorded.congr {index : ℕ} {result other : JudgeResult} (recorded : Recorded index result)
    (cases_eq : other.cases = result.cases) (passed_eq : other.passed = result.passed) :
    Recorded index other := by
  rcases recorded with ⟨length_eq, index_eq, passed, ne_CE⟩
  constructor <;> simp_all

variable {options : JudgeOptions} {environment : Environment} {task : JudgeTask}

/-- What ends the loop after a case keeps the results. -/
theorem abortCases_kept (options : JudgeOptions) (run : ProcessResult) (result : JudgeResult) :
    (abortCases options run result).cases = result.cases ∧
      (abortCases options run result).passed = result.passed ∧
      (abortCases options run result).total = result.total ∧
      (abortCases options run result).compileOk = result.compileOk := by
  rw [abortCases]
  split_ifs <;> exact ⟨rfl, rfl, rfl, rfl⟩

theorem ranCase_ne_CE (index : ℕ) (testcase : Testcase) (launch : Launch) :
    (ranCase options task index testcase launch).status ≠ .CE :=
  classifyCase_ne_CE _

/-- A case after which the loop ends leaves its mark. -/
theorem brokenOff_abortCases {index : ℕ} {testcase : Testcase} {launch : Launch}
    {result : JudgeResult}
    (aborts : (caseVerdict options task testcase launch).abortRemaining = true) :
    BrokenOff
      (abortCases options launch.result
        (addCase (ranCase options task index testcase launch) result)) := by
  rw [abortCases]
  split_ifs with cancelled refused
  · exact .inl rfl
  · refine .inr (.inr ⟨ranCase options task index testcase launch, ?_, ?_⟩)
    · simp [addCase]
    · rcases classifyCase_abort aborts with ⟨_, status⟩ | ⟨_, launched, _⟩
      · exact status
      · exact absurd refused (by simpa [caseEvidence] using launched)
  · exact .inr (.inl rfl)

/-- The processes of the test cases, in order. -/
def casePhases (index : ℕ) (testcases : List Testcase) : List Phase :=
  (testcases.zipIdx index).map fun case => .testcase case.2 case.1.input

/-- The loop runs a prefix of the test cases, one process for each, and records them in order. -/
theorem runCases_recorded {deadline : Deadline} {directory : Bytes} {index : ℕ}
    {rest : List Testcase} {result final : JudgeResult} {launches : List Launch}
    (ran : runCases options environment task deadline directory index rest result =
      (final, launches))
    (recorded : Recorded index result) :
    Recorded (index + launches.length) final ∧
      launches.map (·.phase) <+: casePhases index rest ∧
      final.total = result.total ∧ final.compileOk = result.compileOk := by
  induction rest generalizing index result final launches with
  | nil =>
      cases ran
      exact ⟨recorded, List.nil_prefix, rfl, rfl⟩
  | cons testcase rest ih =>
      rw [runCases] at ran
      rcases stepCase_cases options environment task deadline directory index testcase result with
        ⟨stopped, step, stop⟩ | ⟨launch, started, ⟨_, step⟩ | ⟨_, step⟩⟩
      · rw [step] at ran
        cases ran
        rcases stop with rfl | rfl <;>
          exact ⟨recorded.congr rfl rfl, List.nil_prefix, rfl, rfl⟩
      · rw [step] at ran
        cases ran
        have added : Recorded (index + 1)
            (addCase (ranCase options task index testcase launch) result) :=
          recorded.addCase rfl (ranCase_ne_CE index testcase launch)
        rcases abortCases_kept options launch.result
            (addCase (ranCase options task index testcase launch) result) with
          ⟨cases_eq, passed_eq, total_eq, compileOk_eq⟩
        refine ⟨added.congr cases_eq passed_eq, ?_, total_eq, compileOk_eq⟩
        simp [casePhases, started.phase_eq]
      · rw [step] at ran
        rcases later : runCases options environment task deadline directory (index + 1) rest
            (addCase (ranCase options task index testcase launch) result) with ⟨last, launches⟩
        simp only [later] at ran
        cases ran
        have added : Recorded (index + 1)
            (addCase (ranCase options task index testcase launch) result) :=
          recorded.addCase rfl (ranCase_ne_CE index testcase launch)
        rcases ih later added with ⟨recorded, phases, total_eq, compileOk_eq⟩
        refine ⟨?_, ?_, total_eq, compileOk_eq⟩
        · rwa [List.length_cons, Nat.add_comm launches.length, ← Nat.add_assoc]
        · simpa [casePhases, started.phase_eq] using phases

/-- The results of the test cases that were run, one for each process. -/
def casesOf (options : JudgeOptions) (task : JudgeTask) (index : ℕ) (testcases : List Testcase)
    (launches : List Launch) : List TestcaseResult :=
  List.zipWith (fun case launch => ranCase options task case.2 case.1 launch)
    (testcases.zipIdx index) launches

/-- What the loop adds to the cases is a function of the processes that it runs. -/
theorem runCases_cases {deadline : Deadline} {directory : Bytes} {index : ℕ}
    {rest : List Testcase} {result final : JudgeResult} {launches : List Launch}
    (ran : runCases options environment task deadline directory index rest result =
      (final, launches)) :
    final.cases = result.cases ++ casesOf options task index rest launches := by
  induction rest generalizing index result final launches with
  | nil =>
      cases ran
      simp [casesOf]
  | cons testcase rest ih =>
      rw [runCases] at ran
      rcases stepCase_cases options environment task deadline directory index testcase result with
        ⟨stopped, step, stop⟩ | ⟨launch, started, ⟨_, step⟩ | ⟨_, step⟩⟩
      · rw [step] at ran
        cases ran
        rcases stop with rfl | rfl <;> simp [casesOf, markCancelled, markGlobalExhausted]
      · rw [step] at ran
        cases ran
        rw [(abortCases_kept options launch.result _).1]
        simp [casesOf, addCase]
      · rw [step] at ran
        rcases later : runCases options environment task deadline directory (index + 1) rest
            (addCase (ranCase options task index testcase launch) result) with ⟨last, launches⟩
        simp only [later] at ran
        cases ran
        rw [ih later]
        simp [casesOf, addCase]

/-- The loop was broken off, or every test case ran to an end that is the program's own. -/
theorem runCases_outcome {deadline : Deadline} {directory : Bytes} {index : ℕ}
    {rest : List Testcase} {result final : JudgeResult} {launches : List Launch}
    (ran : runCases options environment task deadline directory index rest result =
      (final, launches))
    (not_cancelled : result.cancelled = false)
    (within_budget : result.globalDeadlineHit = false) :
    BrokenOff final ∨
      final.cancelled = false ∧ final.globalDeadlineHit = false ∧
        launches.length = rest.length ∧
        ∀ launch ∈ launches,
          launch.result.cancelled = false ∧ launch.result.launchError = false := by
  induction rest generalizing index result final launches with
  | nil =>
      cases ran
      exact .inr ⟨not_cancelled, within_budget, rfl, by simp⟩
  | cons testcase rest ih =>
      rw [runCases] at ran
      rcases stepCase_cases options environment task deadline directory index testcase result with
        ⟨stopped, step, stop⟩ | ⟨launch, started, ⟨aborts, step⟩ | ⟨continues, step⟩⟩
      · rw [step] at ran
        cases ran
        rcases stop with rfl | rfl
        · exact .inl (.inl rfl)
        · exact .inl (.inr (.inl rfl))
      · rw [step] at ran
        cases ran
        exact .inl (brokenOff_abortCases aborts)
      · rw [step] at ran
        rcases later : runCases options environment task deadline directory (index + 1) rest
            (addCase (ranCase options task index testcase launch) result) with ⟨last, launches⟩
        simp only [later] at ran
        cases ran
        rcases ih later not_cancelled within_budget with broken | ⟨c, d, length_eq, launched⟩
        · exact .inl broken
        · refine .inr ⟨c, d, by rw [List.length_cons, List.length_cons, length_eq], ?_⟩
          have owned := classifyCase_continue continues
          exact List.forall_mem_cons.mpr ⟨⟨owned.1, owned.2.1⟩, launched⟩

theorem summarize_of_brokenOff {result : JudgeResult} (broken : BrokenOff result)
    (ne_CE : ∀ item ∈ result.cases, item.status ≠ .CE) : (summarize result).status = .SYSERR := by
  rw [summarize]
  rcases broken with cancelled | exhausted | failed
  · by_cases exhausted : result.globalDeadlineHit = true <;> simp [exhausted, cancelled]
  · simp [exhausted]
  · have status := summarizeCases_eq_SYSERR failed ne_CE
    split_ifs <;> simp [status] at *

theorem summarize_of_whole {result : JudgeResult} (not_cancelled : result.cancelled = false)
    (within_budget : result.globalDeadlineHit = false) :
    (summarize result).status = summarizeCases result.cases := by
  rw [summarize]
  simp only [not_cancelled, within_budget, Bool.false_eq_true, if_false]
  split_ifs <;> rfl

/-- The summary changes the status and the message only. -/
theorem summarize_kept (result : JudgeResult) :
    (summarize result).cases = result.cases ∧ (summarize result).passed = result.passed ∧
      (summarize result).total = result.total ∧
      (summarize result).compileOk = result.compileOk ∧
      (summarize result).cancelled = result.cancelled ∧
      (summarize result).globalDeadlineHit = result.globalDeadlineHit := by
  rw [summarize]
  split_ifs <;> exact ⟨rfl, rfl, rfl, rfl, rfl, rfl⟩

/-- What may be read off a result and the processes behind it. -/
structure Presented (task : JudgeTask) (result : JudgeResult) (launches : List Launch) :
    Prop where
  /-- The cases are those of an executed prefix, in order. -/
  cases_le : (result.cases.length : ℤ) ≤ result.total
  index_eq : ∀ i (bound : i < result.cases.length), result.cases[i].index = i
  phases : launches = [] ∨
    launches.map (·.phase) <+: .compile :: casePhases 0 task.testcases
  launches_length : launches.length ≤ result.cases.length + 1
  passed_eq : result.passed = result.cases.countP fun item => item.status = .AC
  /-- A verdict on the program is about all test cases. -/
  whole : result.status ∈ [JudgeStatus.AC, .WA, .RE, .MLE, .TLE] →
    result.compileOk = true ∧ result.cases.length = result.total ∧ 0 < result.total ∧
      result.globalDeadlineHit = false ∧ result.cancelled = false ∧
      (∃ item ∈ result.cases, item.status = result.status) ∧
      ∀ item ∈ result.cases, item.status.severity ≤ result.status.severity
  compileError : result.status = .CE → result.cases = []
  /-- Everything else is the fault of the judge. -/
  systemError :
    (result.cancelled = true ∨ result.globalDeadlineHit = true ∨ BadInput task ∨
      ∃ launch ∈ launches, launch.result.cancelled = true ∨ launch.result.launchError = true) →
    result.status = .SYSERR

/-- A judgement without a test case run presents nothing but its status. -/
theorem Presented.of_nothingRun {result : JudgeResult} {launches : List Launch}
    (nothing : NothingRun { total := task.testcases.length } result launches)
    (phases : ∀ launch ∈ launches, launch.phase = .compile)
    (good_input : launches ≠ [] → ¬BadInput task) : Presented task result launches := by
  rcases nothing with ⟨cases_eq, passed_eq, total_eq, launches_le, status_eq⟩
  refine ⟨?_, ?_, ?_, ?_, ?_, ?_, ?_, ?_⟩
  · simp [cases_eq, total_eq]
  · simp [cases_eq]
  · rcases launches with _ | ⟨launch, rest⟩
    · exact .inl rfl
    · have last : rest = [] := by simpa using launches_le
      simp [last, phases launch List.mem_cons_self]
  · simpa [cases_eq] using launches_le
  · simp [cases_eq, passed_eq]
  · rcases status_eq with status | ⟨status, _⟩ <;> simp [status]
  · simp [cases_eq]
  · rintro (cancelled | exhausted | bad | ⟨launch, mem, refused⟩) <;>
      rcases status_eq with status | ⟨status, started, kept, budget, owned⟩
    any_goals exact status
    · simp [kept] at cancelled
    · simp [budget] at exhausted
    · exact absurd bad (good_input started)
    · simp [owned launch mem] at refused

theorem LoopEntered.recorded {directory : Bytes} {compiled : Launch} {initial : JudgeResult}
    (entered : LoopEntered options environment task compiled directory initial) :
    Recorded 0 initial := by
  constructor <;> simp [entered.cases_eq, entered.passed_eq]

/-- A judgement whose loop was entered: what was broken off is a `SYSERR`, so every other status is
about all test cases. -/
theorem Presented.of_loop {directory : Bytes} {compiled : Launch} {initial final : JudgeResult}
    {launches : List Launch} (phase_eq : compiled.phase = .compile)
    (entered : LoopEntered options environment task compiled directory initial)
    (ran : runCases options environment task (globalDeadline options environment) directory 0
      task.testcases initial = (final, launches)) :
    Presented task (summarize final) (compiled :: launches) := by
  rcases runCases_recorded ran entered.recorded with ⟨recorded, phases, total_eq, compileOk_eq⟩
  rcases summarize_kept final with
    ⟨cases_eq, passed_eq, total_kept, compileOk_kept, cancelled_eq, budget_eq⟩
  have length_eq := recorded.length_eq
  have phases_le := phases.length_le
  simp only [List.length_map, casePhases, List.length_zipIdx] at phases_le
  have total : (summarize final).total = task.testcases.length := by
    rw [total_kept, total_eq, entered.total_eq]
  have nonempty : 0 < task.testcases.length :=
    List.length_pos_iff.mpr fun empty => entered.good_input (.inr (.inl empty))
  have whole (status : (summarize final).status ≠ .SYSERR) :
      final.cancelled = false ∧ final.globalDeadlineHit = false ∧
        launches.length = task.testcases.length ∧
        ∀ launch ∈ launches,
          launch.result.cancelled = false ∧ launch.result.launchError = false := by
    rcases runCases_outcome ran entered.not_cancelled entered.within_budget with broken | whole
    · exact absurd (summarize_of_brokenOff broken recorded.ne_CE) status
    · exact whole
  have cases_ne (finished : launches.length = task.testcases.length) : final.cases ≠ [] := by
    rw [← List.length_pos_iff]
    omega
  refine ⟨?_, ?_, ?_, ?_, ?_, ?_, ?_, ?_⟩
  · rw [cases_eq, total]
    omega
  · simpa only [cases_eq] using recorded.index_eq
  · right
    simpa [phase_eq] using phases
  · rw [cases_eq, List.length_cons]
    omega
  · rw [passed_eq, cases_eq, recorded.passed_eq]
  · intro verdict
    have status : (summarize final).status ≠ .SYSERR := by
      intro system
      simp [system] at verdict
    rcases whole status with ⟨not_cancelled, within_budget, finished, _⟩
    rw [cases_eq, total, compileOk_kept, compileOk_eq, cancelled_eq, budget_eq]
    refine ⟨entered.compileOk, by omega, by omega, within_budget, not_cancelled, ?_⟩
    rw [summarize_of_whole not_cancelled within_budget]
    exact summarizeCases_spec (cases_ne finished)
  · intro compileError
    have status : (summarize final).status ≠ .SYSERR := by simp [compileError]
    rcases whole status with ⟨not_cancelled, within_budget, finished, _⟩
    rw [summarize_of_whole not_cancelled within_budget] at compileError
    rcases (summarizeCases_spec (cases_ne finished)).1 with ⟨item, mem, same⟩
    exact absurd (same.trans compileError) (recorded.ne_CE item mem)
  · intro marked
    by_contra status
    rcases whole status with ⟨not_cancelled, within_budget, finished, launched⟩
    rcases marked with cancelled | exhausted | bad | ⟨launch, mem, refused⟩
    · simp [cancelled_eq, not_cancelled] at cancelled
    · simp [budget_eq, within_budget] at exhausted
    · exact entered.good_input bad
    · rcases List.mem_cons.mp mem with rfl | later
      · simp [entered.succeeded.not_cancelled, entered.succeeded.launched] at refused
      · simp [launched launch later] at refused

/-- An `AC` counts every test case as passed. -/
theorem Presented.all_passed {result : JudgeResult} {launches : List Launch}
    (presented : Presented task result launches) (accepted : result.status = .AC) :
    result.passed = result.total ∧ result.total = result.cases.length ∧
      result.cancelled = false ∧ result.globalDeadlineHit = false := by
  rcases presented.whole (by simp [accepted]) with
    ⟨_, finished, _, within_budget, not_cancelled, _, greatest⟩
  have all : ∀ item ∈ result.cases, item.status = .AC := by
    intro item mem
    have severity := greatest item mem
    rw [accepted] at severity
    cases status : item.status <;> simp [status, JudgeStatus.severity] at severity ⊢
  have every : result.cases.countP (fun item => item.status = .AC) = result.cases.length :=
    List.countP_eq_length.mpr (by simpa using all)
  rw [presented.passed_eq, every]
  exact ⟨finished, finished.symm, not_cancelled, within_budget⟩

/-- No judgement presents a part of the test cases as the whole. -/
theorem judge_presented (options : JudgeOptions) (environment : Environment) (task : JudgeTask) :
    Presented task (judge options environment task).1 (judge options environment task).2 := by
  rcases judge_cases options environment task with
    ⟨final, judged, nothing⟩ | ⟨good_input, language, directory, compiled, started, ended⟩
  · rw [judged]
    exact .of_nothingRun nothing (by simp) (by simp)
  · have compile_phase : compiled.phase = .compile := by
      rw [started.launch_eq]
      rfl
    rcases ended with ⟨final, judged, nothing⟩ | ⟨initial, final, launches, entered, ran, judged⟩
    · rw [judged]
      exact .of_nothingRun nothing (by simpa using compile_phase) fun _ => good_input
    · rw [judged]
      exact .of_loop compile_phase entered ran

/-- The cases of a judgement are those of the processes after the compiler's. -/
theorem judge_casesOf (options : JudgeOptions) (environment : Environment) (task : JudgeTask) :
    (judge options environment task).1.cases =
      casesOf options task 0 task.testcases (judge options environment task).2.tail := by
  rcases judge_cases options environment task with
    ⟨final, judged, nothing⟩ | ⟨-, language, directory, compiled, -, ended⟩
  · rw [judged]
    simp [casesOf, nothing.cases_eq]
  · rcases ended with ⟨final, judged, nothing⟩ | ⟨initial, final, launches, entered, ran, judged⟩
    · rw [judged]
      simp [casesOf, nothing.cases_eq]
    · rw [judged]
      dsimp only
      rw [(summarize_kept final).1, runCases_cases ran, entered.cases_eq]
      rfl

/-- A test case that was started in time and passed. -/
structure CasePassed (environment : Environment) (deadline : Deadline) (case : Testcase × ℕ)
    (launch : Launch) : Prop where
  phase_eq : launch.phase = .testcase case.2 case.1.input
  not_stopped : environment.cancelledAtCase case.2 = false
  before : environment.caseAt case.2 < deadline.timePoint
  not_cancelled : launch.result.cancelled = false
  launched : launch.result.launchError = false
  within_memory : launch.result.memoryExceeded = false
  within_time : launch.result.timedOut = false
  exited : launch.result.exited = true
  exitCode_eq : launch.result.exitCode = 0
  termSignal_eq : launch.result.termSignal = 0
  whole_output : launch.result.stdoutTruncated = false
  outputs_match : outputsMatch case.1.output launch.result.stdoutData = true

theorem ranCase_eq_AC_iff {index : ℕ} {testcase : Testcase} {launch : Launch} {directory : Bytes}
    {deadline : Deadline}
    (started : Started options environment task deadline directory index testcase launch) :
    (ranCase options task index testcase launch).status = .AC ↔
      CasePassed environment deadline (testcase, index) launch := by
  have verdict : (ranCase options task index testcase launch).status =
      (caseVerdict options task testcase launch).status := rfl
  rw [verdict, caseVerdict, classifyCase_eq_AC_iff]
  have before := started.before
  rw [started.start_eq] at before
  constructor
  · rintro ⟨h1, h2, h3, h4, h5, h6, h7, h8, h9⟩
    exact ⟨started.phase_eq, started.not_cancelled, before, h1, h2, h3, h4, h5, h6, h7, h8, h9⟩
  · rintro ⟨_, _, _, h1, h2, h3, h4, h5, h6, h7, h8, h9⟩
    exact ⟨h1, h2, h3, h4, h5, h6, h7, h8, h9⟩

/-- The loop loses no result. -/
theorem runCases_keeps {deadline : Deadline} {directory : Bytes} {index : ℕ}
    {rest : List Testcase} {result final : JudgeResult} {launches : List Launch}
    (ran : runCases options environment task deadline directory index rest result =
      (final, launches))
    {item : TestcaseResult} (mem : item ∈ result.cases) : item ∈ final.cases := by
  induction rest generalizing index result final launches with
  | nil =>
      cases ran
      exact mem
  | cons testcase rest ih =>
      rw [runCases] at ran
      rcases stepCase_cases options environment task deadline directory index testcase result with
        ⟨stopped, step, stop⟩ | ⟨launch, _, ⟨_, step⟩ | ⟨_, step⟩⟩
      · rw [step] at ran
        cases ran
        rcases stop with rfl | rfl <;> exact mem
      · rw [step] at ran
        cases ran
        rw [(abortCases_kept options launch.result _).1]
        exact List.mem_append_left _ mem
      · rw [step] at ran
        rcases later : runCases options environment task deadline directory (index + 1) rest
            (addCase (ranCase options task index testcase launch) result) with ⟨last, launches⟩
        simp only [later] at ran
        cases ran
        exact ih later (List.mem_append_left _ mem)

/-- The loop ends unmarked with accepted cases only, exactly if every test case was run once, in
order, and passed. -/
theorem runCases_accepted_iff {deadline : Deadline} {directory : Bytes} {index : ℕ}
    {rest : List Testcase} {result final : JudgeResult} {launches : List Launch}
    (ran : runCases options environment task deadline directory index rest result =
      (final, launches))
    (not_cancelled : result.cancelled = false) (within_budget : result.globalDeadlineHit = false)
    (accepted : ∀ item ∈ result.cases, item.status = .AC) :
    (final.cancelled = false ∧ final.globalDeadlineHit = false ∧
        ∀ item ∈ final.cases, item.status = .AC) ↔
      List.Forall₂ (CasePassed environment deadline) (rest.zipIdx index) launches := by
  induction rest generalizing index result final launches with
  | nil =>
      cases ran
      simpa [not_cancelled, within_budget] using accepted
  | cons testcase rest ih =>
      rw [List.zipIdx_cons]
      rw [runCases] at ran
      rcases stepCase_cases options environment task deadline directory index testcase result with
        ⟨stopped, step, stop⟩ | ⟨launch, started, ⟨aborts, step⟩ | ⟨continues, step⟩⟩
      · rw [step] at ran
        cases ran
        rcases stop with rfl | rfl <;> simp [markCancelled, markGlobalExhausted]
      · rw [step] at ran
        cases ran
        have failed : ¬(ranCase options task index testcase launch).status = .AC := by
          intro passed
          have verdict : (caseVerdict options task testcase launch).status = .AC := passed
          rcases classifyCase_abort aborts with ⟨_, status⟩ | ⟨_, _, status⟩ <;>
            simp [caseVerdict, status] at verdict
        constructor
        · rintro ⟨_, _, all⟩
          rw [(abortCases_kept options launch.result _).1] at all
          exact absurd (all _ (by simp [addCase])) failed
        · rintro (_ | ⟨passed, _⟩)
          exact absurd ((ranCase_eq_AC_iff started).mpr passed) failed
      · rw [step] at ran
        rcases later : runCases options environment task deadline directory (index + 1) rest
            (addCase (ranCase options task index testcase launch) result) with ⟨last, launches⟩
        simp only [later] at ran
        cases ran
        rw [List.forall₂_cons, ← ranCase_eq_AC_iff started]
        by_cases passed : (ranCase options task index testcase launch).status = .AC
        · have so_far :
              ∀ item ∈ (addCase (ranCase options task index testcase launch) result).cases,
              item.status = .AC := by
            intro item mem
            rcases List.mem_append.mp mem with earlier | new
            · exact accepted item earlier
            · rw [List.mem_singleton.mp new]
              exact passed
          rw [ih later not_cancelled within_budget so_far]
          exact ⟨fun others => ⟨passed, others⟩, fun both => both.2⟩
        · constructor
          · rintro ⟨_, _, all⟩
            exact absurd (all _ (runCases_keeps later (by simp [addCase]))) passed
          · rintro ⟨passes, _⟩
            exact absurd passes passed

/-- The summary of a loop that was entered is `AC` if every test case was run and passed. -/
theorem LoopEntered.accepted_iff {directory : Bytes} {compiled : Launch}
    {initial final : JudgeResult} {launches : List Launch}
    (entered : LoopEntered options environment task compiled directory initial)
    (ran : runCases options environment task (globalDeadline options environment) directory 0
      task.testcases initial = (final, launches)) :
    (summarize final).status = .AC ↔
      List.Forall₂ (CasePassed environment (globalDeadline options environment))
        task.testcases.zipIdx launches := by
  have loop := runCases_accepted_iff ran entered.not_cancelled entered.within_budget
    (by simp [entered.cases_eq])
  have recorded := (runCases_recorded ran entered.recorded).1
  rw [← loop]
  constructor
  · intro summary
    rcases runCases_outcome ran entered.not_cancelled entered.within_budget with
      broken | ⟨not_cancelled, within_budget, _, _⟩
    · simp [summarize_of_brokenOff broken recorded.ne_CE] at summary
    · rw [summarize_of_whole not_cancelled within_budget, summarizeCases_eq_AC_iff] at summary
      exact ⟨not_cancelled, within_budget, summary.2⟩
  · rintro ⟨not_cancelled, within_budget, accepted⟩
    have finished := (loop.mp ⟨not_cancelled, within_budget, accepted⟩).length_eq
    have testcases_ne : task.testcases ≠ [] := fun empty => entered.good_input (.inr (.inl empty))
    have length_eq := recorded.length_eq
    rw [summarize_of_whole not_cancelled within_budget, summarizeCases_eq_AC_iff]
    refine ⟨?_, accepted⟩
    rw [List.length_zipIdx] at finished
    rw [← List.length_pos_iff] at testcases_ne ⊢
    omega

/-- What earns an `AC`: the input is fine, the compiler succeeded and left an executable, and after
it every test case was run once, in order, and passed. -/
structure Earned (options : JudgeOptions) (environment : Environment) (task : JudgeTask)
    (launches : List Launch) : Prop where
  language_some : (parseLanguage task.language).isSome = true
  testcases_ne : task.testcases ≠ []
  processes : ∃ compiled runs directory, launches = compiled :: runs ∧
    compiled.phase = .compile ∧ compiled.result.Succeeded ∧
    environment.createWorkspace options.workspaceRoot = .ok directory ∧
    environment.fileExists (executablePath directory) = true ∧
    List.Forall₂ (CasePassed environment (globalDeadline options environment))
      task.testcases.zipIdx runs

/-- `AC` is earned and what is earned is given, and then every test case counts as passed. -/
theorem judge_accepted_iff (options : JudgeOptions) (environment : Environment)
    (task : JudgeTask) :
    ((judge options environment task).1.status = .AC ↔
        Earned options environment task (judge options environment task).2) ∧
      ((judge options environment task).1.status = .AC →
        (judge options environment task).1.passed = (judge options environment task).1.total ∧
        (judge options environment task).1.total =
          (judge options environment task).1.cases.length ∧
        (judge options environment task).1.cancelled = false ∧
        (judge options environment task).1.globalDeadlineHit = false) := by
  have nothing_accepted {final : JudgeResult} {launches : List Launch}
      (nothing : NothingRun { total := task.testcases.length } final launches) :
      final.status ≠ .AC := by
    rcases nothing.status_eq with status | ⟨status, _⟩ <;> simp [status]
  rcases judge_cases options environment task with
    ⟨final, judged, nothing⟩ | ⟨good_input, language, directory, compiled, started, ended⟩
  · rw [judged]
    refine ⟨iff_of_false (nothing_accepted nothing) ?_,
      fun accepted => absurd accepted (nothing_accepted nothing)⟩
    rintro ⟨_, _, compiled, runs, directory, none_started, _⟩
    simp at none_started
  · have compile_phase : compiled.phase = .compile := by
      rw [started.launch_eq]
      rfl
    rcases ended with ⟨final, judged, nothing⟩ | ⟨initial, final, launches, entered, ran, judged⟩
    · rw [judged]
      refine ⟨iff_of_false (nothing_accepted nothing) ?_,
        fun accepted => absurd accepted (nothing_accepted nothing)⟩
      rintro ⟨_, testcases_ne, _, runs, _, only, _, _, _, _, passed⟩
      cases only
      exact absurd (List.zipIdx_eq_nil_iff.mp (List.forall₂_nil_right_iff.mp passed)) testcases_ne
    · rw [judged]
      refine ⟨?_, (Presented.of_loop compile_phase entered ran).all_passed⟩
      have summary := entered.accepted_iff ran
      constructor
      · intro accepted
        have language_some : (parseLanguage task.language).isSome = true := by
          rw [Option.isSome_iff_ne_none]
          exact fun unknown => good_input (.inl unknown)
        exact ⟨language_some, fun empty => good_input (.inr (.inl empty)), compiled, launches,
          directory, rfl, compile_phase, entered.succeeded, entered.directory_eq,
          entered.built, summary.mp accepted⟩
      · rintro ⟨_, _, _, runs, _, all, _, _, _, _, passed⟩
        cases all
        exact summary.mpr passed

/-- Everything goes well: the compiler succeeds, and the program writes a line. -/
def promptEnvironment : Environment where
  executor :=
    { compile _ := ⟨{ launched := true, exited := true }, 0⟩
      run _ _ _ := ⟨{ launched := true, exited := true, stdoutData := [52, 50, 10] }, 0⟩ }
  createdAt := 0
  cancelledAtStart := false
  createWorkspace _ := .ok (Bytes.ofString "/tmp/oj")
  writeFile _ _ := .ok ()
  gatePolls := []
  cancelledAtGate := false
  compileAt := 0
  fileExists _ := true
  cancelledAtCase _ := false
  caseAt _ := 0

def oneCase : JudgeTask where
  language := Bytes.ofString "c"
  sourceCode := []
  testcases := [⟨[], [52, 50]⟩]
  timeLimitMs := 1000
  memoryLimitKb := 0

theorem judge_accepted_iff_prompt :
    Earned {} promptEnvironment oneCase (judge {} promptEnvironment oneCase).2 :=
  (judge_accepted_iff {} promptEnvironment oneCase).1.mp (by decide +kernel)

/-- The process that is started for a test case, with the limit that the budget leaves for it. -/
def caseProcess (options : JudgeOptions) (environment : Environment) (task : JudgeTask)
    (deadline : Deadline) (directory : Bytes) (case : Testcase × ℕ) : Launch :=
  caseLaunch options environment task directory
    (effectiveTimeLimitMs (problemLimitMs options task)
      (deadline.remainingMs (environment.caseAt case.2))) case.2 case.1

/-- The compiler, with the limit that the budget leaves for it. -/
def compileProcess (options : JudgeOptions) (environment : Environment) (deadline : Deadline)
    (language : Language) (directory : Bytes) : Launch :=
  compileLaunch options environment language directory
    (if deadline.remainingMs environment.compileAt < options.compileTimeLimitMs then
      deadline.remainingMs environment.compileAt
    else options.compileTimeLimitMs)

/-- A test case that gets some time, and whose process passes. -/
def CaseDeserves (options : JudgeOptions) (environment : Environment) (task : JudgeTask)
    (deadline : Deadline) (directory : Bytes) (case : Testcase × ℕ) : Prop :=
  0 < (caseProcess options environment task deadline directory case).limitMs ∧
    CasePassed environment deadline case
      (caseProcess options environment task deadline directory case)

/-- A pass of the loop starts this process, or none. -/
theorem stepCase_process {deadline : Deadline} {directory : Bytes} {index : ℕ}
    {testcase : Testcase} {result next : JudgeResult} {launch : Launch}
    (step : stepCase options environment task deadline directory index testcase result =
        .aborted next launch ∨
      stepCase options environment task deadline directory index testcase result =
        .continued next launch) :
    launch = caseProcess options environment task deadline directory (testcase, index) ∧
      0 < launch.limitMs := by
  rw [stepCase] at step
  dsimp only at step
  split_ifs at step with stopped exhausted limited aborts
  · simp at step
  · simp at step
  · simp at step
  · rcases step with step | step <;> cases step
    exact ⟨rfl, Int.not_le.mp limited⟩
  · rcases step with step | step <;> cases step
    exact ⟨rfl, Int.not_le.mp limited⟩

/-- A test case with some time before the deadline is run. -/
theorem stepCase_of_deserves {deadline : Deadline} {directory : Bytes} {index : ℕ}
    {testcase : Testcase} (result : JudgeResult)
    (deserves : CaseDeserves options environment task deadline directory (testcase, index)) :
    ∃ next, stepCase options environment task deadline directory index testcase result =
      .continued next
        (caseProcess options environment task deadline directory (testcase, index)) := by
  rcases deserves with ⟨limit_pos, passed⟩
  rcases stepCase_cases options environment task deadline directory index testcase result with
    ⟨final, step, -⟩ | ⟨launch, started, ⟨aborts, step⟩ | ⟨-, step⟩⟩
  · have time : 0 < deadline.remainingMs (environment.caseAt index) :=
      Deadline.remainingMs_pos_iff.mpr passed.before
    rw [stepCase] at step
    dsimp only at step
    split_ifs at step with stopped exhausted limited
    · simp [passed.not_stopped] at stopped
    · omega
    · exact absurd limit_pos (Int.not_lt.mpr limited)
  · rcases (stepCase_process (.inl step)).1 with rfl
    have verdict := (ranCase_eq_AC_iff started).mpr passed
    have status : (caseVerdict options task testcase (caseProcess options environment task deadline
        directory (testcase, index))).status = .AC := verdict
    rcases classifyCase_abort aborts with ⟨-, failed⟩ | ⟨-, -, failed⟩ <;>
      simp [caseVerdict, failed] at status
  · rcases (stepCase_process (.inr step)).1 with rfl
    exact ⟨_, step⟩

/-- The loop runs every test case and each passes, exactly if each deserves it. -/
theorem runCases_passed_iff {deadline : Deadline} {directory : Bytes} {index : ℕ}
    {rest : List Testcase} {result : JudgeResult} :
    List.Forall₂ (CasePassed environment deadline) (rest.zipIdx index)
        (runCases options environment task deadline directory index rest result).2 ↔
      ∀ case ∈ rest.zipIdx index,
        CaseDeserves options environment task deadline directory case := by
  induction rest generalizing index result with
  | nil => simp [runCases]
  | cons testcase rest ih =>
      rw [List.zipIdx_cons, List.forall_mem_cons, runCases]
      by_cases deserves : CaseDeserves options environment task deadline directory (testcase, index)
      · rcases stepCase_of_deserves result deserves with ⟨next, step⟩
        simp only [step, List.forall₂_cons, ih]
        exact and_congr_left fun _ => iff_of_true deserves.2 deserves
      · refine iff_of_false ?_ fun all => deserves all.1
        have not_process {launch : Launch} (process : launch = caseProcess options environment task
            deadline directory (testcase, index) ∧ 0 < launch.limitMs) :
            ¬CasePassed environment deadline (testcase, index) launch := by
          rcases process with ⟨rfl, limit_pos⟩
          exact fun passed => deserves ⟨limit_pos, passed⟩
        intro passed
        split at passed
        · cases passed
        · rename_i step
          cases passed with
          | cons head _ => exact not_process (stepCase_process (.inl step)) head
        · rename_i step
          cases passed with
          | cons head _ => exact not_process (stepCase_process (.inr step)) head

/-- What the environment does for an `AC`: the submission can be judged, a permit comes in time,
the compiler succeeds and leaves an executable, and the process of each test case passes. -/
structure Deserved (options : JudgeOptions) (environment : Environment) (task : JudgeTask)
    (language : Language) (directory : Bytes) : Prop where
  language_eq : parseLanguage task.language = some language
  testcases_ne : task.testcases ≠ []
  limit_pos : 0 < task.timeLimitMs
  not_cancelled : environment.cancelledAtStart = false
  directory_eq : environment.createWorkspace options.workspaceRoot = .ok directory
  written : environment.writeFile (joinPath directory (sourceName language)) task.sourceCode =
    .ok ()
  permitted : acquire (globalDeadline options environment) environment.gatePolls = true
  before : environment.compileAt < (globalDeadline options environment).timePoint
  compiled : (compileProcess options environment (globalDeadline options environment) language
    directory).result.Succeeded
  built : environment.fileExists (executablePath directory) = true
  passed : ∀ case ∈ task.testcases.zipIdx,
    CaseDeserves options environment task (globalDeadline options environment) directory case

/-- From the permit on. -/
theorem compileAndRun_accepted_iff {language : Language} {directory : Bytes}
    (good_input : ¬BadInput task)
    (created : environment.createWorkspace options.workspaceRoot = .ok directory) :
    (compileAndRun options environment task (globalDeadline options environment) language directory
        { total := task.testcases.length }).1.status = .AC ↔
      environment.compileAt < (globalDeadline options environment).timePoint ∧
        (compileProcess options environment (globalDeadline options environment) language
          directory).result.Succeeded ∧
        environment.fileExists (executablePath directory) = true ∧
        ∀ case ∈ task.testcases.zipIdx,
          CaseDeserves options environment task (globalDeadline options environment) directory
            case := by
  rw [← Deadline.remainingMs_pos_iff, compileAndRun]
  dsimp only
  split
  · rename_i exhausted
    refine iff_of_false (by simp [markGlobalExhausted]) fun all => ?_
    omega
  · rename_i time
    rw [← compileProcess]
    split
    · rename_i failed failure
      refine iff_of_false ?_ fun all => ?_
      · have nothing := compileFailure_nothingRun options environment failure
        rcases nothing.status_eq with status | ⟨status, _⟩ <;> simp [status]
      · rw [(compileFailure_eq_none_iff options environment).mpr ⟨all.2.1, all.2.2.1⟩] at failure
        cases failure
    · rename_i none
      rcases (compileFailure_eq_none_iff options environment).mp none with ⟨succeeded, built⟩
      generalize entered_eq : ({ recordCompile directory (compileProcess options environment
        (globalDeadline options environment) language directory).result
        { total := task.testcases.length } with compileOk := true } : JudgeResult) = initial
      have entered : LoopEntered options environment task
          (compileProcess options environment (globalDeadline options environment) language
            directory) directory initial := by
        subst entered_eq
        exact ⟨good_input, created, succeeded, built, rfl, rfl, rfl, rfl, rfl, rfl⟩
      rcases ran : runCases options environment task (globalDeadline options environment) directory
        0 task.testcases initial with ⟨final, launches⟩
      have launches_eq : (runCases options environment task (globalDeadline options environment)
          directory 0 task.testcases initial).2 = launches := by rw [ran]
      have passed := @runCases_passed_iff options environment task
        (globalDeadline options environment) directory 0 task.testcases initial
      rw [launches_eq] at passed
      rw [← passed]
      exact (entered.accepted_iff ran).trans (by simp [Int.not_le.mp time, succeeded, built])

/-- `AC` is what the environment alone decides, before anything is known of the launches. -/
theorem judge_accepted_iff_deserved :
    (judge options environment task).1.status = .AC ↔
      ∃ language directory, Deserved options environment task language directory := by
  constructor
  · intro accepted
    unfold judge at accepted
    split at accepted
    · simp [systemError] at accepted
    rename_i language language_eq
    dsimp only at accepted
    split at accepted
    · simp [systemError] at accepted
    rename_i testcases_ne
    split at accepted
    · simp [systemError] at accepted
    rename_i limit_pos
    split at accepted
    · simp [markCancelled] at accepted
    rename_i not_cancelled
    split at accepted
    · simp [systemError] at accepted
    rename_i directory directory_eq
    split at accepted
    · simp [systemError] at accepted
    rename_i written
    split at accepted
    · rename_i permitted
      have good_input : ¬BadInput task := by
        simp [BadInput, language_eq, testcases_ne, limit_pos]
      rcases (compileAndRun_accepted_iff good_input directory_eq).mp accepted with
        ⟨before, compiled, built, passed⟩
      exact ⟨language, directory,
        { language_eq, testcases_ne, limit_pos := Int.not_le.mp limit_pos,
          not_cancelled := by simpa using not_cancelled, directory_eq, written, permitted, before,
          compiled, built, passed }⟩
    · split at accepted <;> simp [markCancelled, markGlobalExhausted] at accepted
  · rintro ⟨language, directory, deserved⟩
    have good_input : ¬BadInput task := by
      simp [BadInput, deserved.language_eq, deserved.testcases_ne, deserved.limit_pos]
    have accepted := (compileAndRun_accepted_iff good_input deserved.directory_eq).mpr
      ⟨deserved.before, deserved.compiled, deserved.built, deserved.passed⟩
    have permitted := deserved.permitted
    rw [globalDeadline] at permitted accepted
    simpa [judge, deserved.language_eq, deserved.testcases_ne, deserved.limit_pos,
      deserved.not_cancelled, deserved.directory_eq, deserved.written, permitted,
      Int.not_le.mpr deserved.limit_pos] using accepted

end OnlineJudge.Judge
