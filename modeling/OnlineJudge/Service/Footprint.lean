import OnlineJudge.Db.Ledger
import OnlineJudge.Library.TransactionLogic
import OnlineJudge.Service.Calls

/-!
# What each call can do

The statements that a call issues inside and outside of a transaction and the events
that it emits, whatever the database answers. A property that only a few calls can touch
is proved for those, and follows for all others from this table.
-/

namespace OnlineJudge

namespace Service

open Judge Db Library Library.SharedConnection

def submitInside : Stmt → Prop
  | .problems (.findById _) => True
  | .inFlight (.markInterrupted ..) => True
  | .inFlight (.removeByTaskId _) => True
  | .submissions (.insert ..) => True
  | .statuses (.find ..) => True
  | .statuses (.upsert _) => True
  | _ => False

/-- The statements of a settlement on in-flight tasks are about the task itself. -/
def settlementInside (taskId : TaskId) : Stmt → Prop
  | .inFlight (.markInterrupted other _) => other = taskId
  | .inFlight (.removeByTaskId other) => other = taskId
  | .inFlight _ => False
  | stmt => submitInside stmt

theorem submitInside_of_settlementInside {taskId : TaskId} {stmt : Stmt}
    (inside : settlementInside taskId stmt) : submitInside stmt := by
  cases stmt with
  | inFlight own => cases own <;> trivial
  | _ => exact inside

def rejudgeInside : Stmt → Prop
  | .submissions (.findById _) => True
  | .submissions (.update _) => True
  | .submissions (.countFor ..) => True
  | .submissions (.minAcceptedAt ..) => True
  | .statuses (.findSubmitCount ..) => True
  | .statuses (.upsert _) => True
  | _ => False

/-- The statements of a call that are part of its transaction. -/
def Call.inside : Call → Stmt → Prop
  | .persist .., .problems (.findById _) => True
  | .persist .., .inFlight (.insert ..) => True
  | .discard _, .inFlight (.markInterrupted ..) => True
  | .handle task _ _, stmt =>
      if task.rejudgeSubmissionId ≠ 0 then rejudgeInside stmt else submitInside stmt
  | .createProblem .., .problems (.insert ..) => True
  | .createProblem .., .testcases _ => True
  | .updateProblem .., .problems (.findById _) => True
  | .updateProblem .., .problems (.update ..) => True
  | .updateProblem .., .testcases _ => True
  | .removeProblem _, .problems (.findById _) => True
  | .removeProblem _, .problems (.delete _) => True
  | .removeProblem _, .testcases (.deleteAll _) => True
  | .removeProblem _, .submissions (.countForProblem _) => True
  | .removeProblem _, .statuses (.deleteForProblem _) => True
  | .removeProblem _, .inFlight (.countForProblem _) => True
  | .removeProblem _, .inFlight (.deleteForProblem _) => True
  | .createTestcase .., .problems (.findById _) => True
  | .createTestcase .., .testcases _ => True
  | .updateTestcase .., .testcases _ => True
  | .removeTestcase .., .testcases _ => True
  | .changePassword _, .users (.findById _) => True
  | .changePassword _, .users (.updatePassword ..) => True
  | .changeRole .., .users (.findById _) => True
  | .changeRole .., .users .countAdmins => True
  | .changeRole .., .users (.updateRole ..) => True
  | _, _ => False

/-- The statements of a call that it issues without the mutex. -/
def Call.outside : Call → Stmt → Prop
  | .handle .., .problems (.findById _) => True
  | .handle .., .testcases (.list _) => True
  | .handle .., .submissions (.findById _) => True
  | .recover .., .inFlight .resetStaleClaims => True
  | .recover .., .inFlight (.listPending _) => True
  | .recover .., .inFlight (.claim ..) => True
  | .register _, .users (.findByNickname _) => True
  | .register request, .users (.create _ _ _ _ now) => now = request.now
  | .resetPassword .., .users (.resetPassword ..) => True
  | _, _ => False

def Call.emits : Call → Event → Prop
  | .persist .., .persisted .. => True
  | .discard _, .discarded => True
  | .handle .., .judging .. => True
  | .handle .., .settled _ => True
  | .handle .., .threw => True
  | .recover .., .handedOver .. => True
  | .recover .., .recovered _ => True
  | .createProblem .., .problemCreated _ => True
  | .updateProblem .., .problemUpdated _ => True
  | .removeProblem _, .problemRemoved _ => True
  | .createTestcase .., .testcaseCreated _ => True
  | .updateTestcase .., .testcaseUpdated .. => True
  | .removeTestcase .., .testcaseRemoved _ => True
  | .register _, .registered _ => True
  | .resetPassword .., .passwordReset _ => True
  | .changePassword _, .passwordChanged _ => True
  | .changeRole .., .roleChanged _ => True
  | _, _ => False

section Combinators

variable {inside outside : Stmt → Prop} {emitted : Event → Prop} {event success failure : Event}
  {next : Program}

theorem uses_finish (emits : emitted event) :
    Uses inside outside emitted (Program.finish event) .idle :=
  ⟨emits, trivial⟩

theorem uses_rollbackWith {work : Unit} (emits : emitted event) :
    Uses inside outside emitted (Program.rollbackWith event) (.active work) :=
  ⟨emits, trivial⟩

theorem uses_commitWith {work : Unit} (succeeds : emitted success) (fails : emitted failure) :
    Uses inside outside emitted (Program.commitWith success failure) (.active work) :=
  ⟨⟨succeeds, trivial⟩, ⟨fails, trivial⟩⟩

theorem uses_beginWith (fails : emitted failure)
    (uses : Uses inside outside emitted next (.active ())) :
    Uses inside outside emitted (Program.beginWith failure next) .idle :=
  ⟨uses, ⟨fails, trivial⟩⟩

end Combinators

section Tasks

variable {request : PersistRequest} {task : SubmissionTask} {judge : JudgeTask → JudgeResult}
  {now : Bytes}

private theorem insertInFlight_uses (submittedAt : Bytes) (attempts attempt : ℕ) :
    Uses (Call.inside (.persist request now)) (Call.outside (.persist request now))
      (Call.emits (.persist request now))
      (insertInFlight request submittedAt (.persisted .internalError [] internalErrorText)
        attempts attempt) (.active ()) := by
  induction attempts generalizing attempt with
  | zero => exact uses_rollbackWith trivial
  | succ attempts ih =>
      refine ⟨trivial, ?_⟩
      rintro (_ | id | _)
      · exact uses_rollbackWith trivial
      · exact uses_commitWith trivial trivial
      · exact ih (attempt + 1)

private theorem persistInFlight_uses :
    Uses (Call.inside (.persist request now)) (Call.outside (.persist request now))
      (Call.emits (.persist request now)) (persistInFlight request now) .idle := by
  refine uses_beginWith trivial ⟨trivial, ?_⟩
  rintro (_ | _ | problem)
  · exact uses_rollbackWith trivial
  · exact uses_rollbackWith trivial
  · exact insertInFlight_uses _ _ _

theorem settleInterrupted_uses {inside outside : Stmt → Prop} {emitted : Event → Prop}
    {taskId : TaskId} {reason : Bytes} {next : Program}
    (marks : inside (.inFlight (.markInterrupted taskId reason)))
    (uses : Uses inside outside emitted next .idle) :
    Uses inside outside emitted (settleInterrupted taskId reason next) .idle := by
  unfold settleInterrupted
  split
  · exact uses
  · refine ⟨⟨marks, ?_⟩, uses⟩
    rintro (_ | _)
    · exact uses
    · exact ⟨uses, uses⟩

private theorem storeSubmission_uses {outside : Stmt → Prop} {emitted : Event → Prop}
    (settled : ∀ outcome, emitted (.settled outcome)) (record : SubmissionRecord)
    (settles : Option TaskId) (result : JudgeResult) :
    Uses (settlementInside task.inFlightTaskId) outside emitted
      (storeSubmission record settles result) (.active ()) := by
  refine ⟨trivial, ?_⟩
  rintro (_ | newId)
  · exact uses_rollbackWith (settled _)
  refine ⟨trivial, ?_⟩
  rintro (_ | found)
  · exact uses_rollbackWith (settled _)
  refine ⟨trivial, ?_⟩
  rintro (_ | _)
  · exact uses_rollbackWith (settled _)
  · exact uses_commitWith (settled _) (settled _)

theorem settle_uses {outside : Stmt → Prop} {emitted : Event → Prop}
    (settled : ∀ outcome, emitted (.settled outcome)) (record : SubmissionRecord)
    (result : JudgeResult) :
    Uses (settlementInside task.inFlightTaskId) outside emitted (settle task record result)
      .idle := by
  refine uses_beginWith (settled _) ⟨trivial, ?_⟩
  rintro (_ | _ | problem)
  · exact uses_rollbackWith (settled _)
  · dsimp only
    split
    · exact uses_rollbackWith (settled _)
    · refine ⟨rfl, ?_⟩
      rintro (_ | _)
      · exact uses_rollbackWith (settled _)
      · exact uses_commitWith (settled _) (settled _)
  · dsimp only
    split
    · exact storeSubmission_uses settled _ _ _
    · refine ⟨rfl, ?_⟩
      rintro (_ | _ | _)
      · exact uses_rollbackWith (settled _)
      · exact uses_rollbackWith (settled _)
      · exact storeSubmission_uses settled _ _ _

theorem submit_uses (dump : Dump) :
    Uses (settlementInside task.inFlightTaskId) (Call.outside (.handle task judge now))
      (Call.emits (.handle task judge now)) (submit dump judge now task) .idle := by
  refine ⟨trivial, ?_⟩
  rintro (_ | _ | problem)
  · exact uses_finish trivial
  · exact settleInterrupted_uses rfl (uses_finish trivial)
  · dsimp only
    split
    · exact uses_finish trivial
    · refine ⟨trivial, ?_⟩
      rintro (_ | records)
      · exact uses_finish trivial
      · refine ⟨trivial, ?_⟩
        split
        · exact uses_finish trivial
        · exact settle_uses (fun _ => trivial) _ _

private theorem recomputeStatus_uses {inside outside : Stmt → Prop} {emitted : Event → Prop}
    {userId problemId : ℤ} {failure next : Program}
    (within : ∀ stmt, rejudgeInside stmt → inside stmt)
    (fails : Uses inside outside emitted failure (.active ()))
    (continues : Uses inside outside emitted next (.active ())) :
    Uses inside outside emitted (recomputeStatus userId problemId failure next)
      (.active ()) := by
  have finishes : ∀ count, Uses inside outside emitted
      (recomputeStatus.finishRecompute userId problemId failure next count) (.active ()) := by
    intro count
    refine ⟨within _ trivial, ?_⟩
    rintro (_ | firstAcAt)
    · exact fails
    refine ⟨within _ trivial, ?_⟩
    rintro (_ | _)
    · exact fails
    · exact continues
  refine ⟨within _ trivial, ?_⟩
  rintro (_ | _ | count)
  · exact fails
  · refine ⟨within _ trivial, ?_⟩
    rintro (_ | count)
    · exact fails
    · exact finishes count
  · exact finishes count

theorem storeRejudge_uses {outside : Stmt → Prop} {emitted : Event → Prop}
    (settled : ∀ outcome, emitted (.settled outcome)) (updated : SubmissionRecord)
    (result : JudgeResult) :
    Uses rejudgeInside outside emitted (storeRejudge updated result) .idle := by
  refine uses_beginWith (settled _) ⟨trivial, ?_⟩
  rintro (_ | _ | again)
  · exact uses_rollbackWith (settled _)
  · exact uses_rollbackWith (settled _)
  refine ⟨trivial, ?_⟩
  rintro (_ | _)
  · exact uses_rollbackWith (settled _)
  · exact recomputeStatus_uses (fun _ inside => inside) (uses_rollbackWith (settled _))
      (uses_commitWith (settled _) (settled _))

theorem rejudge_uses (dump : Dump) (submissionId : ℤ) :
    Uses rejudgeInside (Call.outside (.handle task judge now))
      (Call.emits (.handle task judge now)) (rejudge dump judge submissionId) .idle := by
  refine ⟨trivial, ?_⟩
  rintro (_ | _ | original)
  · exact uses_finish trivial
  · exact uses_finish trivial
  refine ⟨trivial, ?_⟩
  rintro (_ | _ | problem)
  · exact uses_finish trivial
  · exact uses_finish trivial
  refine ⟨trivial, ?_⟩
  rintro (_ | records)
  · exact uses_finish trivial
  refine ⟨trivial, ?_⟩
  split
  · exact uses_finish trivial
  split
  · exact uses_finish trivial
  · exact storeRejudge_uses (fun _ => trivial) _ _

end Tasks

section Recovery

variable {options : RecoveryOptions} {instanceId : Bytes} {allTurns : List RecoveryTurn}

private theorem recoverFrom_uses (limit : ℕ) (turns : List RecoveryTurn)
    (point : RecoveryPoint) (enqueued : ℕ) :
    Uses (Call.inside (.recover options instanceId allTurns))
      (Call.outside (.recover options instanceId allTurns))
      (Call.emits (.recover options instanceId allTurns))
      (recoverFrom instanceId limit turns point enqueued) .idle := by
  induction turns generalizing point enqueued with
  | nil => trivial
  | cons turn turns ih =>
      cases point with
      | scanning =>
          unfold recoverFrom
          split
          · exact uses_finish trivial
          · refine ⟨trivial, ?_⟩
            rintro (_ | _ | ⟨task, rest⟩)
            · exact uses_finish trivial
            · exact uses_finish trivial
            · exact ih _ _
      | batch task rest => exact ih _ _
      | waiting task rest =>
          unfold recoverFrom
          split
          · exact uses_finish trivial
          · exact ih _ _
          · refine ⟨trivial, ?_⟩
            rintro (_ | _ | _)
            · exact uses_finish trivial
            · exact ih _ _
            · exact ⟨trivial, ih _ _⟩

private theorem recoveryRun_uses :
    Uses (Call.inside (.recover options instanceId allTurns))
      (Call.outside (.recover options instanceId allTurns))
      (Call.emits (.recover options instanceId allTurns))
      (recoveryRun options instanceId allTurns) .idle := by
  unfold recoveryRun
  split
  · refine ⟨trivial, ?_⟩
    rintro (_ | _)
    · exact uses_finish trivial
    · exact recoverFrom_uses _ _ _ _
  · exact recoverFrom_uses _ _ _ _

end Recovery

section Administration

theorem insertSamples_uses {inside outside : Stmt → Prop} {emitted : Event → Prop}
    {problemId : ℤ} {failure next : Program} (testcases : ∀ stmt, inside (.testcases stmt))
    (fails : Uses inside outside emitted failure (.active ()))
    (continues : Uses inside outside emitted next (.active ())) (samples : List SampleInput)
    (ord : ℤ) :
    Uses inside outside emitted (insertSamples problemId failure next samples ord)
      (.active ()) := by
  induction samples generalizing ord with
  | nil => exact continues
  | cons sample rest ih =>
      refine ⟨testcases _, ?_⟩
      rintro (_ | id)
      · exact fails
      · exact ih (ord + 1)

private theorem createProblem_uses (data : ProblemData) (now : Bytes) :
    Uses (Call.inside (.createProblem data now)) (Call.outside (.createProblem data now))
      (Call.emits (.createProblem data now)) (createProblem data now) .idle := by
  refine uses_beginWith trivial ⟨trivial, ?_⟩
  rintro (_ | problemId)
  · exact uses_rollbackWith trivial
  · exact insertSamples_uses (fun _ => trivial) (uses_rollbackWith trivial)
      (uses_commitWith trivial trivial) _ _

private theorem updateProblem_uses (id : ℤ) (patch : ProblemPatch) (now : Bytes) :
    Uses (Call.inside (.updateProblem id patch now)) (Call.outside (.updateProblem id patch now))
      (Call.emits (.updateProblem id patch now)) (updateProblem id patch now) .idle := by
  refine uses_beginWith trivial ⟨trivial, ?_⟩
  rintro (_ | _ | record)
  · exact uses_rollbackWith trivial
  · exact uses_rollbackWith trivial
  refine ⟨trivial, ?_⟩
  rintro (_ | _)
  · exact uses_rollbackWith trivial
  dsimp only
  split
  · exact uses_commitWith trivial trivial
  · refine ⟨trivial, ?_⟩
    rintro (_ | _)
    · exact uses_rollbackWith trivial
    · exact insertSamples_uses (fun _ => trivial) (uses_rollbackWith trivial)
        (uses_commitWith trivial trivial) _ _

private theorem removeProblem_uses (id : ℤ) :
    Uses (Call.inside (.removeProblem id)) (Call.outside (.removeProblem id))
      (Call.emits (.removeProblem id)) (removeProblem id) .idle := by
  refine uses_beginWith trivial ⟨trivial, ?_⟩
  rintro (_ | _ | problem)
  · exact uses_rollbackWith trivial
  · exact uses_rollbackWith trivial
  refine ⟨trivial, ?_⟩
  rintro (_ | submissionCount)
  · exact uses_rollbackWith trivial
  dsimp only
  split
  · exact uses_rollbackWith trivial
  refine ⟨trivial, ?_⟩
  rintro (_ | inFlightCount)
  · exact uses_rollbackWith trivial
  dsimp only
  split
  · exact uses_rollbackWith trivial
  refine ⟨trivial, ?_⟩
  rintro (_ | _)
  · exact uses_rollbackWith trivial
  refine ⟨trivial, ?_⟩
  rintro (_ | _)
  · exact uses_rollbackWith trivial
  refine ⟨trivial, ?_⟩
  rintro (_ | _)
  · exact uses_rollbackWith trivial
  refine ⟨trivial, ?_⟩
  rintro (_ | _)
  · exact uses_rollbackWith trivial
  · exact uses_commitWith trivial trivial

private theorem createTestcase_uses (problemId : ℤ) (data : TestcaseData) :
    Uses (Call.inside (.createTestcase problemId data))
      (Call.outside (.createTestcase problemId data))
      (Call.emits (.createTestcase problemId data)) (createTestcase problemId data) .idle := by
  have inserts : ∀ ord, Uses (Call.inside (.createTestcase problemId data))
      (Call.outside (.createTestcase problemId data))
      (Call.emits (.createTestcase problemId data)) (insertHidden problemId data ord)
      (.active ()) := by
    intro ord
    refine ⟨trivial, ?_⟩
    rintro (_ | newId)
    · exact uses_rollbackWith trivial
    · exact uses_commitWith trivial trivial
  refine uses_beginWith trivial ⟨trivial, ?_⟩
  rintro (_ | _ | problem)
  · exact uses_rollbackWith trivial
  · exact uses_rollbackWith trivial
  dsimp only
  split
  · exact inserts _
  · refine ⟨trivial, ?_⟩
    rintro (_ | maxOrd)
    · exact uses_rollbackWith trivial
    dsimp only
    split
    · exact uses_rollbackWith trivial
    · exact inserts _

private theorem updateTestcase_uses (problemId testcaseId : ℤ) (patch : TestcasePatch) :
    Uses (Call.inside (.updateTestcase problemId testcaseId patch))
      (Call.outside (.updateTestcase problemId testcaseId patch))
      (Call.emits (.updateTestcase problemId testcaseId patch))
      (updateTestcase problemId testcaseId patch) .idle := by
  refine uses_beginWith trivial ⟨trivial, ?_⟩
  rintro (_ | _ | current)
  · exact uses_rollbackWith trivial
  · exact uses_rollbackWith trivial
  refine ⟨trivial, ?_⟩
  rintro (_ | _)
  · exact uses_rollbackWith trivial
  · exact uses_commitWith trivial trivial

private theorem removeTestcase_uses (problemId testcaseId : ℤ) :
    Uses (Call.inside (.removeTestcase problemId testcaseId))
      (Call.outside (.removeTestcase problemId testcaseId))
      (Call.emits (.removeTestcase problemId testcaseId))
      (removeTestcase problemId testcaseId) .idle := by
  refine uses_beginWith trivial ⟨trivial, ?_⟩
  rintro (_ | _ | current)
  · exact uses_rollbackWith trivial
  · exact uses_rollbackWith trivial
  refine ⟨trivial, ?_⟩
  rintro (_ | _)
  · exact uses_rollbackWith trivial
  · exact uses_commitWith trivial trivial

end Administration

section Users

variable {writer : ThreadId}

private theorem createUser_uses {request : RegisterRequest} (nickname hash : Bytes)
    (attempts attempt : ℕ) :
    Uses (Call.inside (.register request)) (Call.outside (.register request))
      (Call.emits (.register request))
      (createUser writer request.generated nickname hash request.now attempts attempt) .idle := by
  induction attempts generalizing attempt with
  | zero => exact uses_finish trivial
  | succ attempts ih =>
      refine ⟨rfl, ?_⟩
      rintro (_ | user | _ | _)
      · exact uses_finish trivial
      · exact uses_finish trivial
      · exact uses_finish trivial
      · exact ih (attempt + 1)

private theorem registerUser_uses (request : RegisterRequest) :
    Uses (Call.inside (.register request)) (Call.outside (.register request))
      (Call.emits (.register request)) (registerUser writer request) .idle := by
  unfold registerUser
  split
  · exact uses_finish trivial
  · exact uses_finish trivial
  · refine ⟨trivial, ?_⟩
    rintro (_ | _ | user)
    · exact uses_finish trivial
    · dsimp only
      split
      · exact uses_finish trivial
      · exact createUser_uses _ _ _ _
    · exact uses_finish trivial

private theorem changePassword_uses (request : PasswordRequest) :
    Uses (Call.inside (.changePassword request)) (Call.outside (.changePassword request))
      (Call.emits (.changePassword request)) (changePassword writer request) .idle := by
  unfold changePassword
  split
  · exact uses_finish trivial
  refine uses_beginWith trivial ⟨trivial, ?_⟩
  rintro (_ | _ | record)
  · exact uses_rollbackWith trivial
  · exact uses_rollbackWith trivial
  dsimp only
  split
  · exact uses_rollbackWith trivial
  · exact uses_rollbackWith trivial
  · refine ⟨trivial, ?_⟩
    rintro (_ | _ | _)
    · exact uses_rollbackWith trivial
    · exact uses_rollbackWith trivial
    · exact uses_commitWith trivial trivial

private theorem changeRole_uses (userId : ℤ) (newRole : Role) :
    Uses (Call.inside (.changeRole userId newRole)) (Call.outside (.changeRole userId newRole))
      (Call.emits (.changeRole userId newRole)) (changeRole writer userId newRole) .idle := by
  have updates : Uses (Call.inside (.changeRole userId newRole))
      (Call.outside (.changeRole userId newRole)) (Call.emits (.changeRole userId newRole))
      (updateRole writer userId newRole) (.active ()) := by
    refine ⟨trivial, ?_⟩
    rintro (_ | _)
    · exact uses_rollbackWith trivial
    · exact uses_commitWith trivial trivial
  refine uses_beginWith trivial ⟨trivial, ?_⟩
  rintro (_ | _ | record)
  · exact uses_rollbackWith trivial
  · exact uses_rollbackWith trivial
  dsimp only
  split
  · refine ⟨trivial, ?_⟩
    rintro (_ | adminCount)
    · exact uses_rollbackWith trivial
    dsimp only
    split
    · exact uses_rollbackWith trivial
    · exact updates
  · exact updates

end Users

theorem Call.uses (dump : Dump) (id : ThreadId) (call : Call) :
    Uses call.inside call.outside call.emits (call.body dump id) .idle := by
  cases call with
  | persist request now => exact persistInFlight_uses
  | discard taskId => exact settleInterrupted_uses trivial (uses_finish trivial)
  | handle task judge now =>
      simp only [Call.body, Service.handle]
      split
      case isTrue isRejudge =>
        have inside : Call.inside (.handle task judge now) = rejudgeInside :=
          funext fun stmt => if_pos isRejudge
        rw [inside]
        exact rejudge_uses dump _
      case isFalse isSubmit =>
        have inside : Call.inside (.handle task judge now) = submitInside :=
          funext fun stmt => if_neg isSubmit
        rw [inside]
        exact (submit_uses dump).mono fun _ => submitInside_of_settlementInside
  | recover options instanceId turns => exact recoveryRun_uses
  | createProblem data now => exact createProblem_uses data now
  | updateProblem problemId patch now => exact updateProblem_uses problemId patch now
  | removeProblem problemId => exact removeProblem_uses problemId
  | createTestcase problemId data => exact createTestcase_uses problemId data
  | updateTestcase problemId testcaseId patch =>
      exact updateTestcase_uses problemId testcaseId patch
  | removeTestcase problemId testcaseId => exact removeTestcase_uses problemId testcaseId
  | register request => exact registerUser_uses request
  | resetPassword userId newHash =>
      refine ⟨trivial, ?_⟩
      rintro (_ | _ | _)
      · exact uses_finish trivial
      · exact uses_finish trivial
      · exact uses_finish trivial
  | changePassword request => exact changePassword_uses request
  | changeRole userId newRole => exact changeRole_uses userId newRole

/-- The statements that are issued without the mutex. -/
inductive IsBare : Stmt → Prop where
  | users (own : UserStmt) : IsBare (.users own)
  | findProblem (id : ℤ) : IsBare (.problems (.findById id))
  | listTestcases (problemId : ℤ) : IsBare (.testcases (.list problemId))
  | findSubmission (id : ℤ) : IsBare (.submissions (.findById id))
  | resetStaleClaims : IsBare (.inFlight .resetStaleClaims)
  | listPending (limit : ℕ) : IsBare (.inFlight (.listPending limit))
  | claim (id : ℤ) (owner : Bytes) : IsBare (.inFlight (.claim id owner))

theorem Call.outside_isBare {call : Call} {stmt : Stmt} (outside : call.outside stmt) :
    IsBare stmt := by
  unfold Call.outside at outside
  split at outside
  · exact .findProblem _
  · exact .listTestcases _
  · exact .findSubmission _
  · exact .resetStaleClaims
  · exact .listPending _
  · exact .claim _ _
  · exact .users _
  · exact .users _
  · exact .users _
  · exact outside.elim

/-- The part of an in-flight row that recovery leaves alone. -/
def entry (row : InFlightRow) : TaskId × ℤ × Prop :=
  (row.taskId, row.problemId, row.state = .interrupted)

/-- What statements without the mutex leave alone. -/
structure BareEffect (before after : Db) : Prop where
  problems : after.problems = before.problems
  testcases : after.testcases = before.testcases
  submissions : after.submissions = before.submissions
  statuses : after.statuses = before.statuses
  accepted : after.inFlight.accepted = before.inFlight.accepted
  purged : after.inFlight.purged = before.inFlight.purged
  entries : after.inFlight.rows.map entry = before.inFlight.rows.map entry

theorem BareEffect.refl (db : Db) : BareEffect db db := ⟨rfl, rfl, rfl, rfl, rfl, rfl, rfl⟩

theorem BareEffect.trans {first second third : Db} (earlier : BareEffect first second)
    (later : BareEffect second third) : BareEffect first third where
  problems := later.problems.trans earlier.problems
  testcases := later.testcases.trans earlier.testcases
  submissions := later.submissions.trans earlier.submissions
  statuses := later.statuses.trans earlier.statuses
  accepted := later.accepted.trans earlier.accepted
  purged := later.purged.trans earlier.purged
  entries := later.entries.trans earlier.entries

private theorem mapRows_effect (db : Db) {change : InFlightRow → InFlightRow}
    (taskId : ∀ row, (change row).taskId = row.taskId)
    (problemId : ∀ row, (change row).problemId = row.problemId)
    (interrupted : ∀ row, (change row).state = .interrupted ↔ row.state = .interrupted) :
    BareEffect db { db with inFlight := db.inFlight.mapRows change } := by
  refine ⟨rfl, rfl, rfl, rfl, rfl, rfl, ?_⟩
  simp only [InFlightTable.mapRows, List.map_map]
  refine List.map_congr_left fun row _ => ?_
  simp [entry, taskId row, problemId row, interrupted row]

theorem IsBare.effect {stmt : Stmt} {before after : Db} {reply : Reply stmt} (bare : IsBare stmt)
    (executed : execute stmt before = some (reply, after)) : BareEffect before after := by
  cases bare with
  | users own =>
      rcases Option.some.inj executed with ⟨⟩
      exact ⟨rfl, rfl, rfl, rfl, rfl, rfl, rfl⟩
  | findProblem id | listTestcases problemId | findSubmission id | listPending limit =>
      rcases Option.some.inj executed with ⟨⟩
      exact BareEffect.refl _
  | resetStaleClaims =>
      rcases Option.some.inj executed with ⟨⟩
      exact mapRows_effect before unclaimed_keepsTask.taskId unclaimed_keepsTask.problemId
        unclaimed_interrupted
  | claim id owner =>
      rcases Option.some.inj executed with ⟨⟩
      exact mapRows_effect before (claimedBy_keepsTask id owner).taskId
        (claimedBy_keepsTask id owner).problemId (claimedBy_interrupted id owner)

/-- What may happen to an open transaction from outside leaves the same things alone. -/
theorem interferes_effect {dump : Dump} {contract : Contract (server dump)}
    (bare : ∀ stmt, contract.Bare stmt → IsBare stmt) {before after : Db}
    (interferes : contract.Interferes before after) : BareEffect before after := by
  induction interferes with
  | refl => exact BareEffect.refl _
  | tail _ edge ih =>
      rcases edge with ⟨stmt, reply, isBare, executed⟩
      exact ih.trans ((bare stmt isBare).effect executed)

section SafeEnds

variable {dump : Dump} {contract : Contract (server dump)} {id : ThreadId} {call : Call}
  {event success failure : Event} {next : Program} {seen work : Db} {events : List Event}

theorem safe_finish (promised : contract.Promise id call (events ++ [event]) seen) :
    contract.Safe (contract.Promise id call) (Program.finish event) .idle seen events :=
  ⟨promised, trivial⟩

theorem safe_rollbackWith (promised : contract.Promise id call (events ++ [event]) seen) :
    contract.Safe (contract.Promise id call) (Program.rollbackWith event) (.active work) seen
      events :=
  ⟨promised, trivial⟩

theorem safe_commitWith
    (commits : ∀ later, contract.Basic later → contract.Grows seen later →
      contract.Interferes work later →
      contract.Inv later ∧ contract.Promise id call (events ++ [success]) later)
    (fails : contract.Promise id call (events ++ [failure]) seen) :
    contract.Safe (contract.Promise id call) (Program.commitWith success failure) (.active work)
      seen events := by
  refine ⟨fun later basic grown interferes => ?_, fails, trivial⟩
  rcases commits later basic grown interferes with ⟨inv, promised⟩
  exact ⟨inv, promised, trivial⟩

theorem safe_beginWith
    (begins : ∀ db, contract.Basic db → contract.Inv db → contract.Grows seen db →
      contract.Safe (contract.Promise id call) next (.active db) seen events)
    (fails : contract.Promise id call (events ++ [failure]) seen) :
    contract.Safe (contract.Promise id call) (Program.beginWith failure next) .idle seen
      events :=
  ⟨begins, fails, trivial⟩

end SafeEnds

end Service

end OnlineJudge
