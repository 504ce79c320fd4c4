import OnlineJudge.Http.Authority
import OnlineJudge.Service.Footprint

/-!
# Every job keeps to its rights

Each handler asks for no more than its route is for, and only after its sender has been
found in the table of users. Together with the policy of `Http.Authority` this says of
every run of the server where its administrators come from, and that requests of others
leave everything alone that is not theirs.
-/

namespace OnlineJudge

namespace Http

open Db Auth Service Problem Library Library.SharedConnection Judge

/-- The program is one that a job may run. -/
abbrev Keeps (base : Db) (job : Job) (cleared : Bool) (program : HandlerProgram) : Prop :=
  Guarded (possibleReply base) job.clearedBy (job.rights base) cleared program

/-- A task that is handed over at the start rejudges nothing. -/
def Plain : Event → Prop
  | .handedOver _ task => task.rejudgeSubmissionId = 0
  | _ => True

/-- A service that issues allowed statements only. -/
abbrev Serves (base : Db) (allowed : Stmt → Prop) (program : Service.Program) : Prop :=
  Within (possibleReply base) ⟨allowed, Plain⟩ program

/-- The statements of those who may edit a problem. -/
structure MayEdit (allowed : Stmt → Prop) (problemId : ℤ) : Prop where
  harmless : ∀ stmt, Harmless stmt → allowed stmt
  updates : ∀ columns now, allowed (.problems (.update problemId columns now))
  deletes : allowed (.problems (.delete problemId))
  testcases : ∀ own : TestcaseStmt, own.problemId = problemId → allowed (.testcases own)

section Handlers

variable {base : Db} {job : Job} {cleared : Bool} {outside : Surroundings}
  {request : Request}

theorem keeps_respond {response : Response} : Keeps base job cleared (respond response) :=
  ⟨trivial, trivial⟩

theorem keeps_respondWith {allowed : Stmt → Prop} {response : Event → Response}
    {program : Service.Program} (serves : Serves base allowed program)
    (issues : ∀ stmt, allowed stmt → (job.rights base cleared).issues stmt) :
    Keeps base job cleared (respondWith response program) :=
  serves.call issues (fun _ _ => trivial) fun _ _ => keeps_respond

theorem keeps_service {response : Event → Response} {program : Service.Program}
    (serves : Serves base (job.rights base cleared).issues program) :
    Keeps base job cleared (respondWith response program) :=
  keeps_respondWith serves fun _ issues => issues

/-- Whoever is let in has sent the request, and is an administrator where he has to be. -/
theorem keeps_requireLogin {next : AuthUser → HandlerProgram}
    (own : job.sender = sender outside request)
    (each : ∀ user : AuthUser, sender outside request = some user.id →
      Keeps base job false (next user) ∨
        (job.needsAdmin = true → user.role = .admin) ∧ Keeps base job true (next user)) :
    Keeps base job false (requireLogin outside request next) := by
  unfold requireLogin
  split
  case h_1 => exact keeps_respond
  case h_2 token isToken =>
    split
    case h_1 => exact keeps_respond
    case h_2 userId verified =>
      have sent : sender outside request = some userId := by simp [sender, isToken, verified]
      refine ⟨.inl trivial, ?_, ?_⟩
      · simpa [authenticateRequest, verified] using keeps_respond
      · rintro (_ | record) isPossible
        · left
          simpa [authenticateRequest, verified] using keeps_respond
        · have isOwn : record.id = userId := isPossible record rfl
          have found := each
            { id := record.id
              account := record.account
              nickname := record.nickname
              role := record.role
              resetPwdFlag := record.resetPwdFlag } (sent.trans (congrArg some isOwn.symm))
          simp only [authenticateRequest, verified]
          rcases found with same | ⟨isAdmin, more⟩
          · exact .inl same
          · exact .inr ⟨⟨own.trans sent, record, rfl, isAdmin⟩, more⟩

theorem keeps_requireAdmin {next : AuthUser → HandlerProgram}
    (own : job.sender = sender outside request) (each : ∀ user, Keeps base job true (next user)) :
    Keeps base job false (requireAdmin outside request next) := by
  apply keeps_requireLogin own
  intro user sent
  by_cases isAdmin : user.role = .admin
  · refine .inr ⟨fun _ => isAdmin, ?_⟩
    cases checkAdmin user with
    | ok => exact each user
    | notAdmin | passwordChangeRequired => exact keeps_respond
  · left
    simpa [checkAdmin, isAdmin] using keeps_respond

theorem keeps_withBody {α : Type} {parser : Json → Except Bytes α} {next : α → HandlerProgram}
    (each : ∀ parsed, parsedBody outside request parser = some parsed →
      Keeps base job cleared (next parsed)) :
    Keeps base job cleared (withBody outside request parser next) := by
  unfold withBody
  split
  case h_1 => exact keeps_respond
  case h_2 body isBody =>
    split
    case h_1 => exact keeps_respond
    case h_2 parsed isParsed =>
      apply each
      simp [parsedBody, isBody, isParsed, Except.toOption]

theorem keeps_withPathId {illegal : Response} {next : ℤ → HandlerProgram}
    (each : ∀ id, request.pathId.bind parseProblemId = some id → Keeps base job cleared (next id)) :
    Keeps base job cleared (withPathId request illegal next) := by
  unfold withPathId
  split
  case h_1 => exact keeps_respond
  case h_2 id isId => exact each id isId

theorem keeps_withTestcaseId {segment : Option Bytes} {next : ℤ → ℤ → HandlerProgram}
    (each : ∀ problemId testcaseId, request.pathId.bind parseProblemId = some problemId →
      Keeps base job cleared (next problemId testcaseId)) :
    Keeps base job cleared (withTestcaseId request segment next) := by
  unfold withTestcaseId
  split
  case h_1 => exact keeps_respond
  case h_2 text =>
    apply keeps_withPathId
    intro problemId isId
    split
    · exact keeps_respond
    · exact each _ _ isId

theorem keeps_withRoom {status : JudgeManager.EnqueueStatus} {next : HandlerProgram}
    (keeps : Keeps base job cleared next) : Keeps base job cleared (withRoom status next) := by
  cases status with
  | accepted => exact keeps
  | queueFull | stopped => exact keeps_respond

end Handlers

section Services

variable {base : Db} {allowed : Stmt → Prop} {rights : Rights Stmt Event} {success failure : Event}
  {next : Service.Program}

/-- The statements of a call, as its table lists them. -/
theorem serves_call (dump : Dump) (id : ThreadId) (call : Call)
    (noRecovery : ∀ options instanceId turns, call ≠ .recover options instanceId turns)
    (inside : ∀ stmt, call.inside stmt → allowed stmt)
    (outside : ∀ stmt, call.outside stmt → allowed stmt) :
    Serves base allowed (call.body dump id) := by
  apply (call.uses dump id).within inside outside
  intro event emitted
  cases event with
  | handedOver =>
      cases call with
      | recover => exact absurd rfl (noRecovery _ _ _)
      | _ => exact emitted.elim
  | _ => trivial

theorem within_rollbackWith (emits : rights.emits failure) :
    Within (possibleReply base) rights (Program.rollbackWith failure) :=
  ⟨emits, trivial⟩

theorem within_commitWith (succeeds : rights.emits success) (fails : rights.emits failure) :
    Within (possibleReply base) rights (Program.commitWith success failure) := by
  rintro (_ | _)
  · exact within_rollbackWith fails
  · exact ⟨succeeds, trivial⟩

theorem within_beginWith (fails : rights.emits failure)
    (within : Within (possibleReply base) rights next) :
    Within (possibleReply base) rights (Program.beginWith failure next) := by
  rintro (_ | _)
  · exact ⟨fails, trivial⟩
  · exact within

variable {writer : ThreadId}

theorem serves_changePassword {request : PasswordRequest}
    (finds : allowed (.users (.findById request.userId)))
    (updates : ∀ newHash, request.newHash = some newHash →
      allowed (.users (.updatePassword writer request.userId newHash))) :
    Serves base allowed (changePassword writer request) := by
  unfold changePassword
  split
  case h_1 => exact ⟨trivial, trivial⟩
  case h_2 newHash isHash =>
    refine within_beginWith trivial ⟨finds, within_rollbackWith trivial, ?_⟩
    rintro (_ | record) _
    · exact within_rollbackWith trivial
    dsimp only
    split
    · exact within_rollbackWith trivial
    · exact within_rollbackWith trivial
    · refine ⟨updates newHash isHash, within_rollbackWith trivial, ?_⟩
      rintro (_ | _) _
      · exact within_rollbackWith trivial
      · exact within_commitWith trivial trivial

theorem serves_resetPassword {userId : ℤ} {newHash : Bytes}
    (resets : allowed (.users (.resetPassword writer userId newHash))) :
    Serves base allowed (resetPassword writer userId newHash) := by
  refine ⟨resets, ⟨trivial, trivial⟩, ?_⟩
  rintro (_ | _) _ <;> exact ⟨trivial, trivial⟩

theorem serves_changeRole {userId : ℤ} {role : Role}
    (finds : allowed (.users (.findById userId))) (counts : allowed (.users .countAdmins))
    (updates : allowed (.users (.updateRole writer userId role))) :
    Serves base allowed (changeRole writer userId role) := by
  have update : Serves base allowed (updateRole writer userId role) :=
    ⟨updates, within_rollbackWith trivial, fun _ _ => within_commitWith trivial trivial⟩
  refine within_beginWith trivial ⟨finds, within_rollbackWith trivial, ?_⟩
  rintro (_ | record) _
  · exact within_rollbackWith trivial
  dsimp only
  split
  · refine ⟨counts, within_rollbackWith trivial, ?_⟩
    intro adminCount _
    dsimp only
    split
    · exact within_rollbackWith trivial
    · exact update
  · exact update

section Editing

variable {problemId : ℤ}

theorem within_insertSamples {failure next : Service.Program}
    (inserts : ∀ own : TestcaseStmt, own.problemId = problemId → rights.issues (.testcases own))
    (fails : Within (possibleReply base) rights failure)
    (continues : Within (possibleReply base) rights next) (samples : List SampleInput) (ord : ℤ) :
    Within (possibleReply base) rights (insertSamples problemId failure next samples ord) := by
  induction samples generalizing ord with
  | nil => exact continues
  | cons sample rest ih => exact ⟨inserts _ rfl, fails, fun _ _ => ih (ord + 1)⟩

/-- Samples are stored for the new problem only. -/
theorem serves_createProblem {data : ProblemData} {now : Bytes}
    (inserts : ∀ columns, allowed (.problems (.insert columns now)))
    (testcases : ∀ own : TestcaseStmt, base.problems.nextId ≤ own.problemId →
      allowed (.testcases own)) :
    Serves base allowed (createProblem data now) := by
  refine within_beginWith trivial ⟨inserts _, within_rollbackWith trivial, ?_⟩
  intro newId isNew
  apply within_insertSamples
  · rintro own rfl
    exact testcases own isNew
  · exact within_rollbackWith trivial
  · exact within_commitWith trivial trivial

theorem serves_updateProblem {patch : ProblemPatch} {now : Bytes}
    (may : MayEdit allowed problemId) :
    Serves base allowed (updateProblem problemId patch now) := by
  refine within_beginWith trivial ⟨may.harmless _ trivial, within_rollbackWith trivial, ?_⟩
  rintro (_ | record) _
  · exact within_rollbackWith trivial
  refine ⟨may.updates _ _, within_rollbackWith trivial, fun _ _ => ?_⟩
  dsimp only
  split
  · exact within_commitWith trivial trivial
  · refine ⟨may.testcases _ rfl, within_rollbackWith trivial, fun _ _ => ?_⟩
    exact within_insertSamples may.testcases (within_rollbackWith trivial)
      (within_commitWith trivial trivial) _ _

theorem serves_removeProblem (may : MayEdit allowed problemId) :
    Serves base allowed (removeProblem problemId) := by
  refine within_beginWith trivial ⟨may.harmless _ trivial, within_rollbackWith trivial, ?_⟩
  rintro (_ | record) _
  · exact within_rollbackWith trivial
  refine ⟨may.harmless _ trivial, within_rollbackWith trivial, fun submissionCount _ => ?_⟩
  dsimp only
  split
  · exact within_rollbackWith trivial
  refine ⟨may.harmless _ trivial, within_rollbackWith trivial, fun inFlightCount _ => ?_⟩
  dsimp only
  split
  · exact within_rollbackWith trivial
  refine ⟨may.testcases _ rfl, within_rollbackWith trivial, fun _ _ => ?_⟩
  refine ⟨may.harmless _ trivial, within_rollbackWith trivial, fun _ _ => ?_⟩
  refine ⟨may.harmless _ trivial, within_rollbackWith trivial, fun _ _ => ?_⟩
  exact ⟨may.deletes, within_rollbackWith trivial, fun _ _ => within_commitWith trivial trivial⟩

theorem serves_createTestcase {data : TestcaseData} (may : MayEdit allowed problemId) :
    Serves base allowed (createTestcase problemId data) := by
  have inserts : ∀ ord, Serves base allowed (insertHidden problemId data ord) := by
    intro ord
    exact ⟨may.testcases _ rfl, within_rollbackWith trivial,
      fun _ _ => within_commitWith trivial trivial⟩
  refine within_beginWith trivial ⟨may.harmless _ trivial, within_rollbackWith trivial, ?_⟩
  rintro (_ | record) _
  · exact within_rollbackWith trivial
  dsimp only
  split
  · exact inserts _
  · refine ⟨may.harmless _ trivial, within_rollbackWith trivial, fun maxOrd _ => ?_⟩
    dsimp only
    split
    · exact within_rollbackWith trivial
    · exact inserts _

theorem serves_updateTestcase {testcaseId : ℤ} {patch : TestcasePatch}
    (may : MayEdit allowed problemId) :
    Serves base allowed (updateTestcase problemId testcaseId patch) := by
  refine within_beginWith trivial ⟨may.harmless _ trivial, within_rollbackWith trivial, ?_⟩
  rintro (_ | current) _
  · exact within_rollbackWith trivial
  · exact ⟨may.testcases _ rfl, within_rollbackWith trivial,
      fun _ _ => within_commitWith trivial trivial⟩

theorem serves_removeTestcase {testcaseId : ℤ} (may : MayEdit allowed problemId) :
    Serves base allowed (removeTestcase problemId testcaseId) := by
  refine within_beginWith trivial ⟨may.harmless _ trivial, within_rollbackWith trivial, ?_⟩
  rintro (_ | current) _
  · exact within_rollbackWith trivial
  · exact ⟨may.testcases _ rfl, within_rollbackWith trivial,
      fun _ _ => within_commitWith trivial trivial⟩

end Editing

theorem within_recomputeStatus {userId problemId : ℤ} {failure next : Service.Program}
    (harmless : ∀ stmt, Harmless stmt → rights.issues stmt)
    (fails : Within (possibleReply base) rights failure)
    (continues : Within (possibleReply base) rights next) :
    Within (possibleReply base) rights (recomputeStatus userId problemId failure next) := by
  have finishes : ∀ count, Within (possibleReply base) rights
      (recomputeStatus.finishRecompute userId problemId failure next count) := by
    intro count
    refine ⟨harmless _ trivial, fails, fun firstAcAt _ => ?_⟩
    exact ⟨harmless _ trivial, fails, fun _ _ => continues⟩
  refine ⟨harmless _ trivial, fails, ?_⟩
  rintro (_ | count) _
  · exact ⟨harmless _ trivial, fails, fun count _ => finishes count⟩
  · exact finishes count

/-- A rejudge changes the submission it is about. -/
theorem serves_rejudge {dump : Dump} {judge : JudgeTask → JudgeResult} {submissionId : ℤ}
    (harmless : ∀ stmt, Harmless stmt → allowed stmt)
    (updates : ∀ record, record.id = submissionId → allowed (.submissions (.update record))) :
    Serves base allowed (rejudge dump judge submissionId) := by
  have ends : ∀ outcome, Serves base allowed (Program.finish (.settled outcome)) :=
    fun _ => ⟨trivial, trivial⟩
  refine ⟨harmless _ trivial, ends _, ?_⟩
  rintro (_ | original) isPossible
  · exact ends _
  have isTarget : original.id = submissionId := isPossible original rfl
  refine ⟨harmless _ trivial, ends _, ?_⟩
  rintro (_ | problem) _
  · exact ends _
  refine ⟨harmless _ trivial, ends _, fun records _ => ⟨trivial, ?_⟩⟩
  split
  · exact ends _
  split
  · exact ⟨trivial, trivial⟩
  refine within_beginWith trivial ⟨harmless _ trivial, within_rollbackWith trivial, ?_⟩
  rintro (_ | again) _
  · exact within_rollbackWith trivial
  refine ⟨updates _ isTarget, within_rollbackWith trivial, fun _ _ => ?_⟩
  exact within_recomputeStatus harmless (within_rollbackWith trivial)
    (within_commitWith trivial trivial)

end Services

section Jobs

variable {base : Db} {id : ThreadId} {job : Job} {cleared : Bool} {outside : Surroundings}
  {request : Request}

/-- A service of which every statement is harmless may be called by anybody. -/
theorem keeps_harmless {response : Event → Response} {program : Service.Program}
    (serves : Serves base Harmless program) :
    Keeps base job cleared (respondWith response program) :=
  keeps_respondWith serves fun _ harmless => .inl harmless

theorem keeps_register : Keeps base job cleared (handleRegister id outside request) := by
  apply keeps_withBody
  rintro ⟨nickname, password⟩ -
  apply keeps_harmless
  apply serves_call (fun _ => none) id (.register _) nofun
  · rintro (own | own | own | own | own | own) inside <;> exact inside.elim
  · rintro (own | own | own | own | own | own) isOutside
    · cases own <;> trivial
    all_goals exact isOutside.elim

/-- A harmless service is called by a handler that goes on with its outcome. -/
theorem keeps_call {passes : Event → Answer} {next : Event → HandlerProgram}
    {program : Service.Program} (serves : Serves base Harmless program)
    (passed : ∀ event, Plain event → job.mayEmit cleared (passes event))
    (continues : ∀ event, Keeps base job cleared (next event)) :
    Keeps base job cleared (program.call passes next) :=
  serves.call (fun _ harmless => .inl harmless) passed fun event _ => continues event

/-- The statements of `persist_in_flight`, of a settlement and of giving up a task. -/
theorem serves_background (dump : Dump) (id : ThreadId) (call : Call)
    (isBackground : (∃ request now, call = .persist request now) ∨
      (∃ taskId, call = .discard taskId) ∨
      ∃ task judge now, call = .handle task judge now ∧ task.rejudgeSubmissionId = 0) :
    Serves base Harmless (call.body dump id) := by
  apply serves_call
  · rintro options instanceId turns rfl
    rcases isBackground with ⟨_, _, isCall⟩ | ⟨_, isCall⟩ | ⟨_, _, _, isCall, -⟩ <;> cases isCall
  · intro stmt inside
    rcases isBackground with ⟨_, _, rfl⟩ | ⟨_, rfl⟩ | ⟨task, _, _, rfl, isSubmit⟩
    · rcases stmt with (own | own | own | own | own | own) <;> cases own <;> trivial
    · rcases stmt with (own | own | own | own | own | own) <;> cases own <;> trivial
    · simp only [Call.inside, isSubmit, ne_eq, not_true_eq_false, if_false] at inside
      rcases stmt with (own | own | own | own | own | own) <;> cases own <;> trivial
  · intro stmt isOutside
    rcases isBackground with ⟨_, _, rfl⟩ | ⟨_, rfl⟩ | ⟨task, _, _, rfl, isSubmit⟩
    · exact isOutside.elim
    · exact isOutside.elim
    · rcases stmt with (own | own | own | own | own | own) <;> cases own <;> trivial

theorem keeps_submit : Keeps base (.handle .submit request outside) false
    (handleSubmit outside request) := by
  apply keeps_withPathId
  intro problemId _
  apply keeps_requireLogin rfl
  intro user _
  left
  split
  · exact keeps_respond
  split
  · exact keeps_respond
  refine ⟨.inl trivial, keeps_respond, ?_⟩
  rintro (_ | problem) _
  · exact .inl keeps_respond
  left
  dsimp only
  split
  · exact keeps_respond
  apply keeps_withRoom
  apply keeps_call (serves_background (fun _ => none) 0 (.persist _ _) (.inl ⟨_, _, rfl⟩))
  · exact fun _ _ => trivial
  intro event
  split
  · unfold commitTask
    split
    · exact ⟨.inl rfl, trivial⟩
    · exact keeps_harmless
        (serves_background (fun _ => none) 0 (.discard _) (.inr (.inl ⟨_, rfl⟩)))
  · exact keeps_respond
  · exact keeps_respond

theorem keeps_changePassword :
    Keeps base (.handle .changePassword request outside) false
      (handleChangePassword id outside request) := by
  apply keeps_requireLogin rfl
  intro user sent
  refine .inr ⟨nofun, ?_⟩
  apply keeps_withBody
  rintro ⟨oldPassword, newPassword⟩ parsed
  dsimp only
  split
  · exact keeps_respond
  · apply keeps_service
    apply serves_changePassword (.inl trivial)
    exact fun newHash isHash => .inr ⟨rfl, sent, _, parsed, isHash⟩

theorem keeps_updateUser :
    Keeps base (.handle .updateUser request outside) false
      (handleAdminUpdateUser id outside request) := by
  apply keeps_requireAdmin rfl
  intro user
  apply keeps_withBody
  rintro (⟨userId, newPassword⟩ | ⟨userId, role⟩) asks
  · dsimp only
    split
    case h_1 => exact keeps_respond
    case h_2 newHash isHash =>
      apply keeps_service
      exact serves_resetPassword (.inr ⟨rfl, newPassword, asks, isHash⟩)
  · apply keeps_service
    exact serves_changeRole (.inl trivial) (.inl trivial) (.inr ⟨rfl, asks⟩)

/-- The routes with the number of a problem in their path let a cleared sender edit it. -/
theorem mayEdit_of_pathId {endpoint : Endpoint} {problemId : ℤ}
    (edits : endpoint.editsProblem = true)
    (isId : request.pathId.bind parseProblemId = some problemId) :
    MayEdit (Job.rights base (.handle endpoint request outside) true).issues problemId where
  harmless := fun _ harmless => .inl harmless
  updates := fun _ _ => .inr ⟨rfl, edits, isId⟩
  deletes := .inr ⟨rfl, edits, isId⟩
  testcases := by
    rintro own rfl
    exact .inr ⟨rfl, .inl ⟨edits, isId⟩⟩

/-- Every handler keeps to the rights of its route. -/
theorem keeps_handler (endpoint : Endpoint) :
    Keeps base (.handle endpoint request outside) false (endpoint.handler id outside request) := by
  cases endpoint with
  | register => exact keeps_register
  | changePassword => exact keeps_changePassword
  | submit => exact keeps_submit
  | updateUser => exact keeps_updateUser
  | createProblem =>
      apply keeps_requireAdmin rfl
      intro user
      apply keeps_withBody
      intro data _
      apply keeps_service
      apply serves_createProblem
      · exact fun _ => .inr ⟨rfl, trivial⟩
      · exact fun own isNew => .inr ⟨rfl, .inr ⟨trivial, isNew⟩⟩
  | updateProblem =>
      apply keeps_requireAdmin rfl
      intro user
      apply keeps_withPathId
      intro problemId isId
      apply keeps_withBody
      intro patch _
      exact keeps_service (serves_updateProblem (mayEdit_of_pathId rfl isId))
  | deleteProblem =>
      apply keeps_requireAdmin rfl
      intro user
      apply keeps_withPathId
      intro problemId isId
      exact keeps_service (serves_removeProblem (mayEdit_of_pathId rfl isId))
  | createTestcase =>
      apply keeps_requireAdmin rfl
      intro user
      apply keeps_withPathId
      intro problemId isId
      apply keeps_withBody
      intro data _
      exact keeps_service (serves_createTestcase (mayEdit_of_pathId rfl isId))
  | updateTestcase segment =>
      apply keeps_requireAdmin rfl
      intro user
      apply keeps_withTestcaseId
      intro problemId testcaseId isId
      apply keeps_withBody
      intro patch _
      exact keeps_service (serves_updateTestcase (mayEdit_of_pathId rfl isId))
  | deleteTestcase segment =>
      apply keeps_requireAdmin rfl
      intro user
      apply keeps_withTestcaseId
      intro problemId testcaseId isId
      exact keeps_service (serves_removeTestcase (mayEdit_of_pathId rfl isId))
  | rejudge =>
      apply keeps_requireAdmin rfl
      intro user
      apply keeps_withPathId
      intro submissionId asks
      refine ⟨.inl trivial, keeps_respond, ?_⟩
      rintro (_ | record) _
      · exact .inl keeps_respond
      left
      dsimp only
      split
      · exact keeps_respond
      apply keeps_withRoom
      exact ⟨.inr ⟨rfl, asks⟩, trivial⟩

theorem mayEmit_background {event : Event} (plain : Plain event) :
    job.mayEmit cleared (backgroundAnswer event) := by
  cases event with
  | handedOver => exact .inl plain
  | _ => trivial

theorem serves_recoverFrom (owner : Bytes) (limit : ℕ) (turns : List RecoveryTurn)
    (point : RecoveryPoint) (enqueued : ℕ) :
    Serves base Harmless (recoverFrom owner limit turns point enqueued) := by
  induction turns generalizing point enqueued with
  | nil => trivial
  | cons turn turns ih =>
      cases point with
      | scanning =>
          unfold recoverFrom
          split
          · exact ⟨trivial, trivial⟩
          · refine ⟨trivial, ⟨trivial, trivial⟩, ?_⟩
            rintro (_ | ⟨task, rest⟩) _
            · exact ⟨trivial, trivial⟩
            · exact ih _ _
      | batch task rest => exact ih _ _
      | waiting task rest =>
          unfold recoverFrom
          split
          · exact ⟨trivial, trivial⟩
          · exact ih _ _
          · refine ⟨trivial, ⟨trivial, trivial⟩, ?_⟩
            rintro (_ | _) _
            · exact ih _ _
            · exact ⟨rfl, ih _ _⟩

theorem keeps_recover {options : RecoveryOptions} {instanceId : Bytes}
    {turns : List RecoveryTurn} :
    Keeps base job cleared (inBackground (recoveryRun options instanceId turns)) := by
  refine keeps_call ?_ (fun _ => mayEmit_background) (fun _ => by trivial)
  unfold recoveryRun
  split
  · exact ⟨trivial, ⟨trivial, trivial⟩, fun _ _ => serves_recoverFrom _ _ _ _ _⟩
  · exact serves_recoverFrom _ _ _ _ _

/-- A worker changes a submission only if its task is to. -/
theorem keeps_work {dump : Dump} {task : SubmissionTask} {judge : JudgeTask → JudgeResult}
    {now : Bytes} (rejudges : task.rejudgeSubmissionId ≠ 0 → cleared = true) :
    Keeps base (.work task judge now) cleared
      (inBackground (Service.handle dump judge now task)) := by
  by_cases isSubmit : task.rejudgeSubmissionId = 0
  · refine keeps_call ?_ (fun _ => mayEmit_background) (fun _ => by trivial)
    exact serves_background dump 0 (.handle task judge now)
      (.inr (.inr ⟨_, _, _, rfl, isSubmit⟩))
  · have serves : Serves base (Job.rights base (.work task judge now) cleared).issues
        (rejudge dump judge task.rejudgeSubmissionId) := by
      apply serves_rejudge (fun _ harmless => .inl harmless)
      exact fun record isTarget => .inr ⟨rejudges isSubmit, isSubmit, isTarget⟩
    simp only [inBackground, Service.handle, isSubmit, ne_eq, not_false_eq_true, if_true]
    exact serves.call (fun _ issues => issues) (fun _ plain => mayEmit_background plain)
      fun _ _ => trivial

end Jobs

section Runs

variable {dump : Dump} {base : Db} {state next : ServerState}

/-- Every thread that starts is one that the policy knows: a worker's task that rejudges was
enqueued for a request of a trusted user. -/
theorem admitted_of_dispatches {job : Job} (holds : (authority dump base).Holds state)
    (dispatches : Dispatches state (.start job)) :
    (authority dump base).Admitted ((webServer dump).spawn state job).births state.nextThread
      job := by
  cases job with
  | handle endpoint request outside => exact ⟨false, nofun, keeps_handler endpoint⟩
  | recover options instanceId turns => exact ⟨false, nofun, keeps_recover⟩
  | work task judge now =>
      rcases dispatches with ⟨id, thread, there, enqueued⟩
      rcases (holds.watched id thread there).events _ enqueued with ⟨cleared, isCleared, emits⟩
      refine ⟨true, fun _ rejudges => ?_, keeps_work fun _ => rfl⟩
      rcases emits with isSubmit | ⟨rfl, asks⟩
      · exact absurd isSubmit rejudges
      · have born : state.births id = some thread.call := by simp [State.births, there]
        exact (askedFor_of_vouched born (isCleared rfl) asks (needsAdmin_of_rejudges asks)).mono
          (holds.extends_spawn _)

/-- Contents owe nothing to anybody for what they were at the start. -/
theorem traced_self {db : Db} {births : Births} : Traced db births db where
  admins := fun _ isAdmin => .initial isAdmin
  users := fun row mem => ⟨row, mem, ⟨⟨rfl, rfl, rfl, rfl⟩, .inl ⟨rfl, rfl⟩, .inl rfl⟩⟩
  problems :=
    { nextId := le_rfl
      kept := fun _ mem => .inl mem
      stored := fun _ mem => .inl mem
      keptTestcases := fun _ mem => .inl mem
      storedTestcases := fun _ mem => .inl mem
      untouched := .inl ⟨rfl, rfl⟩ }
  submissions := fun _ mem => .inl mem

theorem authority_of_reaches {db : Db}
    (reaches : (webServer dump).system.Reaches Dispatches (State.initial db) state) :
    (authority dump db).Holds state := by
  refine Policy.Holds.of_reaches (Policy.holds_initial ?_) reaches fun _ _ =>
    admitted_of_dispatches
  exact traced_self

/-- The first of two users is an administrator. -/
def twoUsers : Db where
  users :=
    { rows :=
        [{ id := 1, account := [49], nickname := [97], passwordHash := [], role := .admin,
           resetPwdFlag := 0, createdAt := [] },
         { id := 2, account := [50], nickname := [98], passwordHash := [], role := .user,
           resetPwdFlag := 0, createdAt := [] }]
      nextId := 3 }

/-- The second user is to become an administrator, if it is for the sender to say so. -/
def promotion (sender : ℤ) : Job :=
  .handle .updateUser
    { authorization := Bytes.ofString "Bearer t", params := [], pathId := none, body := [] }
    { verify := fun _ => some sender
      parse := fun _ => some <| .object
        [(Bytes.ofString "action", .string (Bytes.ofString "change_role")),
          (Bytes.ofString "user_id", .integer 2),
          (Bytes.ofString "role", .string (Bytes.ofString "admin"))]
      hashPassword := fun _ => none
      verifyPassword := fun _ _ => none
      generateAccount := fun _ => []
      generateTaskId := fun _ => []
      now := []
      reserve := .accepted
      commit := .accepted
      rejudging := false }

/-- The only thread of the server serves the request; none of its calls fails. -/
def promotionRun (sender : ℤ) (steps : ℕ) : List ServerLabel :=
  .start (promotion sender) :: List.replicate steps (.run 0 true)

theorem reaches_promotionRun {allowed : ServerState → ServerLabel → Prop} {sender : ℤ}
    {steps : ℕ} (starts : allowed (State.initial twoUsers) (.start (promotion sender)))
    (runs : ∀ state, allowed state (.run 0 true))
    (execution : (webServer dump).system.run (State.initial twoUsers)
      (promotionRun sender steps) = some state) :
    (webServer dump).system.Reaches allowed (State.initial twoUsers) state := by
  have admits : ∀ steps state, TransitionSystem.Admits (webServer dump).system allowed state
      (List.replicate steps (.run 0 true)) := by
    intro steps
    induction steps with
    | zero => exact fun _ => trivial
    | succ steps ih => exact fun state => ⟨runs state, fun next _ => ih next⟩
  apply TransitionSystem.reaches_of_run _ execution
  exact ⟨starts, fun next _ => admits steps next⟩

/-- The job is not one that an administrator asks for as such. -/
def Job.FromOutsider (base : Db) (job : Job) : Prop :=
  job.needsAdmin = true → ∀ actor, job.sender = some actor → actor ∉ base.users.admins

/-- No request to the routes of the administrators carries the token of an administrator. -/
def ByOutsiders (base : Db) (state : ServerState) (label : ServerLabel) : Prop :=
  Dispatches state label ∧ ∀ job, label = .start job → job.FromOutsider base

def OnlyOutsiders (base : Db) (births : Births) : Prop :=
  ∀ thread job, births thread = some job → job.FromOutsider base

theorem OnlyOutsiders.initial_of_trusted {births : Births} (outsiders : OnlyOutsiders base births)
    {id : ℤ} (trusted : Trusted base births id) : id ∈ base.users.admins := by
  induction trusted with
  | initial isAdmin => exact isAdmin
  | promoted born sent asks _ ih =>
      exact absurd ih (outsiders _ _ born (needsAdmin_of_changesRole asks) _ sent)

theorem OnlyOutsiders.not_askedFor {births : Births} (outsiders : OnlyOutsiders base births)
    {kind : Job → Prop} (needsAdmin : ∀ job, kind job → job.needsAdmin = true) :
    ¬AskedFor base births kind := by
  rintro ⟨thread, job, actor, born, sent, trusted, isKind⟩
  exact outsiders thread job born (needsAdmin job isKind) actor sent
    (outsiders.initial_of_trusted trusted)

theorem OnlyOutsiders.role_eq {births : Births} (outsiders : OnlyOutsiders base births)
    {row later : UserRecord} (accounted : Accounted base births row later) :
    later.role = row.role := by
  apply accounted.role.resolve_right
  exact outsiders.not_askedFor fun _ => needsAdmin_of_changesRole

/-- Without a request of an administrator there are the same administrators, problems and test
cases for ever, no stored submission changes, and passwords change only for their owners. -/
theorem outsiders_powerless {db : Db}
    (reaches : (webServer dump).system.Reaches (ByOutsiders db) (State.initial db) state) :
    (∀ id, id ∈ state.committed.users.admins ↔ id ∈ db.users.admins) ∧
      state.committed.problems = db.problems ∧ state.committed.testcases = db.testcases ∧
      (∀ row ∈ db.submissions.rows, row ∈ state.committed.submissions.rows) ∧
      ∀ row ∈ db.users.rows, ∃ later ∈ state.committed.users.rows,
        later.id = row.id ∧ later.role = row.role ∧
          (later.passwordHash = row.passwordHash ∧ later.resetPwdFlag = row.resetPwdFlag ∨
            later.resetPwdFlag = 0 ∧ ∃ thread job, state.births thread = some job ∧
              job.changesPassword row.id later.passwordHash) := by
  have outsiders : OnlyOutsiders db state.births :=
    births_of_reaches reaches nofun fun _ job isAllowed => isAllowed.2 job rfl
  have traced : Traced db state.births state.committed :=
    (authority_of_reaches (reaches.weaken fun _ _ isAllowed => isAllowed.1)).committed
  have edited := traced.problems.untouched.resolve_right fun ⟨_, asked⟩ =>
    outsiders.not_askedFor (fun _ => needsAdmin_of_mayEdit) asked
  refine ⟨fun id => ⟨?_, ?_⟩, edited.1, edited.2, ?_, ?_⟩
  · exact fun isAdmin => outsiders.initial_of_trusted (traced.admins id isAdmin)
  · intro isAdmin
    rcases UserTable.mem_admins.mp isAdmin with ⟨row, mem, hasRole, rfl⟩
    rcases traced.users row mem with ⟨later, laterMem, accounted⟩
    exact UserTable.mem_admins.mpr
      ⟨later, laterMem, (outsiders.role_eq accounted).trans hasRole, accounted.same.1⟩
  · intro row mem
    apply (traced.submissions row mem).resolve_right
    exact outsiders.not_askedFor fun _ => needsAdmin_of_rejudges
  · intro row mem
    rcases traced.users row mem with ⟨later, laterMem, accounted⟩
    refine ⟨later, laterMem, accounted.same.1, outsiders.role_eq accounted, ?_⟩
    rcases accounted.password with same | own | ⟨-, asked⟩
    · exact .inl same
    · exact .inr own
    · exact absurd asked (outsiders.not_askedFor fun _ => needsAdmin_of_resetsPassword)

theorem outsiders_powerless_promotion :
    ∃ state : ServerState, ∃ thread, state.threads 0 = some thread ∧
      thread.events = [.responded (sendError 403 (Bytes.ofString "权限不足"))] ∧
      ∀ id, id ∈ state.committed.users.admins ↔ id ∈ twoUsers.users.admins := by
  have refused : (((webServer fun _ => none).system.run (State.initial twoUsers)
      (promotionRun 2 2)).map fun state => (state.threads 0).map (·.events)) =
        some (some [.responded (sendError 403 (Bytes.ofString "权限不足"))]) := by
    rfl
  rcases Option.map_eq_some_iff.mp refused with ⟨state, execution, served⟩
  rcases Option.map_eq_some_iff.mp served with ⟨thread, there, events⟩
  refine ⟨state, thread, there, events, (outsiders_powerless (reaches_promotionRun ?_ ?_
    execution)).1⟩
  · refine ⟨trivial, ?_⟩
    rintro job ⟨⟩ - actor sent
    have isSecond : (promotion 2).sender = some 2 := by decide +kernel
    cases isSecond.symm.trans sent
    decide
  · exact fun state => ⟨trivial, nofun⟩

end Runs

end Http

end OnlineJudge
