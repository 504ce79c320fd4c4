import OnlineJudge.Http.Problems
import OnlineJudge.Http.Rejudges
import OnlineJudge.Library.Clearance
import OnlineJudge.Problem.Validation
import OnlineJudge.Service.Calls

/-!
# The handlers that write

The handlers of `http/server.cpp` that can change the database, as programs over the
shared connection: who sends the request, whether he may, whether the request is well
formed, and then one call of a service. A judging is handed to the scheduler, whose
workers run it later in threads of their own; the handler's wait for the result and the
response that is composed of it are left out.
-/

namespace OnlineJudge

namespace Http

open Db Auth Service Problem Library Judge

/-- What leaves a handler: its response, or a task for the scheduler. -/
inductive Answer where
  | responded (response : Response)
  | enqueued (task : SubmissionTask)

abbrev HandlerProgram := Library.Program Reply Answer

def respond (response : Response) : HandlerProgram := .emit (.responded response) .done

/-- A service is called, and its outcome is the response. -/
def respondWith (response : Event → Response) (program : Service.Program) : HandlerProgram :=
  program.call (fun event => .responded (response event)) fun event => respond (response event)

/-- What a handler gets from outside the database while it serves one request. -/
structure Surroundings where
  verify : Bytes → Option ℤ
  parse : Bytes → Option Json
  hashPassword : (password : Bytes) → Option Bytes
  verifyPassword : (encoded password : Bytes) → Option Bool
  generateAccount : ℕ → Bytes
  generateTaskId : ℕ → TaskId
  now : Bytes
  /-- The answers of the scheduler to `reserve` or `submit`, and to `commit`. -/
  reserve : JudgeManager.EnqueueStatus
  commit : JudgeManager.EnqueueStatus
  /-- The submission is in `rejudge_in_flight_`. -/
  rejudging : Bool

/-- The parsers do not ask the database. -/
def Surroundings.backend (outside : Surroundings) : Backend where
  verify := outside.verify
  parse := outside.parse
  fails := fun _ => false

def unauthenticated : Response := sendError 401 (Bytes.ofString "认证失败")

section Senders

variable (outside : Surroundings) (request : Request)

/-- The user whose token the request carries. -/
def sender : Option ℤ := (extractBearerToken request.authorization).bind outside.verify

/-- `require_login`. -/
def requireLogin (next : AuthUser → HandlerProgram) : HandlerProgram :=
  match extractBearerToken request.authorization with
  | none => respond (sendError 401 (Bytes.ofString "未提供有效的认证信息"))
  | some token =>
      match outside.verify token with
      | none => respond unauthenticated
      | some userId =>
          .exec (.users (.findById userId)) fun answer =>
            match authenticateRequest outside.verify (fun _ => answer) token with
            | .ok user => next user
            | .unauthorized => respond unauthenticated
            | .internalError => respond internalError

/-- `require_admin`, with `enforce_admin`. -/
def requireAdmin (next : AuthUser → HandlerProgram) : HandlerProgram :=
  requireLogin outside request fun user =>
    match checkAdmin user with
    | .ok => next user
    | .notAdmin => respond (sendError 403 (Bytes.ofString "权限不足"))
    | .passwordChangeRequired => respond passwordChangeRequired

/-- The body as a document, and what a parser makes of it. -/
def withBody {α : Type} (parser : Json → Except Bytes α) (next : α → HandlerProgram) :
    HandlerProgram :=
  match outside.parse request.body with
  | none => respond (sendError 400 (Bytes.ofString "请求体不是合法的 JSON"))
  | some body =>
      match parser body with
      | .error message => respond (sendError 400 message)
      | .ok parsed => next parsed

/-- The identifier in the path. -/
def withPathId (illegal : Response) (next : ℤ → HandlerProgram) : HandlerProgram :=
  match request.pathId.bind parseProblemId with
  | none => respond illegal
  | some id => next id

end Senders

section Users

def nicknameMaxLen : ℕ := 30

def passwordMaxLen : ℕ := 128

def validateNickname (input : Bytes) : Except Bytes Bytes :=
  let normalized := Bytes.trim input
  if normalized = [] then .error (Bytes.ofString "昵称不能为空")
  else if nicknameMaxLen < normalized.length then
    .error (Bytes.ofString "昵称过长（最多 " ++ Bytes.ofInt nicknameMaxLen ++
      Bytes.ofString " 个字符）")
  else .ok normalized

def validatePassword (password : Bytes) : Except Bytes Unit :=
  if password = [] then .error (Bytes.ofString "密码不能为空")
  else if passwordMaxLen < password.length then
    .error (Bytes.ofString "密码过长（最多 " ++ Bytes.ofInt passwordMaxLen ++
      Bytes.ofString " 个字符）")
  else .ok ()

def validatePasswordChange (oldPassword newPassword : Bytes) : Except Bytes Unit :=
  match validatePassword newPassword with
  | .error message => .error message
  | .ok () =>
      if newPassword = oldPassword then .error (Bytes.ofString "新密码不能与旧密码相同")
      else .ok ()

/-- A field that must be there and be a string. -/
def requireStringField (members : List (Bytes × Json)) (field : String) : Except Bytes Bytes :=
  match Json.member members field with
  | some (.string text) => .ok text
  | _ =>
      .error (Bytes.ofString "缺少字段或类型错误：" ++ Bytes.ofString field ++
        Bytes.ofString " 须为字符串")

/-- The nickname and the password of a registration. -/
def parseRegisterBody : Json → Except Bytes (Bytes × Bytes)
  | .object members => do
      let nickname ← requireStringField members "nickname"
      let password ← requireStringField members "password"
      return (nickname, password)
  | _ => .error notAnObject

def parsePasswordChangeBody : Json → Except Bytes (Bytes × Bytes)
  | .object members => do
      let oldPassword ← requireStringField members "old_password"
      let newPassword ← requireStringField members "new_password"
      if oldPassword = [] ∨ newPassword = [] then
        .error (Bytes.ofString "old_password 与 new_password 不能为空")
      else return (oldPassword, newPassword)
  | _ => .error notAnObject

/-- `useradmin::Request`. -/
inductive UserAction where
  | resetPassword (userId : ℤ) (newPassword : Bytes)
  | changeRole (userId : ℤ) (role : Role)
  deriving DecidableEq

def roleText : Role → Bytes
  | .admin => Bytes.ofString "admin"
  | .user => Bytes.ofString "user"

/-- `useradmin::parse_user_id`. -/
def parseUserId (members : List (Bytes × Json)) : Except Bytes ℤ :=
  match Json.member members "user_id" with
  | some (.integer userId) =>
      if userId ≤ 0 ∨ longLongMax < userId then .error badUserId else .ok userId
  | _ => .error badUserId
where
  badUserId : Bytes := Bytes.ofString "缺少字段或类型错误：user_id 须为正整数"
  longLongMax : ℤ := 9223372036854775807

/-- `useradmin::parse_request`. -/
def parseUserAction : Json → Except Bytes UserAction
  | .object members => do
      let action ← requireStringField members "action"
      if action = Bytes.ofString "reset_password" then
        let userId ← parseUserId members
        let newPassword ← requireStringField members "new_password"
        match validatePassword newPassword with
        | .error message => .error (Bytes.ofString "new_password 非法：" ++ message)
        | .ok () => return .resetPassword userId newPassword
      else if action = Bytes.ofString "change_role" then
        let userId ← parseUserId members
        let role ← requireStringField members "role"
        if role = roleText .admin then return .changeRole userId .admin
        else if role = roleText .user then return .changeRole userId .user
        else .error (Bytes.ofString "role 取值非法：仅支持 admin/user")
      else .error (Bytes.ofString "未知操作：action 仅支持 reset_password / change_role")
  | _ => .error notAnObject

def registeredResponse : Event → Response
  | .registered (.success user) =>
      { status := 201
        body := jsonObject
          [("account", .string user.account), ("nickname", .string user.nickname),
            ("role", .string (roleText user.role)), ("id", .integer user.id)] }
  | .registered (.invalidNickname message) => sendError 400 message
  | .registered (.invalidPassword message) => sendError 400 message
  | .registered .nicknameTaken => sendError 409 (Bytes.ofString "昵称已被使用")
  | _ => internalError

/-- `max_account_attempts`. -/
def maxAccountAttempts : ℕ := 5

def handleRegister (writer : SharedConnection.ThreadId) (outside : Surroundings)
    (request : Request) : HandlerProgram :=
  withBody outside request parseRegisterBody fun (nickname, password) =>
    respondWith registeredResponse <|
      registerUser writer
        { nickname := validateNickname nickname
          passwordError := match validatePassword password with
            | .error message => some message
            | .ok () => none
          hash := outside.hashPassword password
          generated := outside.generateAccount
          maxAccountAttempts := maxAccountAttempts
          now := outside.now }

def okBody : Json := jsonObject [("status", .string (Bytes.ofString "ok"))]

def passwordChangedResponse : Event → Response
  | .passwordChanged .success => { status := 200, body := okBody }
  | .passwordChanged .invalidOldPassword => sendError 401 (Bytes.ofString "旧密码错误")
  | .passwordChanged .userNotFound => unauthenticated
  | _ => internalError

/-- Whose password it is comes from the token; the body cannot name another user. -/
def handleChangePassword (writer : SharedConnection.ThreadId) (outside : Surroundings)
    (request : Request) : HandlerProgram :=
  requireLogin outside request fun user =>
    withBody outside request parsePasswordChangeBody fun (oldPassword, newPassword) =>
      match validatePasswordChange oldPassword newPassword with
      | .error message => respond (sendError 400 message)
      | .ok () =>
          respondWith passwordChangedResponse <|
            changePassword writer
              { userId := user.id
                newHash := outside.hashPassword newPassword
                verifies := fun encoded => outside.verifyPassword encoded oldPassword }

def noSuchUser : Response := sendError 404 (Bytes.ofString "用户不存在")

def passwordResetResponse (userId : ℤ) : Event → Response
  | .passwordReset .updated =>
      { status := 200
        body := jsonObject
          [("user_id", .integer userId), ("status", .string (Bytes.ofString "ok"))] }
  | .passwordReset .notFound => noSuchUser
  | _ => internalError

def roleChangedResponse (userId : ℤ) (role : Role) : Event → Response
  | .roleChanged .updated =>
      { status := 200
        body := jsonObject
          [("user_id", .integer userId), ("role", .string (roleText role)),
            ("status", .string (Bytes.ofString "ok"))] }
  | .roleChanged .notFound => noSuchUser
  | .roleChanged .lastAdmin =>
      sendError 409 (Bytes.ofString "不能取消最后一个管理员的权限")
  | _ => internalError

def handleAdminUpdateUser (writer : SharedConnection.ThreadId) (outside : Surroundings)
    (request : Request) : HandlerProgram :=
  requireAdmin outside request fun _ =>
    withBody outside request parseUserAction fun
      | .resetPassword userId newPassword =>
          match outside.hashPassword newPassword with
          | none => respond internalError
          | some newHash =>
              respondWith (passwordResetResponse userId) (resetPassword writer userId newHash)
      | .changeRole userId role =>
          respondWith (roleChangedResponse userId role) (changeRole writer userId role)

end Users

section Problems

def createdResponse : Event → Response
  | .problemCreated (some id) => { status := 201, body := jsonObject [("id", .integer id)] }
  | _ => internalError

def handleAdminCreateProblem (outside : Surroundings) (request : Request) : HandlerProgram :=
  requireAdmin outside request fun _ =>
    withBody outside request parseCreateProblem fun data =>
      respondWith createdResponse (createProblem data outside.now)

def updatedResponse (id : ℤ) : Event → Response
  | .problemUpdated .updated =>
      { status := 200
        body := jsonObject [("id", .integer id), ("status", .string (Bytes.ofString "ok"))] }
  | .problemUpdated .notFound => noSuchProblem
  | _ => internalError

def handleAdminUpdateProblem (outside : Surroundings) (request : Request) : HandlerProgram :=
  requireAdmin outside request fun _ =>
    withPathId request illegalProblemId fun id =>
      withBody outside request parseUpdateProblem fun patch =>
        respondWith (updatedResponse id) (updateProblem id patch outside.now)

def removedResponse : Event → Response
  | .problemRemoved .deleted => { status := 200, body := okBody }
  | .problemRemoved .notFound => noSuchProblem
  | .problemRemoved .hasSubmissions =>
      sendError 409 (Bytes.ofString "题目已有提交记录或正在判题的任务，无法删除")
  | _ => internalError

def handleAdminDeleteProblem (outside : Surroundings) (request : Request) : HandlerProgram :=
  requireAdmin outside request fun _ =>
    withPathId request illegalProblemId fun id => respondWith removedResponse (removeProblem id)

def testcaseCreatedResponse (problemId : ℤ) : Event → Response
  | .testcaseCreated (.created id ord) =>
      { status := 201
        body := jsonObject
          [("id", .integer id), ("problem_id", .integer problemId), ("ord", .integer ord)] }
  | .testcaseCreated .problemNotFound => noSuchProblem
  | .testcaseCreated .ordExhausted =>
      sendError 409 (Bytes.ofString "自动分配 ord 已达上限，请显式指定 ord")
  | _ => internalError

def handleAdminCreateTestcase (outside : Surroundings) (request : Request) : HandlerProgram :=
  requireAdmin outside request fun _ =>
    withPathId request illegalProblemId fun problemId =>
      withBody outside request parseCreateTestcase fun data =>
        respondWith (testcaseCreatedResponse problemId) (createTestcase problemId data)

/-- The identifiers of a problem and of one of its test cases. -/
def withTestcaseId (request : Request) (segment : Option Bytes) (next : ℤ → ℤ → HandlerProgram) :
    HandlerProgram :=
  match segment with
  | none => respond illegalProblemId
  | some segment =>
      withPathId request illegalProblemId fun problemId =>
        match parseProblemId segment with
        | none => respond (sendError 400 (Bytes.ofString "非法用例 ID"))
        | some testcaseId => next problemId testcaseId

def noSuchTestcase : Response := sendError 404 (Bytes.ofString "用例不存在")

def testcaseUpdatedResponse (problemId testcaseId : ℤ) : Event → Response
  | .testcaseUpdated .updated ord =>
      { status := 200
        body := jsonObject
          [("id", .integer testcaseId), ("problem_id", .integer problemId),
            ("ord", .integer ord), ("status", .string (Bytes.ofString "ok"))] }
  | .testcaseUpdated .notFound _ => noSuchTestcase
  | _ => internalError

def handleAdminUpdateTestcase (outside : Surroundings) (request : Request)
    (segment : Option Bytes) : HandlerProgram :=
  requireAdmin outside request fun _ =>
    withTestcaseId request segment fun problemId testcaseId =>
      withBody outside request parseUpdateTestcase fun patch =>
        respondWith (testcaseUpdatedResponse problemId testcaseId)
          (updateTestcase problemId testcaseId patch)

def testcaseRemovedResponse : Event → Response
  | .testcaseRemoved .deleted => { status := 200, body := okBody }
  | .testcaseRemoved .notFound => noSuchTestcase
  | _ => internalError

def handleAdminDeleteTestcase (outside : Surroundings) (request : Request)
    (segment : Option Bytes) : HandlerProgram :=
  requireAdmin outside request fun _ =>
    withTestcaseId request segment fun problemId testcaseId =>
      respondWith testcaseRemovedResponse (removeTestcase problemId testcaseId)

end Problems

section Judging

/-- `send_judge_queue_full`; the header `Retry-After` is left out. -/
def judgeQueueFull : Response where
  status := 503
  body := jsonObject
    [("error", .string (Bytes.ofString "判题队列已满，请稍后重试")),
      ("code", .string (Bytes.ofString "JUDGE_QUEUE_FULL")), ("retryable", .bool true)]

def judgeUnavailable : Response where
  status := 503
  body := jsonObject
    [("error", .string (Bytes.ofString "判题服务暂时不可用")),
      ("code", .string (Bytes.ofString "JUDGE_UNAVAILABLE")), ("retryable", .bool true)]

def rejudgeInProgress : Response where
  status := 409
  body := jsonObject
    [("error", .string (Bytes.ofString "该提交正在重判中")),
      ("code", .string (Bytes.ofString "REJUDGE_IN_PROGRESS"))]

/-- The scheduler is asked for room; it has some, or the request is refused. -/
def withRoom (status : JudgeManager.EnqueueStatus) (next : HandlerProgram) : HandlerProgram :=
  match status with
  | .accepted => next
  | .queueFull => respond judgeQueueFull
  | .stopped => respond judgeUnavailable

/-- The task of a submission is handed over. A refusal gives up what was written down. -/
def commitTask (outside : Surroundings) (task : SubmissionTask) : HandlerProgram :=
  match outside.commit with
  | .accepted => .emit (.enqueued task) .done
  | _ => respondWith (fun _ => judgeUnavailable) (discardInFlight task.inFlightTaskId)

/-- The in-flight task is written down before it is handed over. -/
def persistTask (outside : Surroundings) (user : AuthUser) (problemId : ℤ)
    (language sourceCode : Bytes) (isAdmin : Bool) : HandlerProgram :=
  let request : PersistRequest :=
    { userId := user.id
      problemId := problemId
      language := language
      sourceCode := sourceCode
      submittedAt := outside.now
      generated := outside.generateTaskId }
  (persistInFlight request outside.now).call (fun _ => .responded internalError) fun
    | .persisted .ok taskId _ =>
        commitTask outside
          { userId := user.id
            problemId := problemId
            language := language
            sourceCode := sourceCode
            viewerIsAdmin := isAdmin
            submittedAt := outside.now
            inFlightTaskId := taskId }
    | .persisted .problemNotFound _ _ => respond noSuchProblem
    | _ => respond internalError

def handleSubmit (outside : Surroundings) (request : Request) : HandlerProgram :=
  withPathId request illegalProblemId fun problemId =>
    requireLogin outside request fun user =>
      if requiresPasswordChange user then respond passwordChangeRequired
      else
        match parseSubmission outside.backend request with
        | .error response => respond response
        | .ok (language, sourceCode) =>
            .exec (.problems (.findById problemId)) fun
              | none => respond internalError
              | some none => respond noSuchProblem
              | some (some problem) =>
                  if problem.visible = false ∧ checkAdmin user ≠ .ok then respond noSuchProblem
                  else
                    withRoom outside.reserve <|
                      persistTask outside user problemId language sourceCode
                        (checkAdmin user = .ok)

def illegalSubmissionId : Response := sendError 400 (Bytes.ofString "非法提交 ID")

def handleAdminRejudge (outside : Surroundings) (request : Request) : HandlerProgram :=
  requireAdmin outside request fun _ =>
    withPathId request illegalSubmissionId fun submissionId =>
      .exec (.submissions (.findById submissionId)) fun
        | none => respond internalError
        | some none => respond (sendError 404 (Bytes.ofString "提交记录不存在"))
        | some (some record) =>
            if outside.rejudging then respond rejudgeInProgress
            else
              withRoom outside.reserve <|
                .emit (.enqueued (Rejudges.rejudgeTask submissionId record outside.now)) .done

end Judging

/-- The routes whose handlers write. -/
inductive Endpoint where
  | register
  | changePassword
  | submit
  | createProblem
  | updateProblem
  | deleteProblem
  | createTestcase
  /-- The second segment of the path names the test case. -/
  | updateTestcase (segment : Option Bytes)
  | deleteTestcase (segment : Option Bytes)
  | updateUser
  | rejudge

/-- What a thread of the server does. -/
inductive Job where
  | handle (endpoint : Endpoint) (request : Request) (outside : Surroundings)
  /-- A worker of the scheduler runs a task. -/
  | work (task : SubmissionTask) (judge : JudgeTask → JudgeResult) (now : Bytes)
  /-- The tasks of an earlier process are handed over at the start. -/
  | recover (options : RecoveryOptions) (instanceId : Bytes) (turns : List RecoveryTurn)

/-- What the services of the background tell the rest of the server. -/
def backgroundAnswer : Event → Answer
  | .handedOver _ task => .enqueued task
  | _ => .responded internalError

/-- A background thread has nobody to answer to. -/
def inBackground (program : Service.Program) : HandlerProgram :=
  program.call backgroundAnswer fun _ => .done

def Endpoint.handler (id : SharedConnection.ThreadId) (outside : Surroundings)
    (request : Request) : Endpoint → HandlerProgram
  | .register => handleRegister id outside request
  | .changePassword => handleChangePassword id outside request
  | .submit => handleSubmit outside request
  | .createProblem => handleAdminCreateProblem outside request
  | .updateProblem => handleAdminUpdateProblem outside request
  | .deleteProblem => handleAdminDeleteProblem outside request
  | .createTestcase => handleAdminCreateTestcase outside request
  | .updateTestcase segment => handleAdminUpdateTestcase outside request segment
  | .deleteTestcase segment => handleAdminDeleteTestcase outside request segment
  | .updateUser => handleAdminUpdateUser id outside request
  | .rejudge => handleAdminRejudge outside request

def Job.body (dump : Dump) (id : SharedConnection.ThreadId) : Job → HandlerProgram
  | .handle endpoint request outside => endpoint.handler id outside request
  | .work task judge now => inBackground (Service.handle dump judge now task)
  | .recover options instanceId turns => inBackground (recoveryRun options instanceId turns)

/-- The server: its handlers, the workers of its scheduler, and the recovery at its start. -/
def webServer (dump : Dump) : SharedConnection.Service Db Reply Answer Job where
  execute := execute
  body := Job.body dump

abbrev ServerState := SharedConnection.State Db Reply Answer Job

abbrev ServerLabel := SharedConnection.Label Job

/-- A worker runs only tasks that were handed to the scheduler. -/
def Dispatches (state : ServerState) : ServerLabel → Prop
  | .start (.work task _ _) =>
      ∃ id thread, state.threads id = some thread ∧ Answer.enqueued task ∈ thread.events
  | _ => True

end Http

end OnlineJudge
