import OnlineJudge.Auth.Context
import OnlineJudge.Db.Leaderboard
import OnlineJudge.Service.Validation

/-!
# The public endpoints

The handlers of `http/server.cpp` that any visitor may call: the list of problems, their
tags, one problem, and the leaderboard; and the part of `handle_submit` that comes before
the database is written to. A response is kept as the document that is serialised.
-/

namespace OnlineJudge

namespace Http

open Db Auth Service Problem

/-- The reads of the database that the handlers make. A handler makes each at most once. -/
inductive DbCall where
  | findUser
  | queryProblems
  | listTags
  | findProblem
  | listSamples
  | viewerSolved
  | queryLeaderboard
  deriving DecidableEq, Repr

/-- What the handlers depend on besides the request and the database. -/
structure Backend where
  /-- `JwtService::verify`, which needs the secret and the time. -/
  verify : Bytes → Option ℤ
  /-- `nlohmann::json::parse`. -/
  parse : Bytes → Option Json
  /-- The calls that report an error of the database. -/
  fails : DbCall → Bool

structure Request where
  /-- The header `Authorization`, empty when there is none. -/
  authorization : Bytes
  params : List (Bytes × Bytes)
  /-- The path segment that the route matches. -/
  pathId : Option Bytes
  body : Bytes

/-- `get_param_value`, empty for a missing parameter. -/
def Request.param (request : Request) (name : String) : Bytes :=
  ((request.params.find? (·.1 = Bytes.ofString name)).map (·.2)).getD []

structure Response where
  status : ℕ
  body : Json

def jsonObject (members : List (String × Json)) : Json :=
  .object (members.map fun member => (Bytes.ofString member.1, member.2))

def sendError (status : ℕ) (message : Bytes) : Response where
  status := status
  body := jsonObject [("error", .string message)]

def internalError : Response := sendError 500 (Bytes.ofString "内部错误")

def illegalProblemId : Response := sendError 400 (Bytes.ofString "非法题目 ID")

def noSuchProblem : Response := sendError 404 (Bytes.ofString "题目不存在")

/-- `send_password_change_required`. -/
def passwordChangeRequired : Response where
  status := 403
  body := jsonObject
    [("error", .string (Bytes.ofString "请先修改密码")),
      ("code", .string (Bytes.ofString "PASSWORD_CHANGE_REQUIRED"))]

/-- A read of the database, `none` when it reports an error. -/
def Backend.read {α : Type} (backend : Backend) (call : DbCall) (answer : α) : Option α :=
  if backend.fails call then none else some answer

/-- The user that a token stands for, or the refusal. -/
def requireUser (backend : Backend) (db : Db) (request : Request) : Except Response AuthUser :=
  match extractBearerToken request.authorization with
  | none => .error (sendError 401 (Bytes.ofString "未提供有效的认证信息"))
  | some token =>
      match authenticateRequest backend.verify
        (fun id => backend.read .findUser (db.findUser id)) token with
      | .ok user => .ok user
      | .unauthorized => .error (sendError 401 (Bytes.ofString "认证失败"))
      | .internalError => .error internalError

structure ProblemViewer where
  authenticated : Bool := false
  isAdmin : Bool := false
  userId : ℤ := 0
  deriving DecidableEq, Repr

/-- `resolve_viewer`: a request without the header comes from a guest. -/
def resolveViewer (backend : Backend) (db : Db) (request : Request) :
    Except Response ProblemViewer :=
  if request.authorization = [] then .ok {}
  else
    match requireUser backend db request with
    | .error response => .error response
    | .ok user =>
        .ok { authenticated := true, isAdmin := checkAdmin user = .ok, userId := user.id }

/-- `parse_problem_id`: at most nineteen digits that write a positive number of 64 bits. -/
def parseProblemId (text : Bytes) : Option ℤ :=
  if text = [] ∨ 19 < text.length then none
  else if text.any fun byte => byte < 48 || 57 < byte then none
  else if 9223372036854775807 < decimalValue text ∨ decimalValue text ≤ 0 then none
  else some (decimalValue text)

section List

/-- The member that only a known visitor gets. -/
def solvedMember (viewerAuthenticated solved : Bool) : List (String × Json) :=
  if viewerAuthenticated then [("solved", .bool solved)] else []

def problemSummaryJson (problem : ProblemSummary) (viewerAuthenticated : Bool) : Json :=
  jsonObject
    ([("id", .integer problem.id), ("title", .string problem.title),
      ("difficulty", .string problem.difficulty.text),
      ("tags", .array (problem.tags.map .string)), ("visible", .bool problem.visible),
      ("pass_count", .integer problem.passCount)] ++
      solvedMember viewerAuthenticated problem.solved)

/-- The number of pages, `0` for an empty list. -/
def totalPages (total : ℕ) (pageSize : ℤ) : ℤ :=
  if total = 0 then 0 else (total + pageSize - 1) / pageSize

/-- Only an administrator's `visible` parameter counts. -/
def listVisibility (viewer : ProblemViewer) (filter : VisibleFilter) : ProblemVisibility :=
  if !viewer.isAdmin then .visibleOnly
  else
    match filter with
    | .onlyVisible => .visibleOnly
    | .onlyHidden => .hiddenOnly
    | .all => .all

def handleProblemList (backend : Backend) (db : Db) (request : Request) : Response :=
  match resolveViewer backend db request with
  | .error response => response
  | .ok viewer =>
      match parseListQuery
        { q := request.param "q"
          difficulty := request.param "difficulty"
          tag := request.param "tag"
          page := request.param "page"
          visible := request.param "visible" } with
      | .error message => sendError 400 message
      | .ok filter =>
          match (backend.read .queryProblems <| queryProblems db
            { visibility := listVisibility viewer filter.visible
              keyword := filter.keyword
              difficulty := filter.difficulty
              tag := filter.tag
              viewerUserId := if viewer.authenticated then viewer.userId else 0
              page := filter.page
              pageSize := filter.pageSize }).join with
          | none => internalError
          | some result =>
              { status := 200
                body := jsonObject
                  [("problems", .array (result.items.map fun problem =>
                      problemSummaryJson problem viewer.authenticated)),
                    ("page", .integer filter.page), ("page_size", .integer filter.pageSize),
                    ("total", .integer result.total),
                    ("total_pages", .integer (totalPages result.total filter.pageSize))] }

end List

def handleProblemTags (backend : Backend) (db : Db) (request : Request) : Response :=
  match resolveViewer backend db request with
  | .error response => response
  | .ok viewer =>
      match backend.read .listTags (listTags db viewer.isAdmin) with
      | none => internalError
      | some tags =>
          { status := 200
            body := jsonObject [("tags", .array (tags.map .string))] }

section Detail

def problemDetailJson (problem : ProblemRecord) (samples : List SampleCase)
    (viewerAuthenticated solved : Bool) : Json :=
  jsonObject
    ([("id", .integer problem.id), ("title", .string problem.title),
      ("description", .string problem.description),
      ("difficulty", .string problem.difficulty.text),
      ("tags", .array (problem.tags.map .string)),
      ("time_limit_ms", .integer problem.timeLimitMs),
      ("memory_limit_kb", .integer problem.memoryLimitKb), ("visible", .bool problem.visible)] ++
      solvedMember viewerAuthenticated solved ++
      [("samples", .array (samples.map fun sample =>
        jsonObject [("input", .string sample.input), ("output", .string sample.output)]))])

/-- The problem with an identifier, for one who may see it: a hidden problem is answered like a
missing one. -/
def findForViewer (backend : Backend) (db : Db) (id : ℤ) (isAdmin : Bool) :
    Except Response ProblemRecord :=
  match backend.read .findProblem (db.findProblem id) with
  | none => .error internalError
  | some none => .error noSuchProblem
  | some (some problem) =>
      if !problem.visible && !isAdmin then .error noSuchProblem else .ok problem

/-- The status of a problem for a known visitor: `viewer_solved`, which asks the database about
positive identifiers only. -/
def solvedForViewer (backend : Backend) (db : Db) (viewer : ProblemViewer) (id : ℤ) :
    Option Bool :=
  if viewer.authenticated ∧ 0 < viewer.userId then
    backend.read .viewerSolved (solvedBy db viewer.userId id)
  else some false

def handleProblemDetail (backend : Backend) (db : Db) (request : Request) : Response :=
  match request.pathId.bind parseProblemId with
  | none => illegalProblemId
  | some id =>
      match resolveViewer backend db request with
      | .error response => response
      | .ok viewer =>
          match findForViewer backend db id viewer.isAdmin with
          | .error response => response
          | .ok problem =>
              match backend.read .listSamples (listSamples db id) with
              | none => internalError
              | some samples =>
                  match solvedForViewer backend db viewer id with
                  | none => internalError
                  | some solved =>
                      { status := 200
                        body :=
                          problemDetailJson problem samples viewer.authenticated solved }

end Detail

section Submit

def parseSubmissionLanguage (text : Bytes) : Option Bytes :=
  let lowered := text.map Bytes.toLower
  if lowered = Bytes.ofString "cpp17" then some (Bytes.ofString "cpp17")
  else if lowered = Bytes.ofString "c11" then some (Bytes.ofString "c11")
  else none

def requireString (members : List (Bytes × Json)) (name : String) : Except Response Bytes :=
  match Json.member members name with
  | some (.string text) => .ok text
  | _ =>
      .error (sendError 400 (Bytes.ofString "缺少字段或类型错误：" ++ Bytes.ofString name ++
        Bytes.ofString " 须为字符串"))

def parseSubmission (backend : Backend) (request : Request) : Except Response (Bytes × Bytes) :=
  match backend.parse request.body with
  | none => .error (sendError 400 (Bytes.ofString "请求体不是合法的 JSON"))
  | some (.object members) => do
      let language ← requireString members "language"
      let code ← requireString members "code"
      match parseSubmissionLanguage language with
      | none =>
          .error (sendError 400
            (Bytes.ofString "不支持的语言：仅支持 cpp17（C++17）与 c11（C11）"))
      | some canonical =>
          match validateSourceCode code with
          | .error message => .error (sendError 400 message)
          | .ok () => .ok (canonical, code)
  | some _ => .error (sendError 400 notAnObject)

/-- A submission that passes every check before its capacity is reserved. -/
structure CheckedSubmission where
  userId : ℤ
  problemId : ℤ
  language : Bytes
  sourceCode : Bytes
  deriving DecidableEq, Repr

/-- `handle_submit` up to the first effect: the checked submission, or the refusal. -/
def checkSubmit (backend : Backend) (db : Db) (request : Request) :
    Except Response CheckedSubmission :=
  match request.pathId.bind parseProblemId with
  | none => .error illegalProblemId
  | some problemId => do
      let user ← requireUser backend db request
      if requiresPasswordChange user then .error passwordChangeRequired
      else do
        let submission ← parseSubmission backend request
        let _ ← findForViewer backend db problemId (checkAdmin user = .ok)
        return {
          userId := user.id
          problemId := problemId
          language := submission.1
          sourceCode := submission.2 }

end Submit

section Leaderboard

def leaderboardEntryJson (rank : ℤ) (entry : LeaderboardEntry) : Json :=
  jsonObject
    [("rank", .integer rank), ("user_id", .integer entry.userId),
      ("nickname", .string entry.nickname), ("ac_count", .integer entry.acCount),
      ("submit_count", .integer entry.submitCount),
      ("first_ac_at",
        match entry.firstAcAt with
        | some time => .string time
        | none => .null),
      ("created_at", .string entry.createdAt)]

def handleLeaderboard (backend : Backend) (db : Db) (request : Request) : Response :=
  match UserAdmin.parsePage (request.param "page") with
  | .error message => sendError 400 message
  | .ok page =>
      match (backend.read .queryLeaderboard
        (queryLeaderboard db page UserAdmin.userPageSize)).join with
      | none => internalError
      | some result =>
          { status := 200
            body := jsonObject
              [("leaderboard", .array (result.items.mapIdx fun index entry =>
                  leaderboardEntryJson ((page - 1) * UserAdmin.userPageSize + index + 1) entry)),
                ("page", .integer page), ("page_size", .integer UserAdmin.userPageSize),
                ("total", .integer result.total),
                ("total_pages",
                  .integer (totalPages result.total UserAdmin.userPageSize))] }

end Leaderboard

end Http

end OnlineJudge
