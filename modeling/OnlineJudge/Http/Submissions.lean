import OnlineJudge.Db.History
import OnlineJudge.Http.Ranking

/-!
# A user's own submissions

The handlers of `http/server.cpp` for the history, a single submission and the statuses. The
user comes from the token only: what the three answer to a user who is not an administrator
depends on nothing that other users have submitted, and a submission of somebody else is
answered like one that does not exist. Each read may see other contents of the database. The
pages of the history are the parts of one list, which has each submission of the user once.
-/

namespace OnlineJudge

namespace Http

open Db Auth Service Judge Library Library.SharedConnection

/-- The reads that these handlers make. -/
inductive OwnRead where
  | user
  | countHistory
  | listHistory
  | submission
  | problem
  | statuses
  deriving DecidableEq, Repr

structure OwnBackend extends Backend where
  ownFails : OwnRead → Bool

def OwnBackend.answer {α : Type} (backend : OwnBackend) (read : OwnRead) (answer : α) : Option α :=
  if backend.ownFails read then none else some answer

/-- `has_param`. -/
def Request.hasParam (request : Request) (name : String) : Bool :=
  request.params.any fun param => param.1 = Bytes.ofString name

section Handlers

/-- `require_login`. -/
def ownUser (backend : OwnBackend) (contents : OwnRead → Db) (request : Request) :
    Except Response AuthUser :=
  requireUser backend.toBackend (contents .user) request

def submissionPageSize : ℤ := 20

/-- `is_truthy_mine`. -/
def isTruthyMine (text : Bytes) : Bool :=
  let value := (Bytes.trim text).map Bytes.toLower
  value = [] || value = Bytes.ofString "1" || value = Bytes.ofString "true" ||
    value = Bytes.ofString "mine" || value = Bytes.ofString "yes"

/-- The parameter `problem_id`, `0` when it is missing. -/
def parseProblemFilter (request : Request) : Option ℤ :=
  if request.hasParam "problem_id" then parseProblemId (request.param "problem_id") else some 0

/-- A memory of zero has not been measured. -/
def memoryJson (memoryKb : ℤ) : Json := if 0 < memoryKb then .integer memoryKb else .null

def submissionSummaryJson (item : SubmissionSummary) : Json :=
  jsonObject
    [("id", .integer item.id), ("problem_id", .integer item.problemId),
      ("problem_title", .string item.problemTitle), ("language", .string item.language),
      ("status", .string item.status.name), ("runtime_ms", .integer item.runtimeMs),
      ("memory_kb", memoryJson item.memoryKb), ("created_at", .string item.createdAt)]

def historyJson (items : List SubmissionSummary) (page : ℤ) (total : ℕ) : Json :=
  jsonObject
    [("submissions", .array (items.map submissionSummaryJson)), ("page", .integer page),
      ("page_size", .integer submissionPageSize), ("total", .integer total),
      ("total_pages", .integer (totalPages total submissionPageSize)), ("mine", .bool true)]

def handleSubmissionList (backend : OwnBackend) (contents : OwnRead → Db) (request : Request) :
    Response :=
  match ownUser backend contents request with
  | .error response => response
  | .ok user =>
      if request.hasParam "mine" && !isTruthyMine (request.param "mine") then
        sendError 400 (Bytes.ofString "mine 取值非法：仅支持查看本人提交历史")
      else
        match parsePageParam (request.param "page") with
        | .error message => sendError 400 message
        | .ok page =>
            match parseProblemFilter request with
            | none => illegalProblemId
            | some problemFilter =>
                match backend.answer .countHistory
                  ((contents .countHistory).countHistory user.id problemFilter) with
                | none => internalError
                | some total =>
                    match backend.answer .listHistory
                      ((contents .listHistory).listHistory user.id problemFilter page
                        submissionPageSize) with
                    | none => internalError
                    | some items => { status := 200, body := historyJson items page total }

/-- The results of the cases as they are stored, and whether they cannot be read. -/
def storedResults (backend : OwnBackend) (perCase : Bytes) : List Json × Bool :=
  if perCase = [] then ([], false)
  else
    match backend.parse perCase with
    | some (.array results) => (results, false)
    | _ => ([], true)

def submissionDetailJson (backend : OwnBackend) (record : SubmissionRecord)
    (problemTitle : Bytes) : Json :=
  let results := storedResults backend record.perCase
  jsonObject
    [("id", .integer record.id), ("problem_id", .integer record.problemId),
      ("problem_title", .string problemTitle), ("language", .string record.language),
      ("status", .string record.status.name), ("source_code", .string record.sourceCode),
      ("runtime_ms", .integer record.runtimeMs), ("memory_kb", memoryJson record.memoryKb),
      ("compile_output", .string record.compileMsg), ("created_at", .string record.createdAt),
      ("results", .array results.1), ("per_case_parse_error", .bool results.2)]

def noSuchSubmission : Response := sendError 404 (Bytes.ofString "提交记录不存在")

/-- `SubmissionStore::find_by_id`. -/
def findSubmission (db : Db) (id : ℤ) : Option SubmissionRecord :=
  (db.submissions.rows.find? (·.id = id)).map (·.toSubmissionRecord.load)

/-- The rest of `handle_submission_detail` for a submission that the user may see. -/
def showSubmission (backend : OwnBackend) (contents : OwnRead → Db) (record : SubmissionRecord) :
    Response :=
  match backend.answer .problem ((contents .problem).findProblem record.problemId) with
  | none => internalError
  | some problem =>
      { status := 200
        body := submissionDetailJson backend record ((problem.map (·.title)).getD []) }

def handleSubmissionDetail (backend : OwnBackend) (contents : OwnRead → Db) (request : Request) :
    Response :=
  match request.pathId.bind parseProblemId with
  | none => sendError 400 (Bytes.ofString "非法提交 ID")
  | some id =>
      match ownUser backend contents request with
      | .error response => response
      | .ok user =>
          match backend.answer .submission (findSubmission (contents .submission) id) with
          | none => internalError
          | some none => noSuchSubmission
          | some (some record) =>
              if record.userId ≠ user.id ∧ checkAdmin user ≠ .ok then noSuchSubmission
              else showSubmission backend contents record

def statusItemJson (item : StatusItem) : Json :=
  jsonObject
    [("problem_id", .integer item.problemId),
      ("status", .string (Bytes.ofString (if item.accepted then "accepted" else "none"))),
      ("first_ac_at",
        match item.firstAcAt with
        | some time => .string time
        | none => .null),
      ("submit_count", .integer item.submitCount)]

def handleUserStatus (backend : OwnBackend) (contents : OwnRead → Db) (request : Request) :
    Response :=
  match ownUser backend contents request with
  | .error response => response
  | .ok user =>
      match parseProblemFilter request with
      | none => illegalProblemId
      | some problemFilter =>
          match backend.answer .statuses
            ((contents .statuses).listStatuses user.id problemFilter) with
          | none => internalError
          | some items =>
              { status := 200
                body := jsonObject [("statuses", .array (items.map statusItemJson))] }

end Handlers

section Privacy

/-- Contents that differ in what other users have submitted, and in problems that the user has not
submitted to. -/
structure OwnAgree (userId : ℤ) (left right : OwnRead → Db) : Prop where
  user : (left .user).findUser userId = (right .user).findUser userId
  submissions : ∀ read, (left read).submissions.rows.filter (·.userId = userId) =
    (right read).submissions.rows.filter (·.userId = userId)
  titles : ∀ read other, ∀ row ∈ (left read).submissions.rows, row.userId = userId →
    (left other).titlesOf row.problemId = (right other).titlesOf row.problemId
  statuses : (left .statuses).statuses.filter (·.userId = userId) =
    (right .statuses).statuses.filter (·.userId = userId)

/-- The column `id` of the submissions is a key, whenever it is read. -/
def SubmissionIds (contents : OwnRead → Db) : Prop :=
  ((contents .submission).submissions.rows.map (·.id)).Nodup

/-- The token of the request stands for the user. -/
def IsFrom (backend : OwnBackend) (userId : ℤ) (request : Request) : Prop :=
  ∃ token, extractBearerToken request.authorization = some token ∧
    backend.verify token = some userId

variable {backend : OwnBackend} {left right : OwnRead → Db} {request : Request} {userId : ℤ}

/-- The user is looked up by the number in the token. -/
theorem id_of_ownUser {contents : OwnRead → Db} (isFrom : IsFrom backend userId request)
    {user : AuthUser} (known : ownUser backend contents request = .ok user) : user.id = userId := by
  rcases isFrom with ⟨token, extracted, verified⟩
  simp only [ownUser, requireUser, extracted, authenticateRequest, verified, Backend.read] at known
  cases fails : backend.fails .findUser with
  | true => simp [fails] at known
  | false =>
      cases found : (contents .user).findUser userId with
      | none => simp [fails, found] at known
      | some record =>
          simp only [fails, found, Bool.false_eq_true, if_false, Except.ok.injEq] at known
          rcases Option.map_eq_some_iff.mp found with ⟨row, isFirst, rfl⟩
          have same := List.find?_some isFirst
          rw [← known]
          simpa [UserRecord.load] using same

theorem ownUser_congr (isFrom : IsFrom backend userId request)
    (agree : OwnAgree userId left right) :
    ownUser backend left request = ownUser backend right request := by
  rcases isFrom with ⟨token, extracted, verified⟩
  simp only [ownUser, requireUser, extracted, authenticateRequest, verified, agree.user]

/-- The history is read from the user's own rows. -/
theorem historyOf_congr (agree : OwnAgree userId left right) (read : OwnRead)
    (problemFilter : ℤ) :
    (left read).submissions.historyOf userId problemFilter =
      (right read).submissions.historyOf userId problemFilter := by
  have own : ∀ table : SubmissionTable, table.historyOf userId problemFilter =
      (table.rows.filter (·.userId = userId)).filter (·.listedFor userId problemFilter) := by
    intro table
    rw [SubmissionTable.historyOf, List.filter_filter]
    refine List.filter_congr fun row _ => ?_
    simp only [SubmissionRow.listedFor, Bool.decide_and, Bool.and_self_left, Bool.and_comm]
  rw [own, own, agree.submissions read]

theorem listHistory_congr (agree : OwnAgree userId left right) (read : OwnRead)
    (problemFilter page pageSize : ℤ) :
    (left read).listHistory userId problemFilter page pageSize =
      (right read).listHistory userId problemFilter page pageSize := by
  have joined : ((left read).submissions.historyOf userId problemFilter).flatMap
        (fun row => ((left read).titlesOf row.problemId).map row.summary) =
      ((left read).submissions.historyOf userId problemFilter).flatMap
        (fun row => ((right read).titlesOf row.problemId).map row.summary) := by
    apply List.flatMap_congr
    intro row mem
    rcases List.mem_filter.mp mem with ⟨mem, listed⟩
    simp only [SubmissionRow.listedFor, decide_eq_true_eq] at listed
    rw [agree.titles read read row mem listed.1]
  rw [listHistory, listHistory, history, history, joined, historyOf_congr agree]

theorem countHistory_congr (agree : OwnAgree userId left right) (read : OwnRead)
    (problemFilter : ℤ) :
    (left read).countHistory userId problemFilter =
      (right read).countHistory userId problemFilter := by
  rw [countHistory, countHistory, historyOf_congr agree]

theorem listStatuses_congr (agree : OwnAgree userId left right) (problemFilter : ℤ) :
    (left .statuses).listStatuses userId problemFilter =
      (right .statuses).listStatuses userId problemFilter := by
  have own : ∀ statuses : List StatusRow, statuses.filter (fun row =>
        row.userId = userId ∧ (problemFilter ≤ 0 ∨ row.problemId = problemFilter)) =
      (statuses.filter (·.userId = userId)).filter fun row =>
        problemFilter ≤ 0 ∨ row.problemId = problemFilter := by
    intro statuses
    rw [List.filter_filter]
    refine List.filter_congr fun row _ => ?_
    simp only [Bool.decide_and, Bool.and_comm]
  rw [listStatuses, listStatuses, own, own, agree.statuses]

theorem title_findProblem (db : Db) (problemId : ℤ) :
    ((db.findProblem problemId).map (·.title)).getD [] =
      Bytes.columnText (db.titleOf problemId) := by
  rw [findProblem, titleOf, titlesOf, ← List.head?_filter]
  cases db.problems.rows.filter (·.id = problemId) with
  | nil => rfl
  | cons row rest => rfl

/-- The submission with the number, if it is the user's own. -/
def ownSubmission (contents : OwnRead → Db) (userId id : ℤ) : Option SubmissionRecord :=
  (findSubmission (contents .submission) id).filter (·.userId = userId)

/-- The own submission is found among the user's own rows. -/
theorem ownSubmission_eq {contents : OwnRead → Db} (ids : SubmissionIds contents) (id : ℤ) :
    ownSubmission contents userId id =
      (((contents .submission).submissions.rows.filter (·.userId = userId)).find?
        (·.id = id)).map (·.toSubmissionRecord.load) := by
  rw [find?_filter_key ids, ownSubmission, findSubmission]
  cases (contents .submission).submissions.rows.find? (·.id = id) with
  | none => rfl
  | some row =>
      by_cases same : row.userId = userId
      · simp [Option.filter, same, SubmissionRecord.load]
      · simp [Option.filter, same, SubmissionRecord.load]

theorem ownSubmission_congr (agree : OwnAgree userId left right) (leftIds : SubmissionIds left)
    (rightIds : SubmissionIds right) (id : ℤ) :
    ownSubmission left userId id = ownSubmission right userId id := by
  rw [ownSubmission_eq leftIds, ownSubmission_eq rightIds, agree.submissions .submission]

theorem showSubmission_ne_missing (contents : OwnRead → Db) (record : SubmissionRecord) :
    showSubmission backend contents record ≠ noSuchSubmission := by
  unfold showSubmission noSuchSubmission internalError sendError
  split
  · simp
  · simp

theorem showSubmission_congr (agree : OwnAgree userId left right) (leftIds : SubmissionIds left)
    {id : ℤ} {record : SubmissionRecord}
    (own : ownSubmission left userId id = some record) :
    showSubmission backend left record = showSubmission backend right record := by
  rw [ownSubmission_eq leftIds] at own
  rcases Option.map_eq_some_iff.mp own with ⟨row, isFirst, rfl⟩
  rcases List.mem_filter.mp (List.mem_of_find?_eq_some isFirst) with ⟨mem, isOwn⟩
  have titles := agree.titles .submission .problem row mem (by simpa using isOwn)
  have same : (left .problem).titleOf row.problemId = (right .problem).titleOf row.problemId := by
    rw [titleOf, titleOf, titles]
  unfold showSubmission OwnBackend.answer
  cases backend.ownFails .problem with
  | true => rfl
  | false =>
      simp only [Bool.false_eq_true, if_false, SubmissionRecord.load]
      rw [title_findProblem, title_findProblem, same]

/-- The request comes from a user who does not pass for an administrator. -/
def OrdinaryUser (backend : OwnBackend) (contents : OwnRead → Db) (request : Request) : Prop :=
  ∀ user, ownUser backend contents request = .ok user → checkAdmin user ≠ .ok

/-- An ordinary user gets a submission exactly if it is the own one. -/
theorem handleSubmissionDetail_eq {contents : OwnRead → Db} {user : AuthUser} {id : ℤ}
    (isFrom : IsFrom backend userId request) (ordinary : OrdinaryUser backend contents request)
    (isId : request.pathId.bind parseProblemId = some id)
    (known : ownUser backend contents request = .ok user)
    (succeeds : backend.ownFails .submission = false) :
    handleSubmissionDetail backend contents request =
      match ownSubmission contents userId id with
      | none => noSuchSubmission
      | some record => showSubmission backend contents record := by
  have notAdmin := ordinary user known
  have isUser := id_of_ownUser isFrom known
  simp only [handleSubmissionDetail, isId, known, OwnBackend.answer, succeeds, Bool.false_eq_true,
    if_false, ownSubmission, isUser]
  cases findSubmission (contents .submission) id with
  | none => rfl
  | some record =>
      by_cases own : record.userId = userId
      · simp [Option.filter, own]
      · simp [Option.filter, own, notAdmin]

/-- What a user who is not an administrator is answered depends on nothing that others have
submitted, and a submission is missing for the user exactly if it is not the user's own. -/
theorem own_submissions_only (isFrom : IsFrom backend userId request)
    (agree : OwnAgree userId left right) (leftIds : SubmissionIds left)
    (rightIds : SubmissionIds right) (ordinary : OrdinaryUser backend left request) :
    handleSubmissionList backend left request = handleSubmissionList backend right request ∧
      handleUserStatus backend left request = handleUserStatus backend right request ∧
      handleSubmissionDetail backend left request =
          handleSubmissionDetail backend right request ∧
        ∀ user id, ownUser backend left request = .ok user →
          request.pathId.bind parseProblemId = some id → backend.ownFails .submission = false →
            (handleSubmissionDetail backend left request = noSuchSubmission ↔
              ∀ record, findSubmission (left .submission) id = some record →
                record.userId ≠ userId) := by
  have sameUser := ownUser_congr isFrom agree
  refine ⟨?_, ?_, ?_, fun user id known isId succeeds => ?_⟩
  · unfold handleSubmissionList
    rw [← sameUser]
    split
    · rfl
    case h_2 user known =>
      rw [id_of_ownUser isFrom known]
      simp only [countHistory_congr agree, listHistory_congr agree]
  · unfold handleUserStatus
    rw [← sameUser]
    split
    · rfl
    case h_2 user known =>
      rw [id_of_ownUser isFrom known]
      simp only [listStatuses_congr agree]
  · rcases isId : request.pathId.bind parseProblemId with _ | id
    · simp only [handleSubmissionDetail, isId]
    · rcases known : ownUser backend left request with response | user
      · simp only [handleSubmissionDetail, isId, ← sameUser, known]
      · rcases succeeds : backend.ownFails .submission with - | -
        · have knownRight := sameUser.symm.trans known
          have ordinaryRight : OrdinaryUser backend right request := by
            intro other isOther
            exact ordinary other (sameUser.trans isOther)
          rw [handleSubmissionDetail_eq isFrom ordinary isId known succeeds,
            handleSubmissionDetail_eq isFrom ordinaryRight isId knownRight succeeds,
            ← ownSubmission_congr agree leftIds rightIds id]
          rcases own : ownSubmission left userId id with _ | record
          · rfl
          · exact showSubmission_congr agree leftIds own
        · simp only [handleSubmissionDetail, isId, ← sameUser, known, OwnBackend.answer, succeeds,
            if_true]
  · rw [handleSubmissionDetail_eq isFrom ordinary isId known succeeds, ownSubmission]
    rcases findSubmission (left .submission) id with _ | record
    · simp
    · by_cases own : record.userId = userId
      · simp [Option.filter, own, showSubmission_ne_missing]
      · simp [Option.filter, own]

section Runs

/-- A backend that takes every token for one of the user `1`. -/
def firstUser : OwnBackend where
  verify := fun _ => some 1
  parse := fun _ => none
  fails := fun _ => false
  ownFails := fun _ => false

def submitted (id userId : ℤ) : SubmissionRow where
  id := id
  userId := userId
  problemId := 1
  language := [99]
  sourceCode := [120]
  status := .WA
  perCase := []
  compileMsg := []
  runtimeMs := 0
  memoryKb := 0
  createdAt := [50]
  settles := none

def onlyFirst : Db := { twoUsers with submissions := { rows := [submitted 1 1], nextId := 2 } }

def bothSubmitted : Db :=
  { twoUsers with submissions := { rows := [submitted 1 1, submitted 2 2], nextId := 3 } }

def asksForSecond : Request where
  authorization := Bytes.ofString "Bearer t"
  params := []
  pathId := some (Bytes.ofString "2")
  body := []

/-- The second user's submission is there, and the first user gets to know nothing of it. -/
theorem own_submissions_only_foreign :
    (findSubmission bothSubmitted 2).map (·.userId) = some 2 ∧
      handleSubmissionDetail firstUser (fun _ => bothSubmitted) asksForSecond =
          noSuchSubmission ∧
        handleSubmissionList firstUser (fun _ => bothSubmitted) asksForSecond =
          handleSubmissionList firstUser (fun _ => onlyFirst) asksForSecond := by
  have known : ownUser firstUser (fun _ => bothSubmitted) asksForSecond =
      .ok { id := 1, account := [97], nickname := [98], role := .user, resetPwdFlag := 0 } :=
    rfl
  have isFrom : IsFrom firstUser 1 asksForSecond := ⟨Bytes.ofString "t", by decide, rfl⟩
  have agree : OwnAgree 1 (fun _ => bothSubmitted) (fun _ => onlyFirst) :=
    ⟨rfl, fun _ => rfl, fun _ _ _ _ _ => rfl, rfl⟩
  have ordinary : OrdinaryUser firstUser (fun _ => bothSubmitted) asksForSecond := by
    intro user isUser
    rw [known] at isUser
    cases isUser
    decide
  have only := own_submissions_only isFrom agree (by unfold SubmissionIds; decide)
    (by unfold SubmissionIds; decide) ordinary
  refine ⟨rfl, (only.2.2.2 _ 2 known (by decide) rfl).mpr ?_, only.1⟩
  intro record found
  have owner : (findSubmission bothSubmitted 2).map (·.userId) = some 2 := rfl
  rw [found, Option.map_some, Option.some.injEq] at owner
  omega

end Runs

end Privacy

section Pages

/-- The history of a user is the list, newest first, of what the user has submitted, and a page
shows its part of the list and tells how long that is. -/
structure HistoryFaithful (backend : OwnBackend) (db : Db) (userId problemFilter : ℤ)
    (rows : List SubmissionRow) : Prop where
  complete : rows.Perm (db.submissions.historyOf userId problemFilter)
  newestFirst : rows.Pairwise SubmissionRow.Newer
  /-- The pages from the first one on make up the list. -/
  pages : ∀ pageSize pages : ℕ, 1 ≤ pageSize → rows.length ≤ pages * pageSize →
    ((List.range pages).flatMap fun index : ℕ =>
      db.listHistory userId problemFilter (index + 1) pageSize) = rows.map db.entryFor
  shown : ∀ (request : Request) (user : AuthUser) (page : ℤ),
    ownUser backend (fun _ => db) request = .ok user → user.id = userId →
      (request.hasParam "mine" → isTruthyMine (request.param "mine")) →
        parsePageParam (request.param "page") = .ok page →
          parseProblemFilter request = some problemFilter →
            (∀ read, backend.ownFails read = false) →
              handleSubmissionList backend (fun _ => db) request =
                { status := 200
                  body := historyJson (pageOf page submissionPageSize (rows.map db.entryFor)) page
                    rows.length }

theorem one_le_of_parsePageParam {text : Bytes} {page : ℤ}
    (parsed : parsePageParam text = .ok page) : 1 ≤ page := by
  have isPage : IsPage maxSubmissionPage text page :=
    (parsePageUpTo_eq_ok_iff (by decide)).mp parsed
  exact isPage.one_le

theorem historyFaithful (backend : OwnBackend) {db : Db} (keys : db.HistoryKeys)
    (userId problemFilter : ℤ) :
    ∃ rows, HistoryFaithful backend db userId problemFilter rows := by
  rcases history_eq keys userId problemFilter with ⟨rows, complete, newestFirst, listed⟩
  refine ⟨rows, complete, newestFirst, fun pageSize pages sizes enough => ?_, ?_⟩
  · rw [← listed]
    refine flatMap_listHistory sizes ?_
    rwa [listed, List.length_map]
  · intro request user page known isUser mine parsed filtered succeeds
    have first : max 1 page = page := max_eq_right (one_le_of_parsePageParam parsed)
    have mineRefused : ¬(request.hasParam "mine" && !isTruthyMine (request.param "mine")) := by
      simpa using mine
    have page_eq : db.listHistory userId problemFilter page submissionPageSize =
        pageOf page submissionPageSize (rows.map db.entryFor) := by
      rw [listHistory, first, listed]
      rfl
    have total_eq : db.countHistory userId problemFilter = rows.length := by
      rw [countHistory, complete.length_eq]
    simp only [handleSubmissionList, known, if_neg mineRefused, parsed, filtered,
      OwnBackend.answer, succeeds, Bool.false_eq_true, if_false, isUser, total_eq, page_eq]

/-- After any run every user is shown a history that is faithful to the committed tables. -/
theorem history_is_complete {dump : Dump} {start : Db} {state : State} (backend : OwnBackend)
    (basic : start.RankingBasic) (exact : start.CountExact)
    (reaches : (server dump).system.Reaches
      (fun _ label => Timestamped label ∧ PlainClock label) (.initial start) state)
    (userId problemFilter : ℤ) :
    ∃ rows, HistoryFaithful backend state.committed userId problemFilter rows := by
  have counts := counts_of_reaches basic exact reaches
  refine historyFaithful backend ⟨?_, ?_⟩ userId problemFilter
  · exact counts.committed_basic.statuses.submissionIds
  · exact counts.committed_basic.problemKeys

/-- A user submits twice, and another user in between. -/
def submittedSchedule : List Label :=
  [.start (submission 1 .WA)] ++ List.replicate 12 (.run 0 true) ++
    [.start (submission 2 .AC)] ++ List.replicate 12 (.run 1 true) ++
      [.start (submission 1 .AC)] ++ List.replicate 12 (.run 2 true)

theorem history_is_complete_twice :
    ∃ state : State,
      (server fun _ => some []).system.run (.initial twoUsers) submittedSchedule = some state ∧
        (state.committed.history 1 0).map (·.id) = [3, 1] ∧
          ∃ rows, HistoryFaithful firstUser state.committed 1 0 rows := by
  have execution : ∃ state : State,
      (server fun _ => some []).system.run (.initial twoUsers) submittedSchedule = some state ∧
        (state.committed.history 1 0).map (·.id) = [3, 1] := ⟨_, rfl, by decide⟩
  rcases execution with ⟨state, execution, listed⟩
  have admits : (server fun _ => some []).system.Admits
      (fun _ label => Timestamped label ∧ PlainClock label) (.initial twoUsers)
      submittedSchedule := by decide
  exact ⟨state, execution, listed, history_is_complete firstUser twoUsers_ready.basic
    twoUsers_ready.exact (TransitionSystem.reaches_of_run admits execution) 1 0⟩

end Pages

end Http

end OnlineJudge
