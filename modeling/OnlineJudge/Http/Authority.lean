import OnlineJudge.Http.Handlers
import OnlineJudge.Service.Administrators

/-!
# Where authority comes from

Nobody becomes an administrator, and nothing that belongs to administrators changes, but
by the request of an administrator. Since the role is read anew for every request, maybe
from a transaction that is never committed, the statement is about chains: `Trusted` users
were administrators at the start, or got the role from a request of a trusted user. What
differs from the initial contents is `Accounted` for by such requests.
-/

namespace OnlineJudge

namespace Http

open Db Auth Service Problem Library Library.SharedConnection Judge

abbrev Births := ThreadId → Option Job

/-- What the parser makes of the body of a request. -/
def parsedBody {α : Type} (outside : Surroundings) (request : Request)
    (parser : Json → Except Bytes α) : Option α :=
  (outside.parse request.body).bind fun body => (parser body).toOption

def Endpoint.needsAdmin : Endpoint → Bool
  | .register | .changePassword | .submit => false
  | _ => true

/-- The path of the route names a problem that is to be changed. -/
def Endpoint.editsProblem : Endpoint → Bool
  | .updateProblem | .deleteProblem => true
  | .createTestcase | .updateTestcase _ | .deleteTestcase _ => true
  | _ => false

namespace Job

/-- The user whose token came with the request. -/
def sender : Job → Option ℤ
  | .handle _ request outside => Http.sender outside request
  | _ => none

/-- The request asks for a role of the user. -/
def changesRole (id : ℤ) (role : Role) : Job → Prop
  | .handle .updateUser request outside =>
      parsedBody outside request parseUserAction = some (.changeRole id role)
  | _ => False

/-- The request asks for a password of another user, which is hashed to this. -/
def resetsPassword (id : ℤ) (newHash : Bytes) : Job → Prop
  | .handle .updateUser request outside =>
      ∃ newPassword,
        parsedBody outside request parseUserAction = some (.resetPassword id newPassword) ∧
          outside.hashPassword newPassword = some newHash
  | _ => False

/-- The submission that a request asks to be judged again. -/
def rejudges : Job → Option ℤ
  | .handle .rejudge request _ => request.pathId.bind parseProblemId
  | _ => none

/-- The request is about this problem, or about one of its test cases. -/
def editsProblem (problemId : ℤ) : Job → Prop
  | .handle endpoint request _ =>
      endpoint.editsProblem = true ∧ request.pathId.bind parseProblemId = some problemId
  | _ => False

def createsProblem : Job → Prop
  | .handle .createProblem _ _ => True
  | _ => False

/-- The user asks for a new password for himself, which is hashed to this. -/
def changesPassword (id : ℤ) (newHash : Bytes) : Job → Prop
  | .handle .changePassword request outside =>
      Http.sender outside request = some id ∧
        ∃ passwords, parsedBody outside request parsePasswordChangeBody = some passwords ∧
          outside.hashPassword passwords.2 = some newHash
  | _ => False

def needsAdmin : Job → Bool
  | .handle endpoint _ _ => endpoint.needsAdmin
  | _ => false

end Job

/-- An administrator from the start, or by the request of a trusted user. -/
inductive Trusted (base : Db) (births : Births) : ℤ → Prop where
  | initial {id : ℤ} (isAdmin : id ∈ base.users.admins) : Trusted base births id
  | promoted {id promoter : ℤ} {thread : ThreadId} {job : Job} (born : births thread = some job)
      (sent : job.sender = some promoter) (asks : job.changesRole id .admin)
      (trusted : Trusted base births promoter) : Trusted base births id

/-- A trusted user has sent a request of the kind. -/
def AskedFor (base : Db) (births : Births) (kind : Job → Prop) : Prop :=
  ∃ thread job actor, births thread = some job ∧ job.sender = some actor ∧
    Trusted base births actor ∧ kind job

/-- Somebody's password is what he has asked for, or what a trusted user has. -/
def PasswordAsked (base : Db) (births : Births) (id : ℤ) (newHash : Bytes) (flag : ℤ) : Prop :=
  flag = 0 ∧ (∃ thread job, births thread = some job ∧ job.changesPassword id newHash) ∨
    flag = 1 ∧ AskedFor base births fun job => job.resetsPassword id newHash

/-- A user as he was and as he is: the differences have been asked for. -/
structure Accounted (base : Db) (births : Births) (row later : UserRecord) : Prop where
  same : later.id = row.id ∧ later.account = row.account ∧ later.nickname = row.nickname ∧
    later.createdAt = row.createdAt
  password : later.passwordHash = row.passwordHash ∧ later.resetPwdFlag = row.resetPwdFlag ∨
    PasswordAsked base births row.id later.passwordHash later.resetPwdFlag
  role : later.role = row.role ∨ AskedFor base births fun job => job.changesRole row.id later.role

/-- The request is about this problem, or it creates one and this one is new. -/
def Job.mayEdit (base : Db) (problemId : ℤ) (job : Job) : Prop :=
  job.editsProblem problemId ∨ job.createsProblem ∧ base.problems.nextId ≤ problemId

/-- Each problem with its test cases differs from the initial contents only as trusted users have
asked for it. -/
structure ProblemsTraced (base : Db) (births : Births) (problems : ProblemTable)
    (testcases : TestcaseTable) : Prop where
  nextId : base.problems.nextId ≤ problems.nextId
  kept : ∀ row ∈ base.problems.rows, row ∈ problems.rows ∨
    AskedFor base births fun job => job.editsProblem row.id
  stored : ∀ row ∈ problems.rows, row ∈ base.problems.rows ∨
    AskedFor base births fun job => job.mayEdit base row.id
  keptTestcases : ∀ row ∈ base.testcases.rows, row ∈ testcases.rows ∨
    AskedFor base births fun job => job.mayEdit base row.problemId
  storedTestcases : ∀ row ∈ testcases.rows, row ∈ base.testcases.rows ∨
    AskedFor base births fun job => job.mayEdit base row.problemId
  untouched : problems = base.problems ∧ testcases = base.testcases ∨
    ∃ problemId, AskedFor base births fun job => job.mayEdit base problemId

/-- The contents, as they have come from the initial ones. -/
structure Traced (base : Db) (births : Births) (db : Db) : Prop where
  admins : ∀ id ∈ db.users.admins, Trusted base births id
  users : ∀ row ∈ base.users.rows, ∃ later ∈ db.users.rows, Accounted base births row later
  problems : ProblemsTraced base births db.problems db.testcases
  submissions : ∀ row ∈ base.submissions.rows, row ∈ db.submissions.rows ∨
    AskedFor base births fun job => job.rejudges = some row.id

section Mono

variable {base : Db} {before after : Births}

theorem Trusted.mono {id : ℤ} (trusted : Trusted base before id)
    (grown : Extends before after) : Trusted base after id := by
  induction trusted with
  | initial isAdmin => exact .initial isAdmin
  | promoted born sent asks _ ih => exact .promoted (grown _ _ born) sent asks ih

theorem AskedFor.mono {kind : Job → Prop} (asked : AskedFor base before kind)
    (grown : Extends before after) : AskedFor base after kind := by
  rcases asked with ⟨thread, job, actor, born, sent, trusted, isKind⟩
  exact ⟨thread, job, actor, grown _ _ born, sent, trusted.mono grown, isKind⟩

theorem AskedFor.weaken {kind other : Job → Prop} (asked : AskedFor base before kind)
    (implies : ∀ job, kind job → other job) : AskedFor base before other := by
  rcases asked with ⟨thread, job, actor, born, sent, trusted, isKind⟩
  exact ⟨thread, job, actor, born, sent, trusted, implies job isKind⟩

theorem Accounted.mono {row later : UserRecord} (accounted : Accounted base before row later)
    (grown : Extends before after) : Accounted base after row later where
  same := accounted.same
  password := by
    rcases accounted.password with same | ⟨isOwn, thread, job, born, own⟩ | ⟨isReset, asked⟩
    · exact .inl same
    · exact .inr (.inl ⟨isOwn, thread, job, grown _ _ born, own⟩)
    · exact .inr (.inr ⟨isReset, asked.mono grown⟩)
  role := accounted.role.imp_right (·.mono grown)

theorem ProblemsTraced.mono {problems : ProblemTable} {testcases : TestcaseTable}
    (traced : ProblemsTraced base before problems testcases) (grown : Extends before after) :
    ProblemsTraced base after problems testcases where
  nextId := traced.nextId
  kept := fun row mem => (traced.kept row mem).imp_right (·.mono grown)
  stored := fun row mem => (traced.stored row mem).imp_right (·.mono grown)
  keptTestcases := fun row mem => (traced.keptTestcases row mem).imp_right (·.mono grown)
  storedTestcases := fun row mem => (traced.storedTestcases row mem).imp_right (·.mono grown)
  untouched := traced.untouched.imp_right fun ⟨problemId, asked⟩ => ⟨problemId, asked.mono grown⟩

theorem Traced.mono {db : Db} (traced : Traced base before db) (grown : Extends before after) :
    Traced base after db where
  admins := fun id isAdmin => (traced.admins id isAdmin).mono grown
  users := by
    intro row mem
    rcases traced.users row mem with ⟨later, laterMem, accounted⟩
    exact ⟨later, laterMem, accounted.mono grown⟩
  problems := traced.problems.mono grown
  submissions := fun row mem => (traced.submissions row mem).imp_right (·.mono grown)

end Mono

/-- The statements that change neither problems nor test cases nor what is known of users and
submissions. -/
def Harmless : Stmt → Prop
  | .users (.updatePassword ..) | .users (.resetPassword ..) | .users (.updateRole ..) => False
  | .users _ => True
  | .problems (.findById _) => True
  | .problems _ => False
  | .testcases (.list _) | .testcases (.maxOrd _) | .testcases (.findHidden ..) => True
  | .testcases _ => False
  | .submissions (.update _) => False
  | .submissions _ => True
  | .statuses _ | .inFlight _ => True

/-- The statements that a job issues once it is known who has sent it. -/
def Job.mayIssue (base : Db) (job : Job) : Stmt → Prop
  | .users (.updatePassword _ id newHash) => job.changesPassword id newHash
  | .users (.resetPassword _ id newHash) => job.resetsPassword id newHash
  | .users (.updateRole _ id role) => job.changesRole id role
  | .problems (.insert ..) => job.createsProblem
  | .problems (.update id ..) | .problems (.delete id) => job.editsProblem id
  | .testcases own => job.mayEdit base own.problemId
  | .submissions (.update record) =>
      match job with
      | .work task _ _ => task.rejudgeSubmissionId ≠ 0 ∧ record.id = task.rejudgeSubmissionId
      | _ => False
  | _ => False

/-- Only a request to rejudge makes tasks that rejudge. -/
def Job.mayEmit (job : Job) (cleared : Bool) : Answer → Prop
  | .responded _ => True
  | .enqueued task =>
      task.rejudgeSubmissionId = 0 ∨
        cleared = true ∧ job.rejudges = some task.rejudgeSubmissionId

def Job.rights (base : Db) (job : Job) (cleared : Bool) : Rights Stmt Answer where
  issues := fun stmt => Harmless stmt ∨ cleared = true ∧ job.mayIssue base stmt
  emits := job.mayEmit cleared

/-- A row that is found by its identifier has it, and a new problem has a new one. -/
def possibleReply (base : Db) : (stmt : Stmt) → Reply stmt → Prop
  | .problems (.insert ..), id => base.problems.nextId ≤ id
  | .users (.findById id), found => ∀ record, found = some record → record.id = id
  | .submissions (.findById id), found => ∀ record, found = some record → record.id = id
  | _, _ => True

/-- The sender is found, and he is an administrator where he has to be. -/
def Job.clearedBy (job : Job) : (stmt : Stmt) → Reply stmt → Prop
  | .users (.findById id), found =>
      job.sender = some id ∧
        ∃ record, found = some record ∧ (job.needsAdmin = true → record.role = .admin)
  | _, _ => False

/-- Whoever has been let in was entitled to it. -/
def Job.Vouched (base : Db) (births : Births) : Job → Prop
  | .handle endpoint request outside =>
      endpoint.needsAdmin = true →
        ∃ actor, Http.sender outside request = some actor ∧ Trusted base births actor
  | .work task _ _ =>
      task.rejudgeSubmissionId ≠ 0 →
        AskedFor base births fun job => job.rejudges = some task.rejudgeSubmissionId
  | .recover .. => True

section Kinds

variable {job : Job}

theorem needsAdmin_of_changesRole {id : ℤ} {role : Role} (asks : job.changesRole id role) :
    job.needsAdmin = true := by
  cases job with
  | handle endpoint => cases endpoint <;> first | rfl | cases asks
  | work | recover => cases asks

theorem needsAdmin_of_resetsPassword {id : ℤ} {newHash : Bytes}
    (asks : job.resetsPassword id newHash) : job.needsAdmin = true := by
  cases job with
  | handle endpoint => cases endpoint <;> first | rfl | cases asks
  | work | recover => cases asks

theorem needsAdmin_of_rejudges {id : ℤ} (asks : job.rejudges = some id) :
    job.needsAdmin = true := by
  cases job with
  | handle endpoint => cases endpoint <;> first | rfl | cases asks
  | work | recover => cases asks

theorem needsAdmin_of_editsProblem {problemId : ℤ} (edits : job.editsProblem problemId) :
    job.needsAdmin = true := by
  cases job with
  | handle endpoint => cases endpoint <;> first | rfl | cases edits.1
  | work | recover => cases edits

theorem needsAdmin_of_createsProblem (creates : job.createsProblem) : job.needsAdmin = true := by
  cases job with
  | handle endpoint => cases endpoint <;> first | rfl | cases creates
  | work | recover => cases creates

theorem needsAdmin_of_mayEdit {base : Db} {problemId : ℤ} (edits : job.mayEdit base problemId) :
    job.needsAdmin = true :=
  edits.elim needsAdmin_of_editsProblem fun creates => needsAdmin_of_createsProblem creates.1

/-- A job that only administrators may send has been sent by a trusted user. -/
theorem askedFor_of_vouched {base : Db} {births : Births} {thread : ThreadId} {kind : Job → Prop}
    (born : births thread = some job) (vouched : job.Vouched base births) (isKind : kind job)
    (needsAdmin : job.needsAdmin = true) : AskedFor base births kind := by
  cases job with
  | handle endpoint request outside =>
      rcases vouched needsAdmin with ⟨actor, sent, trusted⟩
      exact ⟨thread, _, actor, born, sent, trusted, isKind⟩
  | work | recover => cases needsAdmin

end Kinds

section Statements

variable {base db after : Db} {births : Births} {stmt : Stmt} {reply : Reply stmt}

theorem possibleReply_of_execute (traced : Traced base births db)
    (executed : execute stmt db = some (reply, after)) : possibleReply base stmt reply := by
  cases stmt with
  | users own =>
      cases own with
      | findById id =>
          rcases findUser_executed executed with ⟨-, found⟩
          intro record isRecord
          rw [← found] at isRecord
          rcases Option.map_eq_some_iff.mp isRecord with ⟨row, isRow, rfl⟩
          simpa [UserRecord.load] using List.find?_some isRow
      | _ => trivial
  | submissions own =>
      cases own with
      | findById id =>
          rcases Prod.mk.inj (Option.some.inj executed) with ⟨found, -⟩
          intro record isRecord
          rw [← found] at isRecord
          rcases Option.map_eq_some_iff.mp isRecord with ⟨row, isRow, rfl⟩
          simpa [SubmissionRecord.load] using List.find?_some isRow
      | _ => trivial
  | problems own =>
      cases own with
      | insert columns now =>
          rcases Prod.mk.inj (Option.some.inj executed) with ⟨isNew, -⟩
          exact traced.problems.nextId.trans isNew.le
      | _ => trivial
  | testcases | statuses | inFlight => trivial

/-- A user who is found to be an administrator is one of those in the table. -/
theorem mem_admins_of_found {id : ℤ} {record : UserRecord}
    (executed : execute (.users (.findById id)) db = some (some record, after))
    (isAdmin : record.role = .admin) : id ∈ db.users.admins := by
  rcases Option.map_eq_some_iff.mp (findUser_executed executed).2 with ⟨row, isRow, rfl⟩
  refine UserTable.mem_admins.mpr ⟨row, List.mem_of_find?_eq_some isRow, isAdmin, ?_⟩
  simpa using List.find?_some isRow

/-- Rows that an update leaves alone but for some columns of some users. -/
theorem Traced.mapUsers {change : UserRecord → UserRecord} {log : List UserWrite}
    (traced : Traced base births db)
    (admins : ∀ id,
      id ∈ UserTable.admins { db.users with rows := db.users.rows.map change, log := log } →
        Trusted base births id)
    (accounts : ∀ row later, later ∈ db.users.rows → Accounted base births row later →
      Accounted base births row (change later)) :
    Traced base births
      { db with users := { db.users with rows := db.users.rows.map change, log := log } } where
  admins := admins
  users := by
    intro row mem
    rcases traced.users row mem with ⟨later, laterMem, accounted⟩
    exact ⟨change later, List.mem_map_of_mem laterMem, accounts row later laterMem accounted⟩
  problems := traced.problems
  submissions := traced.submissions

/-- A password that is set belongs to the user who asked for it, or an administrator did. -/
theorem Traced.setPassword (traced : Traced base births db) (writer : ThreadId) (id : ℤ)
    (newHash : Bytes) (flag : ℤ) (asked : PasswordAsked base births id newHash flag) :
    Traced base births
      { db with users := (db.users.setPassword writer id newHash flag).2 } := by
  have sameAdmins := @UserTable.setPassword_admins db.users writer id newHash flag
  unfold UserTable.setPassword at sameAdmins ⊢
  split
  case isFalse => exact traced
  case isTrue found =>
    simp only [found, if_true] at sameAdmins
    refine traced.mapUsers (fun other isAdmin => traced.admins other (sameAdmins ▸ isAdmin)) ?_
    intro row later _ accounted
    split
    case isFalse => exact accounted
    case isTrue isOwner =>
      refine ⟨accounted.same, .inr ?_, accounted.role⟩
      rwa [← accounted.same.1, isOwner]

theorem mem_admins_setRole_iff {table : UserTable} (writer : ThreadId) {id other : ℤ} {role : Role}
    (isAdmin : other ∈ (table.setRole writer id role).admins) :
    other ∈ table.admins ∨ other = id ∧ role = .admin := by
  rcases UserTable.mem_admins.mp isAdmin with ⟨row, mem, hasRole, rfl⟩
  rcases List.mem_map.mp mem with ⟨before, beforeMem, rfl⟩
  split at hasRole
  case isTrue isTarget =>
    right
    simpa [isTarget] using hasRole
  case isFalse isOther =>
    left
    simp only [isOther, if_false]
    exact UserTable.mem_admins.mpr ⟨before, beforeMem, hasRole, rfl⟩

/-- A role that is set has been asked for by a trusted user. -/
theorem Traced.setRole (traced : Traced base births db) (writer : ThreadId) {id : ℤ} {role : Role}
    (asked : AskedFor base births fun job => job.changesRole id role) :
    Traced base births { db with users := db.users.setRole writer id role } := by
  rcases asked with ⟨thread, job, promoter, born, sent, trusted, asks⟩
  refine traced.mapUsers ?_ ?_
  · intro other isAdmin
    rcases mem_admins_setRole_iff writer isAdmin with before | ⟨rfl, rfl⟩
    · exact traced.admins other before
    · exact .promoted born sent asks trusted
  · intro row later _ accounted
    split
    case isFalse => exact accounted
    case isTrue isTarget =>
      refine ⟨accounted.same, accounted.password, .inr ?_⟩
      rw [← accounted.same.1, isTarget]
      exact ⟨thread, job, promoter, born, sent, trusted, asks⟩

theorem Traced.insertUser (traced : Traced base births db) (writer : ThreadId)
    (account nickname passwordHash now : Bytes) :
    Traced base births
      { db with users := (db.users.insert writer account nickname passwordHash now).2 } where
  admins := by
    intro id isAdmin
    rw [UserTable.insert_admins] at isAdmin
    exact traced.admins id isAdmin
  users := by
    intro row mem
    rcases traced.users row mem with ⟨later, laterMem, accounted⟩
    refine ⟨later, ?_, accounted⟩
    unfold UserTable.insert
    split
    · exact laterMem
    split
    · exact laterMem
    exact List.mem_append_left _ laterMem
  problems := traced.problems
  submissions := traced.submissions

/-- A statement on users: each write has been asked for by whoever may. -/
theorem Traced.runUsers (traced : Traced base births db) {job : Job} {thread : ThreadId}
    {cleared : Bool} {own : UserStmt} (born : births thread = some job)
    (vouched : cleared = true → job.Vouched base births)
    (issues : (job.rights base cleared).issues (.users own)) :
    Traced base births { db with users := (own.run db).2 } := by
  cases own with
  | findByNickname | findById | countAdmins => exact traced
  | create writer account nickname passwordHash now =>
      exact traced.insertUser writer account nickname passwordHash now
  | updatePassword writer id newHash =>
      rcases issues with harmless | ⟨-, own⟩
      · exact harmless.elim
      · exact traced.setPassword writer id newHash 0 (.inl ⟨rfl, thread, job, born, own⟩)
  | resetPassword writer id newHash =>
      rcases issues with harmless | ⟨isCleared, own⟩
      · exact harmless.elim
      · refine traced.setPassword writer id newHash 1 (.inr ⟨rfl, ?_⟩)
        exact askedFor_of_vouched born (vouched isCleared) own (needsAdmin_of_resetsPassword own)
  | updateRole writer id role =>
      rcases issues with harmless | ⟨isCleared, own⟩
      · exact harmless.elim
      · exact traced.setRole writer
          (askedFor_of_vouched born (vouched isCleared) own (needsAdmin_of_changesRole own))

/-- A statement on problems: each change is about the problem that the request names. -/
theorem ProblemsTraced.runProblems (traced : ProblemsTraced base births db.problems db.testcases)
    {job : Job} {thread : ThreadId} {cleared : Bool} {own : ProblemStmt} {answer : own.Reply}
    {table : ProblemTable} (ran : own.run db = some (answer, table))
    (born : births thread = some job) (vouched : cleared = true → job.Vouched base births)
    (issues : (job.rights base cleared).issues (.problems own)) :
    ProblemsTraced base births table db.testcases := by
  cases own with
  | findById =>
      rcases Prod.mk.inj (Option.some.inj ran) with ⟨-, rfl⟩
      exact traced
  | insert columns now =>
      rcases issues with harmless | ⟨isCleared, creates⟩
      · exact harmless.elim
      rcases Prod.mk.inj (Option.some.inj ran) with ⟨-, rfl⟩
      have asked : AskedFor base births fun job => job.mayEdit base db.problems.nextId :=
        askedFor_of_vouched born (vouched isCleared) (.inr ⟨creates, traced.nextId⟩)
          (needsAdmin_of_createsProblem creates)
      exact {
        nextId := traced.nextId.trans (by simp)
        kept := fun row mem => (traced.kept row mem).imp_left (List.mem_append_left _)
        stored := by
          intro row mem
          rcases List.mem_append.mp mem with before | isNew
          · exact traced.stored row before
          · rw [List.mem_singleton.mp isNew]
            exact .inr asked
        keptTestcases := traced.keptTestcases
        storedTestcases := traced.storedTestcases
        untouched := .inr ⟨_, asked⟩ }
  | update id columns now =>
      rcases issues with harmless | ⟨isCleared, edits⟩
      · exact harmless.elim
      rcases Prod.mk.inj (Option.some.inj ran) with ⟨-, rfl⟩
      have asked : AskedFor base births fun job => job.editsProblem id :=
        askedFor_of_vouched born (vouched isCleared) edits (needsAdmin_of_editsProblem edits)
      have mayEdit : AskedFor base births fun job => job.mayEdit base id :=
        asked.weaken fun _ => .inl
      exact {
        nextId := traced.nextId
        kept := by
          intro row mem
          by_cases isTarget : row.id = id
          · exact .inr (isTarget ▸ asked)
          · refine (traced.kept row mem).imp_left fun there => List.mem_map.mpr ⟨row, there, ?_⟩
            simp [isTarget]
        stored := by
          intro row mem
          rcases List.mem_map.mp mem with ⟨before, there, rfl⟩
          split
          case isTrue isTarget => exact .inr (isTarget ▸ mayEdit)
          case isFalse => exact traced.stored before there
        keptTestcases := traced.keptTestcases
        storedTestcases := traced.storedTestcases
        untouched := .inr ⟨_, mayEdit⟩ }
  | delete id =>
      rcases issues with harmless | ⟨isCleared, edits⟩
      · exact harmless.elim
      rcases Option.ite_none_left_eq_some.mp ran with ⟨-, ran⟩
      rcases Prod.mk.inj (Option.some.inj ran) with ⟨-, rfl⟩
      have asked : AskedFor base births fun job => job.editsProblem id :=
        askedFor_of_vouched born (vouched isCleared) edits (needsAdmin_of_editsProblem edits)
      exact {
        nextId := traced.nextId
        kept := by
          intro row mem
          by_cases isTarget : row.id = id
          · exact .inr (isTarget ▸ asked)
          · refine (traced.kept row mem).imp_left fun there => List.mem_filter.mpr ⟨there, ?_⟩
            simpa using isTarget
        stored := fun row mem => traced.stored row (List.mem_filter.mp mem).1
        keptTestcases := traced.keptTestcases
        storedTestcases := traced.storedTestcases
        untouched := .inr ⟨id, asked.weaken fun _ => .inl⟩ }

theorem ProblemsTraced.runTestcases (traced : ProblemsTraced base births db.problems db.testcases)
    {job : Job} {thread : ThreadId} {cleared : Bool} {own : TestcaseStmt} {answer : own.Reply}
    {table : TestcaseTable} (ran : own.run db = some (answer, table))
    (born : births thread = some job) (vouched : cleared = true → job.Vouched base births)
    (issues : (job.rights base cleared).issues (.testcases own)) :
    ProblemsTraced base births db.problems table := by
  rcases issues with harmless | ⟨isCleared, edits⟩
  · cases own with
    | list | maxOrd | findHidden =>
        rcases Prod.mk.inj (Option.some.inj ran) with ⟨-, rfl⟩
        exact traced
    | insert | updateHidden | deleteHidden | deleteSamples | deleteAll => exact harmless.elim
  · rcases TestcaseStmt.run_others ran with ⟨keeps, stores⟩
    have asked : AskedFor base births fun job => job.mayEdit base own.problemId :=
      askedFor_of_vouched born (vouched isCleared) edits (needsAdmin_of_mayEdit edits)
    exact {
      nextId := traced.nextId
      kept := traced.kept
      stored := traced.stored
      keptTestcases := by
        intro row mem
        by_cases isTarget : row.problemId = own.problemId
        · exact .inr (isTarget ▸ asked)
        · exact (traced.keptTestcases row mem).imp_left fun there => keeps row there isTarget
      storedTestcases := by
        intro row mem
        by_cases isTarget : row.problemId = own.problemId
        · exact .inr (isTarget ▸ asked)
        · exact traced.storedTestcases row (stores row mem isTarget)
      untouched := .inr ⟨_, asked⟩ }

/-- A submission is new, or a trusted user has asked for its new result. -/
theorem Traced.runSubmissions (traced : Traced base births db) {job : Job} {cleared : Bool}
    {own : SubmissionStmt} {answer : own.Reply} {table : SubmissionTable}
    (ran : own.run db = some (answer, table))
    (vouched : cleared = true → job.Vouched base births)
    (issues : (job.rights base cleared).issues (.submissions own)) :
    Traced base births { db with submissions := table } := by
  refine ⟨traced.admins, traced.users, traced.problems, ?_⟩
  intro row mem
  rcases traced.submissions row mem with there | asked
  case inr => exact .inr asked
  cases own with
  | findById | countForProblem | countFor | minAcceptedAt =>
      rcases Prod.mk.inj (Option.some.inj ran) with ⟨-, rfl⟩
      exact .inl there
  | insert record settles =>
      rcases Option.ite_none_right_eq_some.mp ran with ⟨-, ran⟩
      rcases Prod.mk.inj (Option.some.inj ran) with ⟨-, rfl⟩
      exact .inl (List.mem_append_left _ there)
  | update record =>
      rcases Prod.mk.inj (Option.some.inj ran) with ⟨-, rfl⟩
      by_cases isTarget : row.id = record.id
      · right
        rcases issues with harmless | ⟨isCleared, own⟩
        · exact harmless.elim
        cases job with
        | work task judge now => exact isTarget.trans own.2 ▸ vouched isCleared own.1
        | handle | recover => exact own.elim
      · left
        refine List.mem_map.mpr ⟨row, there, ?_⟩
        simp [SubmissionRow.updated, isTarget]

/-- Every statement that a job may issue keeps the contents accounted for. -/
theorem Traced.keeps (traced : Traced base births db) {job : Job} {thread : ThreadId}
    {cleared : Bool} (born : births thread = some job)
    (vouched : cleared = true → job.Vouched base births)
    (issues : (job.rights base cleared).issues stmt)
    (executed : execute stmt db = some (reply, after)) : Traced base births after := by
  cases Executed.of_execute executed with
  | users own => exact traced.runUsers born vouched issues
  | problems own ran =>
      exact ⟨traced.admins, traced.users, traced.problems.runProblems ran born vouched issues,
        traced.submissions⟩
  | testcases own ran =>
      exact ⟨traced.admins, traced.users, traced.problems.runTestcases ran born vouched issues,
        traced.submissions⟩
  | submissions own ran => exact traced.runSubmissions ran vouched issues
  | statuses | inFlight =>
      exact ⟨traced.admins, traced.users, traced.problems, traced.submissions⟩

/-- The sender of an administrator's request is a trusted user. -/
theorem Traced.vouched (traced : Traced base births db) {job : Job}
    (executed : execute stmt db = some (reply, after)) (clears : job.clearedBy stmt reply) :
    job.Vouched base births := by
  cases stmt with
  | users own =>
      cases own with
      | findById id =>
          rcases clears with ⟨sent, record, rfl, isAdmin⟩
          cases job with
          | handle endpoint request outside =>
              intro needsAdmin
              exact ⟨id, sent, traced.admins id (mem_admins_of_found executed (isAdmin needsAdmin))⟩
          | work | recover => cases sent
      | _ => exact clears.elim
  | problems | testcases | submissions | statuses | inFlight => exact clears.elim

/-- Who may do what on the server. -/
def authority (dump : Dump) (base : Db) : Policy (webServer dump) where
  possible := possibleReply base
  clears := Job.clearedBy
  rights := fun _ => Job.rights base
  Vouched := fun births job => job.Vouched base births
  Inv := Traced base
  vouched_mono := by
    rintro before after (⟨endpoint, request, outside⟩ | ⟨task, judge, now⟩ | _) grown vouched
    · intro needsAdmin
      rcases vouched needsAdmin with ⟨actor, sent, trusted⟩
      exact ⟨actor, sent, trusted.mono grown⟩
    · exact fun rejudges => (vouched rejudges).mono grown
    · trivial
  inv_mono := fun grown traced => traced.mono grown
  possible_of_execute := possibleReply_of_execute
  vouched_of_clears := fun traced executed clears => traced.vouched executed clears
  keeps := fun traced born vouched issues executed => traced.keeps born vouched issues executed

end Statements

end Http

end OnlineJudge
