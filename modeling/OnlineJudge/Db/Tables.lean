import Mathlib.Data.List.Sort
import OnlineJudge.Judge.Result
import OnlineJudge.Library.SharedConnection

/-!
# The tables

The rows of the business tables with the columns that the modelled statements read
or write; a table is a list of rows in insertion order. Row identifiers come from
`AUTOINCREMENT` counters, which belong to the contents and return with them when a
transaction is rolled back.

History variables record what the properties speak about and no statement reads: the
writes to the table of users, the task identifiers ever inserted as in-flight tasks,
the in-flight rows deleted together with their problem, and with a submission the
in-flight task that it settled.
-/

namespace OnlineJudge

namespace Db

open Judge Library.SharedConnection

abbrev TaskId := Bytes

inductive Role where
  | admin
  | user
  deriving DecidableEq, Repr

structure UserRecord where
  id : ℤ
  account : Bytes
  nickname : Bytes
  passwordHash : Bytes
  role : Role
  resetPwdFlag : ℤ
  createdAt : Bytes
  deriving DecidableEq, Repr

inductive UserChange where
  | created (user : UserRecord)
  | passwordSet (id : ℤ) (passwordHash : Bytes) (resetPwdFlag : ℤ)
  | roleSet (id : ℤ) (role : Role)
  deriving DecidableEq, Repr

/-- A write to the table of users, with the thread that made it. -/
structure UserWrite where
  writer : ThreadId
  change : UserChange
  deriving DecidableEq, Repr

structure UserTable where
  rows : List UserRecord := []
  nextId : ℤ := 1
  /-- History: the writes, oldest first. -/
  log : List UserWrite := []
  deriving DecidableEq

inductive Difficulty where
  | easy
  | medium
  | hard
  deriving DecidableEq, Repr

/-- `tags` is the comma-separated text of the column. -/
structure ProblemRow where
  id : ℤ
  title : Bytes
  description : Bytes
  difficulty : Difficulty
  tags : Bytes
  timeLimitMs : ℤ
  memoryLimitKb : ℤ
  visible : Bool
  /-- `NULL` except for the built-in problems. -/
  seedKey : Option Bytes := none
  createdAt : Bytes
  updatedAt : Bytes
  deriving DecidableEq, Repr

structure ProblemTable where
  rows : List ProblemRow := []
  nextId : ℤ := 1
  deriving DecidableEq

structure TestcaseRow where
  id : ℤ
  problemId : ℤ
  ord : ℤ
  input : Bytes
  output : Bytes
  isSample : Bool
  deriving DecidableEq, Repr

structure TestcaseTable where
  rows : List TestcaseRow := []
  nextId : ℤ := 1
  deriving DecidableEq

structure SubmissionRecord where
  id : ℤ
  userId : ℤ
  problemId : ℤ
  language : Bytes
  sourceCode : Bytes
  status : JudgeStatus
  perCase : Bytes
  compileMsg : Bytes
  runtimeMs : ℤ
  memoryKb : ℤ
  createdAt : Bytes
  deriving DecidableEq, Repr

structure SubmissionRow extends SubmissionRecord where
  /-- History: the in-flight task whose settlement inserted the row. -/
  settles : Option TaskId
  deriving DecidableEq

structure SubmissionTable where
  rows : List SubmissionRow := []
  nextId : ℤ := 1
  deriving DecidableEq

/-- A row of `user_problem_status`. -/
structure StatusRow where
  userId : ℤ
  problemId : ℤ
  accepted : Bool
  firstAcAt : Option Bytes
  /-- Read with `column_int`, which cuts it to 32 bits; no count here is that large. -/
  submitCount : ℤ
  deriving DecidableEq, Repr

inductive InFlightState where
  | pending
  | claimed
  | interrupted
  deriving DecidableEq, Repr

structure InFlightTask where
  id : ℤ
  taskId : TaskId
  userId : ℤ
  problemId : ℤ
  language : Bytes
  sourceCode : Bytes
  submittedAt : Bytes
  state : InFlightState
  reason : Bytes
  deriving DecidableEq, Repr

structure InFlightRow extends InFlightTask where
  owner : Bytes
  deriving DecidableEq

structure InFlightTable where
  rows : List InFlightRow := []
  nextId : ℤ := 1
  /-- History: the identifiers of the tasks ever inserted. -/
  accepted : List TaskId := []
  /-- History: the rows deleted with their problem, as they were. -/
  purged : List InFlightRow := []
  deriving DecidableEq

end Db

open Db

/-- The contents of the database. -/
structure Db where
  users : UserTable := {}
  problems : ProblemTable := {}
  testcases : TestcaseTable := {}
  submissions : SubmissionTable := {}
  statuses : List StatusRow := []
  inFlight : InFlightTable := {}
  deriving DecidableEq

namespace Db

def hasUser (db : Db) (id : ℤ) : Bool := db.users.rows.any fun row => row.id = id

def hasProblem (db : Db) (id : ℤ) : Bool := db.problems.rows.any fun row => row.id = id

end Db

end OnlineJudge
