import OnlineJudge.Db.Tables

/-!
# Statements on the tables of submissions and of problem statuses

The SQL statements of `SubmissionStore`, `UserProblemStatusStore` and those of
`ProblemAdminStore::remove` on these tables.
-/

namespace OnlineJudge

namespace Db

open Judge

/-- Keeps the earlier of two texts in byte order. -/
def earlier (best : Option Bytes) (time : Bytes) : Option Bytes :=
  match best with
  | none => some time
  | some best => if time < best then some time else some best

/-- SQL's `MIN` of a text column, `none` for no rows. -/
def earliest (times : List Bytes) : Option Bytes := times.foldl earlier none

inductive SubmissionStmt where
  | insert (record : SubmissionRecord) (settles : Option TaskId)
  | findById (id : ℤ)
  | update (record : SubmissionRecord)
  | countForProblem (problemId : ℤ)
  | countFor (userId problemId : ℤ)
  | minAcceptedAt (userId problemId : ℤ)

abbrev SubmissionStmt.Reply : SubmissionStmt → Type
  | .insert .. => ℤ
  | .findById _ => Option SubmissionRecord
  | .update _ => Unit
  | .countForProblem _ => ℕ
  | .countFor .. => ℕ
  | .minAcceptedAt .. => Option Bytes

/-- `load_submission`. -/
def SubmissionRecord.load (record : SubmissionRecord) : SubmissionRecord :=
  { record with
    language := Bytes.columnText record.language
    sourceCode := Bytes.columnText record.sourceCode
    perCase := Bytes.columnText record.perCase
    compileMsg := Bytes.columnText record.compileMsg
    createdAt := Bytes.columnText record.createdAt }

/-- The submissions of a user to a problem. -/
def SubmissionTable.ofUser (table : SubmissionTable) (userId problemId : ℤ) :
    List SubmissionRow :=
  table.rows.filter fun row => row.userId = userId ∧ row.problemId = problemId

/-- The times of the submissions of a user to a problem that are accepted. -/
def SubmissionTable.acceptedTimes (table : SubmissionTable) (userId problemId : ℤ) :
    List Bytes :=
  ((table.ofUser userId problemId).filter (·.status = .AC)).map (·.createdAt)

/-- `UPDATE submissions SET status = ?, .. WHERE id = ?`. -/
def SubmissionRow.updated (row : SubmissionRow) (record : SubmissionRecord) : SubmissionRow :=
  if row.id = record.id then
    { row with
      status := record.status
      perCase := record.perCase
      compileMsg := record.compileMsg
      runtimeMs := record.runtimeMs
      memoryKb := record.memoryKb }
  else row

def SubmissionStmt.run : (stmt : SubmissionStmt) → Db → Option (stmt.Reply × SubmissionTable)
  | .insert record settles, db =>
      if db.hasUser record.userId ∧ db.hasProblem record.problemId then
        some (db.submissions.nextId,
          { rows := db.submissions.rows ++
              [{ record with id := db.submissions.nextId, settles := settles }]
            nextId := db.submissions.nextId + 1 })
      else none
  | .findById id, db =>
      some ((db.submissions.rows.find? (·.id = id)).map (·.toSubmissionRecord.load),
        db.submissions)
  | .update record, db =>
      some ((),
        { db.submissions with rows := db.submissions.rows.map (·.updated record) })
  | .countForProblem problemId, db =>
      some ((db.submissions.rows.filter (·.problemId = problemId)).length, db.submissions)
  | .countFor userId problemId, db =>
      some ((db.submissions.ofUser userId problemId).length, db.submissions)
  | .minAcceptedAt userId problemId, db =>
      some (earliest (db.submissions.acceptedTimes userId problemId), db.submissions)

/-- A status as `UserProblemStatusStore::find` returns it. -/
structure StatusRecord where
  accepted : Bool := false
  firstAcAt : Option Bytes := none
  submitCount : ℤ := 0
  deriving DecidableEq, Repr

inductive StatusStmt where
  | find (userId problemId : ℤ)
  | upsert (row : StatusRow)
  | findSubmitCount (userId problemId : ℤ)
  | deleteForProblem (problemId : ℤ)

abbrev StatusStmt.Reply : StatusStmt → Type
  | .find .. => Option StatusRecord
  | .upsert _ => Unit
  | .findSubmitCount .. => Option ℤ
  | .deleteForProblem _ => Unit

/-- The row of a user and a problem. -/
def StatusRow.isFor (row : StatusRow) (userId problemId : ℤ) : Bool :=
  row.userId = userId ∧ row.problemId = problemId

def statusOf (db : Db) (userId problemId : ℤ) : Option StatusRow :=
  db.statuses.find? (·.isFor userId problemId)

def StatusRow.load (row : StatusRow) : StatusRecord where
  accepted := row.accepted
  firstAcAt := row.firstAcAt.map Bytes.columnText
  submitCount := row.submitCount

/-- `INSERT .. ON CONFLICT(user_id, problem_id) DO UPDATE ..`. -/
def upsertStatus (db : Db) (row : StatusRow) : Option (List StatusRow) :=
  if db.statuses.any (·.isFor row.userId row.problemId) then
    some (db.statuses.map fun old => if old.isFor row.userId row.problemId then row else old)
  else if db.hasUser row.userId ∧ db.hasProblem row.problemId then
    some (db.statuses ++ [row])
  else none

def StatusStmt.run : (stmt : StatusStmt) → Db → Option (stmt.Reply × List StatusRow)
  | .find userId problemId, db =>
      some ((db.statusOf userId problemId).map StatusRow.load, db.statuses)
  | .upsert row, db => (db.upsertStatus row).map ((), ·)
  | .findSubmitCount userId problemId, db =>
      some ((db.statusOf userId problemId).map (·.submitCount), db.statuses)
  | .deleteForProblem problemId, db =>
      some ((), db.statuses.filter (·.problemId ≠ problemId))

end Db

end OnlineJudge
