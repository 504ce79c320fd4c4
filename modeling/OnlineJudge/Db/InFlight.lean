import OnlineJudge.Db.Tables

/-!
# Statements on the table of in-flight tasks

The SQL statements of `InFlightStore` and those of `ProblemAdminStore::remove` on this
table. A task is `pending` from its acceptance, `claimed` while a recovery has put it
into the queue, and `interrupted` once it can no longer be judged.
-/

namespace OnlineJudge

namespace Db

inductive InFlightStmt where
  | insert (taskId : TaskId) (userId problemId : ℤ) (language sourceCode submittedAt : Bytes)
  | removeByTaskId (taskId : TaskId)
  | markInterrupted (taskId : TaskId) (reason : Bytes)
  | listPending (limit : ℕ)
  | claim (id : ℤ) (owner : Bytes)
  | resetStaleClaims
  | countForProblem (problemId : ℤ)
  | deleteForProblem (problemId : ℤ)

/-- What the `INSERT` of an in-flight task answers. -/
inductive InFlightInsert where
  | row (id : ℤ)
  | taskIdTaken
  deriving DecidableEq

/-- Deletion by task identifier and claims answer whether there was a row. -/
abbrev InFlightStmt.Reply : InFlightStmt → Type
  | .insert .. => InFlightInsert
  | .removeByTaskId _ => Bool
  | .markInterrupted .. => Unit
  | .listPending _ => List InFlightTask
  | .claim .. => Bool
  | .resetStaleClaims => Unit
  | .countForProblem _ => ℕ
  | .deleteForProblem _ => Unit

/-- `load_in_flight`. -/
def InFlightTask.load (task : InFlightTask) : InFlightTask :=
  { task with
    taskId := Bytes.columnText task.taskId
    language := Bytes.columnText task.language
    sourceCode := Bytes.columnText task.sourceCode
    submittedAt := Bytes.columnText task.submittedAt
    reason := Bytes.columnText task.reason }

/-- `SET state = 'interrupted', reason = ? WHERE task_id = ? AND state != 'interrupted'`. -/
def InFlightRow.interruptedFor (taskId : TaskId) (reason : Bytes) (row : InFlightRow) :
    InFlightRow :=
  if row.taskId = taskId ∧ row.state ≠ .interrupted then
    { row with state := .interrupted, reason := reason }
  else row

/-- `WHERE id = ? AND state = 'pending'`. -/
def InFlightRow.claimable (id : ℤ) (row : InFlightRow) : Bool :=
  row.id = id ∧ row.state = .pending

def InFlightRow.claimedBy (id : ℤ) (owner : Bytes) (row : InFlightRow) : InFlightRow :=
  if row.claimable id then { row with state := .claimed, owner := owner } else row

/-- `SET state = 'pending', owner = '' WHERE state = 'claimed'`. -/
def InFlightRow.unclaimed (row : InFlightRow) : InFlightRow :=
  if row.state = .claimed then { row with state := .pending, owner := [] } else row

namespace InFlightTable

/-- The rows that a recovery may still claim, by `id`. -/
def pending (table : InFlightTable) : List InFlightRow :=
  (table.rows.filter (·.state = .pending)).insertionSort fun first second =>
    first.id ≤ second.id

def mapRows (table : InFlightTable) (change : InFlightRow → InFlightRow) : InFlightTable :=
  { table with rows := table.rows.map change }

end InFlightTable

def InFlightStmt.run : (stmt : InFlightStmt) → Db → Option (stmt.Reply × InFlightTable)
  | .insert taskId userId problemId language sourceCode submittedAt, db =>
      if db.inFlight.rows.any (·.taskId = taskId) then some (.taskIdTaken, db.inFlight)
      else if db.hasUser userId ∧ db.hasProblem problemId then
        some (.row db.inFlight.nextId,
          { db.inFlight with
            rows := db.inFlight.rows ++
              [{ id := db.inFlight.nextId
                 taskId := taskId
                 userId := userId
                 problemId := problemId
                 language := language
                 sourceCode := sourceCode
                 submittedAt := submittedAt
                 state := .pending
                 reason := []
                 owner := [] }]
            nextId := db.inFlight.nextId + 1
            accepted := db.inFlight.accepted ++ [taskId] })
      else none
  | .removeByTaskId taskId, db =>
      some (db.inFlight.rows.any (·.taskId = taskId),
        { db.inFlight with rows := db.inFlight.rows.filter (·.taskId ≠ taskId) })
  | .markInterrupted taskId reason, db =>
      some ((), db.inFlight.mapRows (·.interruptedFor taskId reason))
  | .listPending limit, db =>
      some ((db.inFlight.pending.take limit).map (·.toInFlightTask.load), db.inFlight)
  | .claim id owner, db =>
      some (db.inFlight.rows.any (·.claimable id), db.inFlight.mapRows (·.claimedBy id owner))
  | .resetStaleClaims, db => some ((), db.inFlight.mapRows (·.unclaimed))
  | .countForProblem problemId, db =>
      some
        ((db.inFlight.rows.filter fun row =>
            row.problemId = problemId ∧ row.state ≠ .interrupted).length,
          db.inFlight)
  | .deleteForProblem problemId, db =>
      some ((),
        { db.inFlight with
          rows := db.inFlight.rows.filter (·.problemId ≠ problemId)
          purged := db.inFlight.purged ++
            db.inFlight.rows.filter (·.problemId = problemId) })

end Db

end OnlineJudge
