import OnlineJudge.Db.Users

/-!
# The schema

The statements of `initialize_schema`. They run before anybody else uses the database,
on the file as it was left: the tables that it has, the columns that earlier versions did
not have, the indexes, and the contents. A table that the file does not have has no rows.
-/

namespace OnlineJudge

namespace Db

inductive Table where
  | users
  | problems
  | testcases
  | submissions
  | userProblemStatus
  | inFlightTasks
  deriving DecidableEq, Repr

/-- The columns that tables of earlier versions do not have. -/
inductive AddedColumn where
  | isSample
  | seedKey
  deriving DecidableEq, Repr

def AddedColumn.table : AddedColumn → Table
  | .isSample => .testcases
  | .seedKey => .problems

inductive Index where
  | problemsVisible
  | problemsSeedKey
  | testcasesProblemOrd
  | submissionsUser
  | submissionsUserCreated
  | submissionsProblem
  | userProblemStatusProblem
  | inFlightState
  | inFlightProblem
  deriving DecidableEq, Repr

def Index.table : Index → Table
  | .problemsVisible | .problemsSeedKey => .problems
  | .testcasesProblemOrd => .testcases
  | .submissionsUser | .submissionsUserCreated | .submissionsProblem => .submissions
  | .userProblemStatusProblem => .userProblemStatus
  | .inFlightState | .inFlightProblem => .inFlightTasks

structure DatabaseFile where
  tables : List Table := []
  columns : List AddedColumn := []
  indexes : List Index := []
  contents : Db := {}
  deriving DecidableEq

inductive SchemaStmt where
  /-- `CREATE TABLE IF NOT EXISTS`. -/
  | createTable (table : Table)
  /-- `PRAGMA table_info`, searched for the column. -/
  | columnExists (column : AddedColumn)
  /-- `ALTER TABLE .. ADD COLUMN`. -/
  | addColumn (column : AddedColumn)
  /-- `CREATE INDEX IF NOT EXISTS`. -/
  | createIndex (index : Index)
  /-- `SELECT 1 FROM users WHERE account = 'admin'`. -/
  | adminExists
  /-- `INSERT INTO users .. WHERE NOT EXISTS`. -/
  | insertAdminIfAbsent (passwordHash now : Bytes)

abbrev SchemaStmt.Reply : SchemaStmt → Type
  | .createTable _ => Unit
  | .columnExists _ => Bool
  | .addColumn _ => Unit
  | .createIndex _ => Unit
  | .adminExists => Bool
  | .insertAdminIfAbsent .. => Unit

/-- The account and the nickname of the first administrator. -/
def adminName : Bytes := Bytes.ofString "admin"

def UserTable.hasAccount (table : UserTable) (account : Bytes) : Bool :=
  table.rows.any (·.account = account)

/-- The administrator is created with a password that has to be changed; `none` when another user
has taken the nickname. -/
def UserTable.insertAdmin (table : UserTable) (passwordHash now : Bytes) : Option UserTable :=
  if table.hasAccount adminName then some table
  else if table.rows.any (·.nickname = adminName) then none
  else
    some
      { table with
        rows := table.rows ++
          [{ id := table.nextId
             account := adminName
             nickname := adminName
             passwordHash := passwordHash
             role := .admin
             resetPwdFlag := 1
             createdAt := now }]
        nextId := table.nextId + 1 }

/-- The rows satisfy the index: seed keys are unique, except for `NULL`. -/
def Index.admits (index : Index) (db : Db) : Bool :=
  match index with
  | .problemsSeedKey => (db.problems.rows.filterMap (·.seedKey)).Nodup
  | _ => true

/-- A new table has all the columns. -/
def executeSchema : (stmt : SchemaStmt) → DatabaseFile → Option (stmt.Reply × DatabaseFile)
  | .createTable table, file =>
      if table ∈ file.tables then some ((), file)
      else
        some ((),
          { file with
            tables := file.tables ++ [table]
            columns := file.columns ++ [AddedColumn.isSample, .seedKey].filter (·.table = table) })
  | .columnExists column, file => some (decide (column ∈ file.columns), file)
  | .addColumn column, file =>
      if column.table ∈ file.tables ∧ column ∉ file.columns then
        some ((), { file with columns := file.columns ++ [column] })
      else none
  | .createIndex index, file =>
      if index ∈ file.indexes then some ((), file)
      else if index.table ∈ file.tables ∧ index.admits file.contents then
        some ((), { file with indexes := file.indexes ++ [index] })
      else none
  | .adminExists, file =>
      if .users ∈ file.tables then some (file.contents.users.hasAccount adminName, file) else none
  | .insertAdminIfAbsent passwordHash now, file =>
      if .users ∈ file.tables then
        (file.contents.users.insertAdmin passwordHash now).map fun table =>
          ((), { file with contents := { file.contents with users := table } })
      else none

end Db

end OnlineJudge
