import OnlineJudge.Db.Tables

/-!
# Statements on the table of users

The SQL statements of `UserStore` and `UserAdminStore`. A statement that writes
carries the thread that issues it, for the log of writes only.
-/

namespace OnlineJudge

namespace Db

open Judge Library.SharedConnection

inductive UserStmt where
  | findByNickname (nickname : Bytes)
  | findById (id : ℤ)
  | create (writer : ThreadId) (account nickname passwordHash now : Bytes)
  | updatePassword (writer : ThreadId) (id : ℤ) (newHash : Bytes)
  | resetPassword (writer : ThreadId) (id : ℤ) (newHash : Bytes)
  | countAdmins
  | updateRole (writer : ThreadId) (id : ℤ) (newRole : Role)

/-- What the `INSERT` of a user answers: the row, or the unique column that it collides with. -/
inductive UserInsert where
  | row (user : UserRecord)
  | nicknameTaken
  | accountTaken
  deriving DecidableEq

/-- A password statement answers whether there was a row to update. -/
abbrev UserStmt.Reply : UserStmt → Type
  | .findByNickname _ => Option UserRecord
  | .findById _ => Option UserRecord
  | .create .. => UserInsert
  | .updatePassword .. => Bool
  | .resetPassword .. => Bool
  | .countAdmins => ℕ
  | .updateRole .. => Unit

/-- `load_row`. -/
def UserRecord.load (row : UserRecord) : UserRecord :=
  { row with
    account := Bytes.columnText row.account
    nickname := Bytes.columnText row.nickname
    passwordHash := Bytes.columnText row.passwordHash
    createdAt := Bytes.columnText row.createdAt }

namespace UserTable

/-- The column `created_at` defaults to `datetime('now')`. -/
def insert (table : UserTable) (writer : ThreadId)
    (account nickname passwordHash now : Bytes) : UserInsert × UserTable :=
  if table.rows.any (·.nickname = nickname) then (.nicknameTaken, table)
  else if table.rows.any (·.account = account) then (.accountTaken, table)
  else
    let user : UserRecord :=
      { id := table.nextId
        account := account
        nickname := nickname
        passwordHash := passwordHash
        role := .user
        resetPwdFlag := 0
        createdAt := now }
    (.row user.load,
      { rows := table.rows ++ [user]
        nextId := table.nextId + 1
        log := table.log ++ [{ writer := writer, change := .created user }] })

/-- `UPDATE users SET password_hash = ?, reset_pwd_flag = .. WHERE id = ? RETURNING id`. -/
def setPassword (table : UserTable) (writer : ThreadId) (id : ℤ) (newHash : Bytes)
    (resetPwdFlag : ℤ) : Bool × UserTable :=
  if table.rows.any (·.id = id) then
    (true,
      { table with
        rows := table.rows.map fun row =>
          if row.id = id then
            { row with passwordHash := newHash, resetPwdFlag := resetPwdFlag }
          else row
        log := table.log ++
          [{ writer := writer, change := .passwordSet id newHash resetPwdFlag }] })
  else (false, table)

def setRole (table : UserTable) (writer : ThreadId) (id : ℤ) (newRole : Role) : UserTable :=
  { table with
    rows := table.rows.map fun row => if row.id = id then { row with role := newRole } else row
    log := table.log ++ [{ writer := writer, change := .roleSet id newRole }] }

end UserTable

/-- No statement on this table is refused: the taken names of an `INSERT` are an answer. -/
def UserStmt.run : (stmt : UserStmt) → Db → stmt.Reply × UserTable
  | .findByNickname nickname, db =>
      ((db.users.rows.find? (·.nickname = nickname)).map UserRecord.load, db.users)
  | .findById id, db => ((db.users.rows.find? (·.id = id)).map UserRecord.load, db.users)
  | .create writer account nickname passwordHash now, db =>
      db.users.insert writer account nickname passwordHash now
  | .updatePassword writer id newHash, db => db.users.setPassword writer id newHash 0
  | .resetPassword writer id newHash, db => db.users.setPassword writer id newHash 1
  | .countAdmins, db => ((db.users.rows.filter (·.role = .admin)).length, db.users)
  | .updateRole writer id newRole, db => ((), db.users.setRole writer id newRole)

/-- The rows change in place, with their identifiers and the times of their registration, or a new
row is appended. -/
theorem UserStmt.run_cases (stmt : UserStmt) (db : Db) :
    (∃ change : UserRecord → UserRecord,
      (∀ row, (change row).id = row.id ∧ (change row).createdAt = row.createdAt) ∧
        (stmt.run db).2.rows = db.users.rows.map change) ∨
      ∃ writer account nickname passwordHash now user,
        stmt = .create writer account nickname passwordHash now ∧ user.createdAt = now ∧
          (stmt.run db).2.rows = db.users.rows ++ [user] := by
  have unchanged : ∃ change : UserRecord → UserRecord,
      (∀ row, (change row).id = row.id ∧ (change row).createdAt = row.createdAt) ∧
        db.users.rows = db.users.rows.map change :=
    ⟨id, fun _ => ⟨rfl, rfl⟩, by simp⟩
  have password : ∀ (writer : ThreadId) (userId : ℤ) (newHash : Bytes) (flag : ℤ),
      ∃ change : UserRecord → UserRecord,
        (∀ row, (change row).id = row.id ∧ (change row).createdAt = row.createdAt) ∧
          (db.users.setPassword writer userId newHash flag).2.rows = db.users.rows.map change := by
    intro writer userId newHash flag
    rw [UserTable.setPassword]
    split
    · refine ⟨_, ?_, rfl⟩
      intro row
      split <;> exact ⟨rfl, rfl⟩
    · exact unchanged
  cases stmt with
  | findByNickname | findById | countAdmins => exact .inl unchanged
  | create writer account nickname passwordHash now =>
      simp only [UserStmt.run, UserTable.insert]
      split
      · exact .inl unchanged
      split
      · exact .inl unchanged
      exact .inr ⟨writer, account, nickname, passwordHash, now, _, rfl, rfl, rfl⟩
  | updatePassword writer userId newHash => exact .inl (password writer userId newHash 0)
  | resetPassword writer userId newHash => exact .inl (password writer userId newHash 1)
  | updateRole writer userId newRole =>
      refine .inl ⟨_, ?_, rfl⟩
      intro row
      split <;> exact ⟨rfl, rfl⟩

end Db

end OnlineJudge
