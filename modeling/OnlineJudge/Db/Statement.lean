import OnlineJudge.Db.Users
import OnlineJudge.Db.Problems
import OnlineJudge.Db.Submissions
import OnlineJudge.Db.InFlight

/-!
# The statements of the application

Every SQL statement reads what it needs and writes at most one table, so the effect of
a statement on the other tables needs no proof.
-/

namespace OnlineJudge

namespace Db

inductive Stmt where
  | users (stmt : UserStmt)
  | problems (stmt : ProblemStmt)
  | testcases (stmt : TestcaseStmt)
  | submissions (stmt : SubmissionStmt)
  | statuses (stmt : StatusStmt)
  | inFlight (stmt : InFlightStmt)

abbrev Reply : Stmt → Type
  | .users stmt => stmt.Reply
  | .problems stmt => stmt.Reply
  | .testcases stmt => stmt.Reply
  | .submissions stmt => stmt.Reply
  | .statuses stmt => stmt.Reply
  | .inFlight stmt => stmt.Reply

/-- Executes a statement; `none` when a constraint refuses it. -/
def execute : (stmt : Stmt) → Db → Option (Reply stmt × Db)
  | .users stmt, db =>
      some ((stmt.run db).1, { db with users := (stmt.run db).2 })
  | .problems stmt, db =>
      (stmt.run db).map fun (reply, table) => (reply, { db with problems := table })
  | .testcases stmt, db =>
      (stmt.run db).map fun (reply, table) => (reply, { db with testcases := table })
  | .submissions stmt, db =>
      (stmt.run db).map fun (reply, table) => (reply, { db with submissions := table })
  | .statuses stmt, db =>
      (stmt.run db).map fun (reply, table) => (reply, { db with statuses := table })
  | .inFlight stmt, db =>
      (stmt.run db).map fun (reply, table) => (reply, { db with inFlight := table })

variable {stmt : Stmt} {db after : Db} {reply : Reply stmt}

theorem findProblem_executed {id : ℤ} {found : Option ProblemRecord}
    (executed : execute (.problems (.findById id)) db = some (found, after)) :
    after = db ∧ (db.problems.rows.find? (·.id = id)).map ProblemRow.load = found := by
  rcases Prod.mk.inj (Option.some.inj executed) with ⟨answer, same⟩
  exact ⟨same.symm, answer⟩

/-- What an executed statement does: it writes its own table and leaves the others alone. -/
inductive Executed (db : Db) : (stmt : Stmt) → Reply stmt → Db → Prop where
  | users (own : UserStmt) :
      Executed db (.users own) (own.run db).1 { db with users := (own.run db).2 }
  | problems (own : ProblemStmt) {answer : own.Reply} {table : ProblemTable}
      (ran : own.run db = some (answer, table)) :
      Executed db (.problems own) answer { db with problems := table }
  | testcases (own : TestcaseStmt) {answer : own.Reply} {table : TestcaseTable}
      (ran : own.run db = some (answer, table)) :
      Executed db (.testcases own) answer { db with testcases := table }
  | submissions (own : SubmissionStmt) {answer : own.Reply} {table : SubmissionTable}
      (ran : own.run db = some (answer, table)) :
      Executed db (.submissions own) answer { db with submissions := table }
  | statuses (own : StatusStmt) {answer : own.Reply} {table : List StatusRow}
      (ran : own.run db = some (answer, table)) :
      Executed db (.statuses own) answer { db with statuses := table }
  | inFlight (own : InFlightStmt) {answer : own.Reply} {table : InFlightTable}
      (ran : own.run db = some (answer, table)) :
      Executed db (.inFlight own) answer { db with inFlight := table }

theorem Executed.of_execute (executed : execute stmt db = some (reply, after)) :
    Executed db stmt reply after := by
  cases stmt with
  | users own =>
      rcases Prod.mk.inj (Option.some.inj executed) with ⟨rfl, rfl⟩
      exact .users own
  | problems own =>
      rcases Option.map_eq_some_iff.mp executed with ⟨⟨answer, table⟩, ran, same⟩
      rcases Prod.mk.inj same with ⟨rfl, rfl⟩
      exact .problems own ran
  | testcases own =>
      rcases Option.map_eq_some_iff.mp executed with ⟨⟨answer, table⟩, ran, same⟩
      rcases Prod.mk.inj same with ⟨rfl, rfl⟩
      exact .testcases own ran
  | submissions own =>
      rcases Option.map_eq_some_iff.mp executed with ⟨⟨answer, table⟩, ran, same⟩
      rcases Prod.mk.inj same with ⟨rfl, rfl⟩
      exact .submissions own ran
  | statuses own =>
      rcases Option.map_eq_some_iff.mp executed with ⟨⟨answer, table⟩, ran, same⟩
      rcases Prod.mk.inj same with ⟨rfl, rfl⟩
      exact .statuses own ran
  | inFlight own =>
      rcases Option.map_eq_some_iff.mp executed with ⟨⟨answer, table⟩, ran, same⟩
      rcases Prod.mk.inj same with ⟨rfl, rfl⟩
      exact .inFlight own ran

theorem users_of_execute (executed : execute stmt db = some (reply, after)) :
    after.users = db.users ∨
      ∃ own : UserStmt, stmt = .users own ∧ after.users = (own.run db).2 := by
  cases Executed.of_execute executed with
  | users own => exact Or.inr ⟨own, rfl, rfl⟩
  | problems | testcases | submissions | statuses | inFlight => exact Or.inl rfl

theorem submissions_of_execute (executed : execute stmt db = some (reply, after)) :
    after.submissions = db.submissions ∨
      ∃ (own : SubmissionStmt) (answer : own.Reply),
        stmt = .submissions own ∧ own.run db = some (answer, after.submissions) := by
  cases Executed.of_execute executed with
  | submissions own ran => exact Or.inr ⟨own, _, rfl, ran⟩
  | users | problems | testcases | statuses | inFlight => exact Or.inl rfl

theorem statuses_of_execute (executed : execute stmt db = some (reply, after)) :
    after.statuses = db.statuses ∨
      ∃ (own : StatusStmt) (answer : own.Reply),
        stmt = .statuses own ∧ own.run db = some (answer, after.statuses) := by
  cases Executed.of_execute executed with
  | statuses own ran => exact Or.inr ⟨own, _, rfl, ran⟩
  | users | problems | testcases | submissions | inFlight => exact Or.inl rfl

theorem inFlight_of_execute (executed : execute stmt db = some (reply, after)) :
    after.inFlight = db.inFlight ∨
      ∃ (own : InFlightStmt) (answer : own.Reply),
        stmt = .inFlight own ∧ own.run db = some (answer, after.inFlight) := by
  cases Executed.of_execute executed with
  | inFlight own ran => exact Or.inr ⟨own, _, rfl, ran⟩
  | users | problems | testcases | submissions | statuses => exact Or.inl rfl

theorem problems_of_execute (executed : execute stmt db = some (reply, after)) :
    after.problems = db.problems ∨
      ∃ (own : ProblemStmt) (answer : own.Reply),
        stmt = .problems own ∧ own.run db = some (answer, after.problems) := by
  cases Executed.of_execute executed with
  | problems own ran => exact Or.inr ⟨own, _, rfl, ran⟩
  | users | testcases | submissions | statuses | inFlight => exact Or.inl rfl

theorem testcases_of_execute (executed : execute stmt db = some (reply, after)) :
    after.testcases = db.testcases ∨
      ∃ (own : TestcaseStmt) (answer : own.Reply),
        stmt = .testcases own ∧ own.run db = some (answer, after.testcases) := by
  cases Executed.of_execute executed with
  | testcases own ran => exact Or.inr ⟨own, _, rfl, ran⟩
  | users | problems | submissions | statuses | inFlight => exact Or.inl rfl

end Db

end OnlineJudge
