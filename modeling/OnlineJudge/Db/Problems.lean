import OnlineJudge.Db.Tables

/-!
# Statements on the tables of problems and of test cases

The SQL statements of `ProblemStore`, `ProblemAdminStore` and `TestcaseAdminStore`.
Foreign keys are on: a row that refers to a missing problem is refused, and so is the
deletion of a problem that a row still refers to.
-/

namespace OnlineJudge

namespace Db

/-- A problem as `ProblemStore::find_by_id` returns it. -/
structure ProblemRecord where
  id : ℤ
  title : Bytes
  description : Bytes
  difficulty : Difficulty
  tags : List Bytes
  timeLimitMs : ℤ
  memoryLimitKb : ℤ
  visible : Bool
  deriving DecidableEq, Repr

/-- `load_record`. -/
def ProblemRow.load (row : ProblemRow) : ProblemRecord where
  id := row.id
  title := Bytes.columnText row.title
  description := Bytes.columnText row.description
  difficulty := row.difficulty
  tags := Bytes.splitTags (Bytes.columnText row.tags)
  timeLimitMs := row.timeLimitMs
  memoryLimitKb := row.memoryLimitKb
  visible := row.visible

/-- The columns that an administrator writes. -/
structure ProblemColumns where
  title : Bytes
  description : Bytes
  difficulty : Difficulty
  tags : Bytes
  timeLimitMs : ℤ
  memoryLimitKb : ℤ
  visible : Bool
  deriving DecidableEq, Repr

inductive ProblemStmt where
  | findById (id : ℤ)
  | insert (columns : ProblemColumns) (now : Bytes)
  | update (id : ℤ) (columns : ProblemColumns) (now : Bytes)
  | delete (id : ℤ)

abbrev ProblemStmt.Reply : ProblemStmt → Type
  | .findById _ => Option ProblemRecord
  | .insert .. => ℤ
  | .update .. => Unit
  | .delete _ => Unit

/-- A new row; `created_at` and `updated_at` are `datetime('now')`. -/
def ProblemColumns.row (columns : ProblemColumns) (id : ℤ) (now : Bytes) : ProblemRow where
  id := id
  title := columns.title
  description := columns.description
  difficulty := columns.difficulty
  tags := columns.tags
  timeLimitMs := columns.timeLimitMs
  memoryLimitKb := columns.memoryLimitKb
  visible := columns.visible
  createdAt := now
  updatedAt := now

/-- `UPDATE problems SET title = ?, .., updated_at = datetime('now')`. -/
def ProblemRow.updated (row : ProblemRow) (columns : ProblemColumns) (now : Bytes) : ProblemRow :=
  { row with
    title := columns.title
    description := columns.description
    difficulty := columns.difficulty
    tags := columns.tags
    timeLimitMs := columns.timeLimitMs
    memoryLimitKb := columns.memoryLimitKb
    visible := columns.visible
    updatedAt := now }

/-- Some row of another table refers to the problem. -/
def problemReferenced (db : Db) (id : ℤ) : Bool :=
  db.testcases.rows.any (·.problemId = id) || db.submissions.rows.any (·.problemId = id) ||
    db.statuses.any (·.problemId = id) || db.inFlight.rows.any (·.problemId = id)

/-- An inserted row gets a fresh `id`. -/
def ProblemStmt.run : (stmt : ProblemStmt) → Db → Option (stmt.Reply × ProblemTable)
  | .findById id, db =>
      some ((db.problems.rows.find? (·.id = id)).map ProblemRow.load, db.problems)
  | .insert columns now, db =>
      some (db.problems.nextId,
        { rows := db.problems.rows ++ [columns.row db.problems.nextId now]
          nextId := db.problems.nextId + 1 })
  | .update id columns now, db =>
      some ((),
        { db.problems with
          rows := db.problems.rows.map fun row =>
            if row.id = id then row.updated columns now else row })
  | .delete id, db =>
      if db.problemReferenced id then none
      else some ((), { db.problems with rows := db.problems.rows.filter (·.id ≠ id) })

/-- A hidden test case as `find_hidden` returns it. -/
structure HiddenTestcase where
  ord : ℤ
  input : Bytes
  output : Bytes
  deriving DecidableEq, Repr

inductive TestcaseStmt where
  | list (problemId : ℤ)
  | maxOrd (problemId : ℤ)
  | insert (problemId ord : ℤ) (input output : Bytes) (isSample : Bool)
  | findHidden (problemId id : ℤ)
  | updateHidden (problemId id : ℤ) (input output : Bytes) (ord : ℤ)
  | deleteHidden (problemId id : ℤ)
  | deleteSamples (problemId : ℤ)
  | deleteAll (problemId : ℤ)

/-- The problem whose test cases a statement is about. -/
def TestcaseStmt.problemId : TestcaseStmt → ℤ
  | .list problemId | .maxOrd problemId | .insert problemId .. => problemId
  | .findHidden problemId _ | .updateHidden problemId .. | .deleteHidden problemId _ => problemId
  | .deleteSamples problemId | .deleteAll problemId => problemId

abbrev TestcaseStmt.Reply : TestcaseStmt → Type
  | .list _ => List TestcaseRow
  | .maxOrd _ => ℤ
  | .insert .. => ℤ
  | .findHidden .. => Option HiddenTestcase
  | .updateHidden .. => Unit
  | .deleteHidden .. => Unit
  | .deleteSamples _ => Unit
  | .deleteAll _ => Unit

/-- `ORDER BY ord ASC, id ASC`. -/
def TestcaseRow.Before (first second : TestcaseRow) : Prop :=
  first.ord < second.ord ∨ first.ord = second.ord ∧ first.id ≤ second.id

instance : DecidableRel TestcaseRow.Before := fun first second =>
  inferInstanceAs (Decidable (first.ord < second.ord ∨ _))

def TestcaseRow.load (row : TestcaseRow) : TestcaseRow :=
  { row with input := Bytes.columnText row.input, output := Bytes.columnText row.output }

/-- The test cases of a problem in their order. -/
def TestcaseTable.ofProblem (table : TestcaseTable) (problemId : ℤ) : List TestcaseRow :=
  ((table.rows.filter (·.problemId = problemId)).insertionSort TestcaseRow.Before).map
    TestcaseRow.load

/-- The row is a hidden test case of the problem. -/
def TestcaseRow.isHidden (row : TestcaseRow) (problemId id : ℤ) : Bool :=
  row.problemId = problemId ∧ row.id = id ∧ row.isSample = false

theorem TestcaseRow.isHidden_iff {row : TestcaseRow} {problemId id : ℤ} :
    row.isHidden problemId id = true ↔
      row.problemId = problemId ∧ row.id = id ∧ row.isSample = false := by
  simp [TestcaseRow.isHidden]

def TestcaseStmt.run : (stmt : TestcaseStmt) → Db → Option (stmt.Reply × TestcaseTable)
  | .list problemId, db => some (db.testcases.ofProblem problemId, db.testcases)
  | .maxOrd problemId, db =>
      some
        (((db.testcases.rows.filter (·.problemId = problemId)).map (·.ord)).max?.getD (-1),
          db.testcases)
  | .insert problemId ord input output isSample, db =>
      if db.hasProblem problemId then
        some (db.testcases.nextId,
          { rows := db.testcases.rows ++
              [{ id := db.testcases.nextId
                 problemId := problemId
                 ord := ord
                 input := input
                 output := output
                 isSample := isSample }]
            nextId := db.testcases.nextId + 1 })
      else none
  | .findHidden problemId id, db =>
      some
        ((db.testcases.rows.find? (·.isHidden problemId id)).map fun row =>
            { ord := row.ord
              input := Bytes.columnText row.input
              output := Bytes.columnText row.output },
          db.testcases)
  | .updateHidden problemId id input output ord, db =>
      some ((),
        { db.testcases with
          rows := db.testcases.rows.map fun row =>
            if row.isHidden problemId id then
              { row with input := input, output := output, ord := ord }
            else row })
  | .deleteHidden problemId id, db =>
      some ((),
        { db.testcases with
          rows := db.testcases.rows.filter fun row => !row.isHidden problemId id })
  | .deleteSamples problemId, db =>
      some ((),
        { db.testcases with
          rows := db.testcases.rows.filter fun row =>
            !(decide (row.problemId = problemId) && row.isSample) })
  | .deleteAll problemId, db =>
      some ((),
        { db.testcases with rows := db.testcases.rows.filter (·.problemId ≠ problemId) })

/-- The test cases of other problems stay, and there are no new ones. -/
theorem TestcaseStmt.run_others {db : Db} {own : TestcaseStmt} {answer : own.Reply}
    {table : TestcaseTable} (ran : own.run db = some (answer, table)) :
    (∀ row ∈ db.testcases.rows, row.problemId ≠ own.problemId → row ∈ table.rows) ∧
      ∀ row ∈ table.rows, row.problemId ≠ own.problemId → row ∈ db.testcases.rows := by
  cases own with
  | list | maxOrd | findHidden =>
      rcases Prod.mk.inj (Option.some.inj ran) with ⟨-, rfl⟩
      exact ⟨fun _ mem _ => mem, fun _ mem _ => mem⟩
  | insert problemId ord input output isSample =>
      rcases Option.ite_none_right_eq_some.mp ran with ⟨-, ran⟩
      rcases Prod.mk.inj (Option.some.inj ran) with ⟨-, rfl⟩
      refine ⟨fun row mem _ => List.mem_append_left _ mem, fun row mem differs => ?_⟩
      rcases List.mem_append.mp mem with before | isNew
      · exact before
      · rw [List.mem_singleton.mp isNew] at differs
        exact absurd rfl differs
  | updateHidden problemId id input output ord =>
      rcases Prod.mk.inj (Option.some.inj ran) with ⟨-, rfl⟩
      have notHidden : ∀ row : TestcaseRow, row.problemId ≠ problemId →
          row.isHidden problemId id = false := by
        intro row differs
        simp [TestcaseRow.isHidden, differs]
      refine ⟨fun row mem differs => List.mem_map.mpr ⟨row, mem, ?_⟩, fun row mem differs => ?_⟩
      · rw [notHidden row differs]
        rfl
      · rcases List.mem_map.mp mem with ⟨before, there, rfl⟩
        have sameProblem : before.problemId ≠ problemId := by
          split at differs <;> exact differs
        rw [notHidden before sameProblem]
        exact there
  | deleteHidden problemId id =>
      rcases Prod.mk.inj (Option.some.inj ran) with ⟨-, rfl⟩
      refine ⟨fun row mem differs => List.mem_filter.mpr ⟨mem, ?_⟩,
        fun row mem _ => (List.mem_filter.mp mem).1⟩
      have differs : row.problemId ≠ problemId := differs
      simp [TestcaseRow.isHidden, differs]
  | deleteSamples problemId | deleteAll problemId =>
      rcases Prod.mk.inj (Option.some.inj ran) with ⟨-, rfl⟩
      refine ⟨fun row mem differs => List.mem_filter.mpr ⟨mem, ?_⟩,
        fun row mem _ => (List.mem_filter.mp mem).1⟩
      have differs : row.problemId ≠ problemId := differs
      simp [differs]

end Db

end OnlineJudge
