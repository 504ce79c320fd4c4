import OnlineJudge.Db.Statement
import OnlineJudge.Library.Relational

/-!
# The ledger of accepted tasks

An accepted task is a row of the table of in-flight tasks, then either a submission that
settles it, or, if it was interrupted and its problem deleted, a purged row. The ledger
is exact when for every task identifier these add up to the number of its acceptances.

Between the statements of a transaction it need not be: a settlement deletes the row
before it inserts the submission, and the deletion of a problem purges rows before it
deletes the problem. What is owed in between is part of the invariant.
-/

namespace OnlineJudge

namespace Db

namespace InFlightTable

def rowsOf (table : InFlightTable) (taskId : TaskId) : ℕ :=
  table.rows.countP (·.taskId = taskId)

def purgedOf (table : InFlightTable) (taskId : TaskId) : ℕ :=
  table.purged.countP (·.taskId = taskId)

/-- How often a task has been accepted. -/
def acceptancesOf (table : InFlightTable) (taskId : TaskId) : ℕ := table.accepted.count taskId

theorem rowsOf_filter_ne (rows : List InFlightRow) (removed taskId : TaskId) :
    (rows.filter (·.taskId ≠ removed)).countP (·.taskId = taskId) =
      if taskId = removed then 0 else rows.countP (·.taskId = taskId) := by
  rw [List.countP_filter]
  split
  case isTrue same =>
    rw [List.countP_eq_zero]
    intro row _
    simp [same]
  case isFalse differs =>
    refine List.countP_congr fun row _ => ?_
    simp only [ne_eq, decide_not, Bool.and_eq_true, decide_eq_true_eq, Bool.not_eq_eq_eq_not,
      Bool.not_true, decide_eq_false_iff_not, and_iff_left_iff_imp]
    exact fun isTask isRemoved => differs (isTask.symm.trans isRemoved)

end InFlightTable

/-- A change of a row that keeps the task and the problem it belongs to. -/
structure KeepsTask (change : InFlightRow → InFlightRow) : Prop where
  taskId : ∀ row, (change row).taskId = row.taskId
  problemId : ∀ row, (change row).problemId = row.problemId

theorem interruptedFor_keepsTask (taskId : TaskId) (reason : Bytes) :
    KeepsTask (·.interruptedFor taskId reason) where
  taskId := fun row => by unfold InFlightRow.interruptedFor; split <;> rfl
  problemId := fun row => by unfold InFlightRow.interruptedFor; split <;> rfl

theorem claimedBy_keepsTask (id : ℤ) (owner : Bytes) : KeepsTask (·.claimedBy id owner) where
  taskId := fun row => by unfold InFlightRow.claimedBy; split <;> rfl
  problemId := fun row => by unfold InFlightRow.claimedBy; split <;> rfl

theorem unclaimed_keepsTask : KeepsTask (·.unclaimed) where
  taskId := fun row => by unfold InFlightRow.unclaimed; split <;> rfl
  problemId := fun row => by unfold InFlightRow.unclaimed; split <;> rfl

/-- Recovery interrupts no row, and revives none. -/
theorem claimedBy_interrupted (id : ℤ) (owner : Bytes) (row : InFlightRow) :
    (row.claimedBy id owner).state = .interrupted ↔ row.state = .interrupted := by
  unfold InFlightRow.claimedBy
  split
  case isTrue claimable =>
    simp only [InFlightRow.claimable, Bool.decide_and, Bool.and_eq_true,
      decide_eq_true_eq] at claimable
    simp [claimable.2]
  case isFalse => rfl

theorem unclaimed_interrupted (row : InFlightRow) :
    row.unclaimed.state = .interrupted ↔ row.state = .interrupted := by
  unfold InFlightRow.unclaimed
  split
  case isTrue claimed => simp [claimed]
  case isFalse => rfl

theorem InFlightTable.rowsOf_mapRows {table : InFlightTable}
    {change : InFlightRow → InFlightRow} (keeps : KeepsTask change) (taskId : TaskId) :
    (table.mapRows change).rowsOf taskId = table.rowsOf taskId := by
  simp only [rowsOf, mapRows, List.countP_map]
  refine List.countP_congr fun row _ => ?_
  simp [keeps.taskId row]

def SubmissionTable.settlementsOf (table : SubmissionTable) (taskId : TaskId) : ℕ :=
  table.rows.countP (·.settles = some taskId)

/-- What holds of the ledger after every single statement. -/
structure LedgerBasic (db : Db) : Prop where
  taskIds : (db.inFlight.rows.map (·.taskId)).Nodup
  problemIds : ∀ row ∈ db.problems.rows, row.id < db.problems.nextId
  rowProblems : ∀ row ∈ db.inFlight.rows, row.problemId < db.problems.nextId
  purgedProblems : ∀ row ∈ db.inFlight.purged, row.problemId < db.problems.nextId

/-- The ledger is exact but for the settlement of `owed` and the deletion of `deleting`. -/
structure LedgerExact (owed : Option TaskId) (deleting : Option ℤ) (db : Db) : Prop where
  balance : ∀ taskId,
    db.inFlight.rowsOf taskId + db.submissions.settlementsOf taskId +
        db.inFlight.purgedOf taskId + (if owed = some taskId then 1 else 0) =
      db.inFlight.acceptancesOf taskId
  purged : ∀ row ∈ db.inFlight.purged, row.state = .interrupted ∧
    (db.hasProblem row.problemId → deleting = some row.problemId)

theorem hasProblem_iff {db : Db} {id : ℤ} :
    db.hasProblem id ↔ ∃ row ∈ db.problems.rows, row.id = id := by
  simp [hasProblem]

theorem LedgerBasic.rowsOf_le_one {db : Db} (basic : db.LedgerBasic) (taskId : TaskId) :
    db.inFlight.rowsOf taskId ≤ 1 := by
  have counted :
      db.inFlight.rowsOf taskId = (db.inFlight.rows.map (·.taskId)).count taskId := by
    rw [InFlightTable.rowsOf, List.count, List.countP_map]
    exact List.countP_congr fun row _ => by simp
  rw [counted]
  exact List.nodup_iff_count_le_one.mp basic.taskIds taskId

/-- Every statement on the table of problems, and what it does to the identifiers in use. -/
theorem ProblemStmt.run_ids {stmt : ProblemStmt} {db : Db} {reply : stmt.Reply}
    {table : ProblemTable} (ran : stmt.run db = some (reply, table))
    (ids : ∀ row ∈ db.problems.rows, row.id < db.problems.nextId) :
    (∀ row ∈ table.rows, row.id < table.nextId) ∧ db.problems.nextId ≤ table.nextId ∧
      ∀ row ∈ table.rows, row.id < db.problems.nextId →
        ∃ before ∈ db.problems.rows, before.id = row.id := by
  cases stmt with
  | findById id =>
      rcases Option.some.inj ran with ⟨⟩
      exact ⟨ids, le_rfl, fun row mem _ => ⟨row, mem, rfl⟩⟩
  | insert columns now =>
      rcases Option.some.inj ran with ⟨⟩
      refine ⟨?_, by dsimp only; omega, ?_⟩
      · intro other mem
        rcases List.mem_append.mp mem with mem | mem
        · have := ids other mem
          dsimp only
          omega
        · rw [List.mem_singleton.mp mem]
          dsimp only [ProblemColumns.row]
          omega
      · intro other mem old
        rcases List.mem_append.mp mem with mem | mem
        · exact ⟨other, mem, rfl⟩
        · rw [List.mem_singleton.mp mem] at old
          exact absurd old (lt_irrefl _)
  | update id columns now =>
      rcases Option.some.inj ran with ⟨⟩
      have keeps : ∀ other ∈ db.problems.rows.map
          (fun row => if row.id = id then row.updated columns now else row),
          ∃ before ∈ db.problems.rows, before.id = other.id := by
        intro other mem
        rcases List.mem_map.mp mem with ⟨before, stored, rfl⟩
        refine ⟨before, stored, ?_⟩
        split <;> rfl
      refine ⟨fun other mem => ?_, le_rfl, fun other mem _ => keeps other mem⟩
      rcases keeps other mem with ⟨before, mem, same⟩
      exact same ▸ ids before mem
  | delete id =>
      simp only [ProblemStmt.run, Option.ite_none_left_eq_some, Option.some.injEq,
        Prod.mk.injEq] at ran
      rcases ran with ⟨-, -, rfl⟩
      exact ⟨fun row mem => ids row (List.mem_of_mem_filter mem), le_rfl,
        fun row mem _ => ⟨row, List.mem_of_mem_filter mem, rfl⟩⟩

theorem ProblemStmt.run_keys {own : ProblemStmt} {db : Db} {answer : own.Reply}
    {table : ProblemTable} (ran : own.run db = some (answer, table))
    (keys : (db.problems.rows.map (·.id)).Nodup)
    (ids : ∀ row ∈ db.problems.rows, row.id < db.problems.nextId) :
    (table.rows.map (·.id)).Nodup := by
  cases own with
  | findById id =>
      rcases Option.some.inj ran with ⟨⟩
      exact keys
  | insert columns now =>
      rcases Option.some.inj ran with ⟨⟩
      exact (Library.keys_append_next keys ids rfl).1
  | update id columns now =>
      rcases Option.some.inj ran with ⟨⟩
      have same : (db.problems.rows.map fun row =>
          if row.id = id then row.updated columns now else row).map (·.id) =
            db.problems.rows.map (·.id) := by
        rw [List.map_map]
        apply List.map_congr_left
        intro row _
        simp only [Function.comp_apply]
        split <;> rfl
      exact same ▸ keys
  | delete id =>
      simp only [ProblemStmt.run, Option.ite_none_left_eq_some, Option.some.injEq,
        Prod.mk.injEq] at ran
      rw [← ran.2.2]
      exact keys.sublist (List.filter_sublist.map _)

theorem LedgerBasic.mapRows {db : Db} (basic : db.LedgerBasic) {change : InFlightRow → InFlightRow}
    (keeps : KeepsTask change) :
    LedgerBasic { db with inFlight := db.inFlight.mapRows change } := by
  refine ⟨?_, basic.problemIds, ?_, basic.purgedProblems⟩
  · have same : (·.taskId) ∘ change = fun row : InFlightRow => row.taskId :=
      funext keeps.taskId
    simp only [InFlightTable.mapRows, List.map_map, same]
    exact basic.taskIds
  · intro row mem
    rcases List.mem_map.mp mem with ⟨before, stored, rfl⟩
    exact keeps.problemId before ▸ basic.rowProblems before stored

theorem LedgerBasic.filterRows {db : Db} (basic : db.LedgerBasic) (keep : InFlightRow → Bool)
    (purged : List InFlightRow)
    (known : ∀ row ∈ purged, row ∈ db.inFlight.purged ∨ row ∈ db.inFlight.rows) :
    LedgerBasic
      { db with
        inFlight :=
          { db.inFlight with rows := db.inFlight.rows.filter keep, purged := purged } } := by
  refine ⟨?_, basic.problemIds, ?_, ?_⟩
  · exact basic.taskIds.sublist (List.filter_sublist.map _)
  · intro row mem
    exact basic.rowProblems row (List.mem_of_mem_filter mem)
  · intro row mem
    rcases known row mem with stored | stored
    · exact basic.purgedProblems row stored
    · exact basic.rowProblems row stored

/-- Every statement on the table of in-flight tasks keeps what the ledger needs of it. -/
theorem InFlightStmt.run_basic {stmt : InFlightStmt} {db : Db} {reply : stmt.Reply}
    {table : InFlightTable} (ran : stmt.run db = some (reply, table))
    (basic : db.LedgerBasic) :
    LedgerBasic { db with inFlight := table } ∧ db.inFlight.accepted <+: table.accepted := by
  cases stmt with
  | insert taskId userId problemId language sourceCode submittedAt =>
      simp only [InFlightStmt.run] at ran
      split at ran
      case isTrue taken =>
        rcases Option.some.inj ran with ⟨⟩
        exact ⟨basic, List.prefix_rfl⟩
      case isFalse free =>
        split at ran
        case isFalse => cases ran
        case isTrue referenced =>
          rcases Option.some.inj ran with ⟨⟩
          refine ⟨⟨?_, basic.problemIds, ?_, basic.purgedProblems⟩, List.prefix_append _ _⟩
          · apply Library.keys_append basic.taskIds
            intro row stored same
            exact free (List.any_eq_true.mpr ⟨row, stored, by simpa using same⟩)
          · intro row mem
            rcases List.mem_append.mp mem with mem | mem
            · exact basic.rowProblems row mem
            · rcases hasProblem_iff.mp referenced.2 with ⟨problem, stored, same⟩
              rw [List.mem_singleton.mp mem]
              exact same ▸ basic.problemIds problem stored
  | removeByTaskId taskId =>
      rcases Option.some.inj ran with ⟨⟩
      exact ⟨basic.filterRows _ _ fun row mem => Or.inl mem, List.prefix_rfl⟩
  | markInterrupted taskId reason =>
      rcases Option.some.inj ran with ⟨⟩
      exact ⟨basic.mapRows (interruptedFor_keepsTask taskId reason), List.prefix_rfl⟩
  | listPending limit =>
      rcases Option.some.inj ran with ⟨⟩
      exact ⟨basic, List.prefix_rfl⟩
  | claim id owner =>
      rcases Option.some.inj ran with ⟨⟩
      exact ⟨basic.mapRows (claimedBy_keepsTask id owner), List.prefix_rfl⟩
  | resetStaleClaims =>
      rcases Option.some.inj ran with ⟨⟩
      exact ⟨basic.mapRows unclaimed_keepsTask, List.prefix_rfl⟩
  | countForProblem problemId =>
      rcases Option.some.inj ran with ⟨⟩
      exact ⟨basic, List.prefix_rfl⟩
  | deleteForProblem problemId =>
      rcases Option.some.inj ran with ⟨⟩
      refine ⟨basic.filterRows _ _ fun row mem => ?_, List.prefix_rfl⟩
      rcases List.mem_append.mp mem with mem | mem
      · exact Or.inl mem
      · exact Or.inr (List.mem_of_mem_filter mem)

section Execution

variable {stmt : Stmt} {before after : Db} {reply : Reply stmt}

/-- The ledger is basic at all times, and no acceptance is forgotten. -/
theorem LedgerBasic.execute (basic : before.LedgerBasic)
    (executed : execute stmt before = some (reply, after)) :
    after.LedgerBasic ∧ before.inFlight.accepted <+: after.inFlight.accepted := by
  rcases inFlight_of_execute executed with sameRows | ⟨own, answer, isInFlight, ran⟩
  · rcases problems_of_execute executed with sameProblems | ⟨own, answer, -, ran⟩
    · refine ⟨⟨?_, ?_, ?_, ?_⟩, ?_⟩
      · exact sameRows ▸ basic.taskIds
      · exact sameProblems ▸ basic.problemIds
      · rw [sameRows, sameProblems]
        exact basic.rowProblems
      · rw [sameRows, sameProblems]
        exact basic.purgedProblems
      · rw [sameRows]
    · rcases ProblemStmt.run_ids ran basic.problemIds with ⟨ids, grows, -⟩
      refine ⟨⟨sameRows ▸ basic.taskIds, ids, ?_, ?_⟩, by rw [sameRows]⟩
      · rw [sameRows]
        exact fun row mem => lt_of_lt_of_le (basic.rowProblems row mem) grows
      · rw [sameRows]
        exact fun row mem => lt_of_lt_of_le (basic.purgedProblems row mem) grows
  · have sameProblems : after.problems = before.problems := by
      rcases problems_of_execute executed with same | ⟨other, _, isProblem, -⟩
      · exact same
      · rw [isInFlight] at isProblem
        cases isProblem
    rcases InFlightStmt.run_basic ran basic with ⟨⟨taskIds, -, rows, purged⟩, grows⟩
    exact ⟨⟨taskIds, sameProblems ▸ basic.problemIds, sameProblems ▸ rows,
      sameProblems ▸ purged⟩, grows⟩

variable {owed : Option TaskId} {deleting : Option ℤ}

/-- The ledger depends on the rows of each task, the settlements, the purged rows, the
acceptances and the problems only. -/
theorem LedgerExact.congr (ledger : before.LedgerExact owed deleting)
    (rows : ∀ taskId, after.inFlight.rowsOf taskId = before.inFlight.rowsOf taskId)
    (settlements : ∀ taskId,
      after.submissions.settlementsOf taskId = before.submissions.settlementsOf taskId)
    (purged : after.inFlight.purged = before.inFlight.purged)
    (accepted : after.inFlight.accepted = before.inFlight.accepted)
    (problems : ∀ row ∈ before.inFlight.purged, after.hasProblem row.problemId →
      before.hasProblem row.problemId) :
    after.LedgerExact owed deleting where
  balance := by
    intro taskId
    have balance := ledger.balance taskId
    simp only [InFlightTable.purgedOf, InFlightTable.acceptancesOf] at balance ⊢
    rw [rows, settlements, purged, accepted]
    exact balance
  purged := by
    rw [purged]
    exact fun row mem =>
      ⟨(ledger.purged row mem).1, fun has => (ledger.purged row mem).2 (problems row mem has)⟩

theorem LedgerExact.mapRows (ledger : before.LedgerExact owed deleting)
    {change : InFlightRow → InFlightRow} (keeps : KeepsTask change) :
    LedgerExact owed deleting { before with inFlight := before.inFlight.mapRows change } :=
  ledger.congr (InFlightTable.rowsOf_mapRows keeps) (fun _ => rfl) rfl rfl fun _ _ has => has

theorem LedgerExact.insertInFlight (ledger : before.LedgerExact owed deleting)
    (row : InFlightRow) (nextId : ℤ) :
    LedgerExact owed deleting
      { before with
        inFlight :=
          { before.inFlight with
            rows := before.inFlight.rows ++ [row]
            nextId := nextId
            accepted := before.inFlight.accepted ++ [row.taskId] } } where
  balance := by
    intro taskId
    have balance := ledger.balance taskId
    simp only [InFlightTable.rowsOf, InFlightTable.purgedOf, InFlightTable.acceptancesOf,
      List.countP_append, List.count_append, List.countP_singleton, List.count_singleton,
      beq_iff_eq, decide_eq_true_eq] at balance ⊢
    omega
  purged := ledger.purged

/-- Deleting the row of a task leaves its settlement owed. -/
theorem LedgerExact.remove (ledger : before.LedgerExact none deleting)
    (basic : before.LedgerBasic) {taskId : TaskId}
    (found : before.inFlight.rows.any (·.taskId = taskId) = true) :
    LedgerExact (some taskId) deleting
      { before with
        inFlight :=
          { before.inFlight with
            rows := before.inFlight.rows.filter (·.taskId ≠ taskId) } } where
  balance := by
    intro other
    have balance := ledger.balance other
    have single : before.inFlight.rowsOf taskId = 1 := by
      refine le_antisymm (basic.rowsOf_le_one taskId) ?_
      rcases List.any_eq_true.mp found with ⟨row, mem, isTask⟩
      exact List.countP_pos_iff.mpr ⟨row, mem, isTask⟩
    simp only [InFlightTable.rowsOf, InFlightTable.purgedOf,
      InFlightTable.acceptancesOf] at balance single ⊢
    rw [InFlightTable.rowsOf_filter_ne]
    by_cases same : other = taskId
    · subst same
      simp only [↓reduceIte, reduceCtorEq] at balance ⊢
      omega
    · have differs : (some taskId : Option TaskId) ≠ some other :=
        fun isSame => same (Option.some.inj isSame).symm
      simp only [same, differs, ↓reduceIte, reduceCtorEq] at balance ⊢
      exact balance
  purged := ledger.purged

/-- The submission pays what is owed. -/
theorem LedgerExact.insertSubmission (ledger : before.LedgerExact owed deleting)
    (row : SubmissionRow) (settles : row.settles = owed) (nextId : ℤ) :
    LedgerExact none deleting
      { before with
        submissions := { rows := before.submissions.rows ++ [row], nextId := nextId } } where
  balance := by
    intro taskId
    have balance := ledger.balance taskId
    simp only [SubmissionTable.settlementsOf, List.countP_append, List.countP_singleton, settles,
      decide_eq_true_eq, reduceCtorEq, ↓reduceIte] at balance ⊢
    omega
  purged := ledger.purged

/-- Purging the rows of a problem whose tasks are all interrupted. -/
theorem LedgerExact.purge (ledger : before.LedgerExact owed none) {problemId : ℤ}
    (interrupted : ∀ row ∈ before.inFlight.rows, row.problemId = problemId →
      row.state = .interrupted) :
    LedgerExact owed (some problemId)
      { before with
        inFlight :=
          { before.inFlight with
            rows := before.inFlight.rows.filter (·.problemId ≠ problemId)
            purged := before.inFlight.purged ++
              before.inFlight.rows.filter (·.problemId = problemId) } } where
  balance := by
    intro taskId
    have balance := ledger.balance taskId
    have split : before.inFlight.rows.countP (·.taskId = taskId) =
        (before.inFlight.rows.filter (·.problemId ≠ problemId)).countP (·.taskId = taskId) +
          (before.inFlight.rows.filter (·.problemId = problemId)).countP
            (·.taskId = taskId) := by
      rw [List.countP_eq_countP_filter_add before.inFlight.rows _ (·.problemId ≠ problemId)]
      simp
    simp only [InFlightTable.rowsOf, InFlightTable.purgedOf, InFlightTable.acceptancesOf,
      List.countP_append] at balance ⊢
    omega
  purged := by
    intro row mem
    rcases List.mem_append.mp mem with mem | mem
    · have was := ledger.purged row mem
      exact ⟨was.1, fun has => absurd (was.2 has) (by simp)⟩
    · rcases List.mem_filter.mp mem with ⟨stored, isProblem⟩
      simp only [decide_eq_true_eq] at isProblem
      exact ⟨interrupted row stored isProblem, fun _ => congrArg some isProblem.symm⟩

/-- Deleting the problem ends the deletion. -/
theorem LedgerExact.deleteProblem {problemId : ℤ}
    (ledger : before.LedgerExact owed (some problemId)) (nextId : ℤ) :
    LedgerExact owed none
      { before with
        problems :=
          { rows := before.problems.rows.filter (·.id ≠ problemId), nextId := nextId } } where
  balance := ledger.balance
  purged := by
    intro row mem
    have was := ledger.purged row mem
    refine ⟨was.1, fun has => ?_⟩
    rcases hasProblem_iff.mp has with ⟨problem, stored, same⟩
    rcases List.mem_filter.mp stored with ⟨stored, differs⟩
    simp only [ne_eq, decide_not, Bool.not_eq_eq_eq_not, Bool.not_true,
      decide_eq_false_iff_not] at differs
    have isDeleting := was.2 (hasProblem_iff.mpr ⟨problem, stored, same⟩)
    exact absurd (same.trans (Option.some.inj isDeleting).symm) differs

theorem LedgerExact.problems (ledger : before.LedgerExact owed deleting)
    (basic : before.LedgerBasic) {own : ProblemStmt} {answer : own.Reply}
    {table : ProblemTable} (ran : own.run before = some (answer, table)) :
    LedgerExact owed deleting { before with problems := table } := by
  refine ledger.congr (fun _ => rfl) (fun _ => rfl) rfl rfl fun row mem has => ?_
  rcases hasProblem_iff.mp has with ⟨problem, stored, same⟩
  rcases ProblemStmt.run_ids ran basic.problemIds with ⟨-, -, known⟩
  rcases known problem stored (same ▸ basic.purgedProblems row mem) with ⟨old, oldStored, isSame⟩
  exact hasProblem_iff.mpr ⟨old, oldStored, isSame.trans same⟩

theorem insertInFlight_row {taskId : TaskId} {userId problemId : ℤ}
    {language sourceCode submittedAt : Bytes} {newId : ℤ}
    (executed : Db.execute
      (.inFlight (.insert taskId userId problemId language sourceCode submittedAt)) before =
        some (.row newId, after)) :
    ∃ row : InFlightRow, row.taskId = taskId ∧
      after =
        { before with
          inFlight :=
            { before.inFlight with
              rows := before.inFlight.rows ++ [row]
              nextId := before.inFlight.nextId + 1
              accepted := before.inFlight.accepted ++ [row.taskId] } } := by
  simp only [Db.execute, InFlightStmt.run] at executed
  split at executed
  · cases executed
  · split at executed
    · rcases Option.some.inj executed with ⟨⟩
      exact ⟨_, rfl, rfl⟩
    · cases executed

theorem insertInFlight_taken {taskId : TaskId} {userId problemId : ℤ}
    {language sourceCode submittedAt : Bytes}
    (executed : Db.execute
      (.inFlight (.insert taskId userId problemId language sourceCode submittedAt)) before =
        some (.taskIdTaken, after)) : after = before := by
  simp only [Db.execute, InFlightStmt.run] at executed
  split at executed
  · rcases Option.some.inj executed with ⟨⟩
    rfl
  · split at executed <;> cases executed

theorem insertSubmission_row {record : SubmissionRecord} {settles : Option TaskId} {newId : ℤ}
    (executed : Db.execute (.submissions (.insert record settles)) before =
      some (newId, after)) :
    newId = before.submissions.nextId ∧
      after =
        { before with
          submissions :=
            { rows := before.submissions.rows ++
                [{ record with id := before.submissions.nextId, settles := settles }]
              nextId := before.submissions.nextId + 1 } } := by
  simp only [Db.execute, SubmissionStmt.run] at executed
  split at executed
  · rcases Option.some.inj executed with ⟨⟩
    exact ⟨rfl, rfl⟩
  · cases executed

theorem LedgerExact.of_statuses (own : StatusStmt) {answer : Reply (.statuses own)}
    (ledger : before.LedgerExact owed deleting)
    (executed : Db.execute (.statuses own) before = some (answer, after)) :
    after.LedgerExact owed deleting := by
  cases Executed.of_execute executed
  exact ⟨ledger.balance, ledger.purged⟩

end Execution

end Db

end OnlineJudge
