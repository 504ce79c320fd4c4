import OnlineJudge.Db.Statement
import OnlineJudge.Library.Relational

/-!
# The status of a problem as a function of the submissions

What the table of statuses should say about a user and a problem is a function of their
submissions: `SubmissionTable.summaryOf`. The statuses are exact when the stored rows
agree with it for every user and problem. The lemmas here say how the two sides of that
equation change with each statement.
-/

namespace OnlineJudge

namespace Db

open Judge

/-- The text of a time as the clock and the requests give it. -/
def IsTimestamp (time : Bytes) : Prop := time ≠ [] ∧ 0 ∉ time

instance : DecidablePred IsTimestamp := fun time =>
  inferInstanceAs (Decidable (time ≠ [] ∧ 0 ∉ time))

section Earliest

@[simp]
theorem earliest_append (times : List Bytes) (time : Bytes) :
    earliest (times ++ [time]) = earlier (earliest times) time := by
  simp [earliest]

/-- `MIN` is a stored value, and no stored value is smaller. -/
theorem earliest_spec (times : List Bytes) :
    (earliest times = none ↔ times = []) ∧
      ∀ best, earliest times = some best → best ∈ times ∧ ∀ time ∈ times, ¬time < best := by
  induction times using List.reverseRecOn with
  | nil => exact ⟨by simp [earliest], by simp [earliest]⟩
  | append_singleton times time ih =>
      rw [earliest_append]
      cases found : earliest times with
      | none =>
          have empty : times = [] := ih.1.mp found
          subst empty
          simp [earlier]
      | some earlierBest =>
          rcases ih.2 earlierBest found with ⟨mem, least⟩
          simp only [earlier]
          split
          case isTrue smaller =>
            refine ⟨by simp, ?_⟩
            rintro best ⟨⟩
            refine ⟨by simp, fun other otherMem => ?_⟩
            rcases List.mem_append.mp otherMem with otherMem | otherMem
            · exact fun lower => least other otherMem (List.lt_trans lower smaller)
            · rw [List.mem_singleton.mp otherMem]
              exact List.lt_irrefl time
          case isFalse notSmaller =>
            refine ⟨by simp, ?_⟩
            rintro best ⟨⟩
            refine ⟨List.mem_append_left _ mem, fun other otherMem => ?_⟩
            rcases List.mem_append.mp otherMem with otherMem | otherMem
            · exact least other otherMem
            · rw [List.mem_singleton.mp otherMem]
              exact notSmaller

theorem earliest_eq_some_iff {times : List Bytes} {best : Bytes} :
    earliest times = some best ↔ best ∈ times ∧ ∀ time ∈ times, ¬time < best := by
  refine ⟨(earliest_spec times).2 best, fun ⟨mem, least⟩ => ?_⟩
  cases found : earliest times with
  | none =>
      rw [(earliest_spec times).1.mp found] at mem
      cases mem
  | some other =>
      rcases (earliest_spec times).2 other found with ⟨otherMem, otherLeast⟩
      rw [List.le_antisymm (otherLeast best mem) (least other otherMem)]

theorem earliest_perm {times reordered : List Bytes} (perm : times.Perm reordered) :
    earliest times = earliest reordered := by
  refine Option.ext fun best => ?_
  simp only [earliest_eq_some_iff, perm.mem_iff]

end Earliest

@[simp]
theorem SubmissionRow.updated_id (row : SubmissionRow) (record : SubmissionRecord) :
    (row.updated record).id = row.id := by
  unfold SubmissionRow.updated
  split <;> rfl

@[simp]
theorem SubmissionRow.updated_userId (row : SubmissionRow) (record : SubmissionRecord) :
    (row.updated record).userId = row.userId := by
  unfold SubmissionRow.updated
  split <;> rfl

@[simp]
theorem SubmissionRow.updated_problemId (row : SubmissionRow) (record : SubmissionRecord) :
    (row.updated record).problemId = row.problemId := by
  unfold SubmissionRow.updated
  split <;> rfl

@[simp]
theorem SubmissionRow.updated_createdAt (row : SubmissionRow) (record : SubmissionRecord) :
    (row.updated record).createdAt = row.createdAt := by
  unfold SubmissionRow.updated
  split <;> rfl

theorem SubmissionRow.updated_of_ne {row : SubmissionRow} {record : SubmissionRecord}
    (differs : row.id ≠ record.id) : row.updated record = row := if_neg differs

namespace SubmissionTable

/-- The status that the submissions of a user to a problem amount to. -/
def summaryOf (table : SubmissionTable) (userId problemId : ℤ) : Option StatusRow :=
  if table.ofUser userId problemId = [] then none
  else
    some
      { userId := userId
        problemId := problemId
        accepted := (table.ofUser userId problemId).any (·.status = .AC)
        firstAcAt := earliest (table.acceptedTimes userId problemId)
        submitCount := (table.ofUser userId problemId).length }

theorem summaryOf_perm {table reordered : SubmissionTable}
    (perm : table.rows.Perm reordered.rows) (userId problemId : ℤ) :
    table.summaryOf userId problemId = reordered.summaryOf userId problemId := by
  have ofUser : (table.ofUser userId problemId).Perm (reordered.ofUser userId problemId) :=
    perm.filter _
  have times : earliest (table.acceptedTimes userId problemId) =
      earliest (reordered.acceptedTimes userId problemId) :=
    earliest_perm ((ofUser.filter _).map _)
  have empty : table.ofUser userId problemId = [] ↔ reordered.ofUser userId problemId = [] := by
    rw [← List.length_eq_zero_iff, ← List.length_eq_zero_iff, ofUser.length_eq]
  simp only [summaryOf, empty, times, ofUser.any_eq, ofUser.length_eq]

/-- A status is accepted exactly when it has a time of acceptance. -/
theorem any_accepted (table : SubmissionTable) (userId problemId : ℤ) :
    (table.ofUser userId problemId).any (·.status = .AC) =
      (earliest (table.acceptedTimes userId problemId)).isSome := by
  rw [Bool.eq_iff_iff]
  constructor
  · intro accepted
    rcases List.any_eq_true.mp accepted with ⟨row, mem, isAccepted⟩
    rw [Option.isSome_iff_ne_none]
    intro none
    have empty := (earliest_spec _).1.mp none
    rw [acceptedTimes, List.map_eq_nil_iff, List.filter_eq_nil_iff] at empty
    exact empty row mem isAccepted
  · intro some
    rcases Option.isSome_iff_exists.mp some with ⟨best, found⟩
    rcases List.mem_map.mp ((earliest_spec _).2 best found).1 with ⟨row, mem, -⟩
    rcases List.mem_filter.mp mem with ⟨mem, isAccepted⟩
    exact List.any_eq_true.mpr ⟨row, mem, isAccepted⟩

theorem ofUser_append (table : SubmissionTable) (row : SubmissionRow) (nextId : ℤ)
    (userId problemId : ℤ) :
    ofUser { rows := table.rows ++ [row], nextId := nextId } userId problemId =
      table.ofUser userId problemId ++
        if row.userId = userId ∧ row.problemId = problemId then [row] else [] := by
  simp only [ofUser, List.filter_append, List.filter_cons, List.filter_nil, decide_eq_true_eq]

/-- A new submission changes nothing for other users and problems. -/
theorem summaryOf_append_of_ne (table : SubmissionTable) {row : SubmissionRow} {nextId : ℤ}
    {userId problemId : ℤ} (differs : ¬(userId = row.userId ∧ problemId = row.problemId)) :
    summaryOf { rows := table.rows ++ [row], nextId := nextId } userId problemId =
      table.summaryOf userId problemId := by
  have other : ¬(row.userId = userId ∧ row.problemId = problemId) :=
    fun same => differs ⟨same.1.symm, same.2.symm⟩
  simp only [summaryOf, acceptedTimes, ofUser_append, if_neg other, List.append_nil]

theorem ofUser_update (table : SubmissionTable) (record : SubmissionRecord)
    (userId problemId : ℤ) :
    ofUser { table with rows := table.rows.map (·.updated record) } userId problemId =
      (table.ofUser userId problemId).map (·.updated record) := by
  simp only [ofUser, List.filter_map, Function.comp_def, SubmissionRow.updated_userId,
    SubmissionRow.updated_problemId]

/-- An update changes nothing for other users and problems than those of the submission. -/
theorem summaryOf_update_of_ne (table : SubmissionTable) {record : SubmissionRecord}
    {userId problemId : ℤ}
    (others : ∀ row ∈ table.ofUser userId problemId, row.id ≠ record.id) :
    summaryOf { table with rows := table.rows.map (·.updated record) } userId problemId =
      table.summaryOf userId problemId := by
  have same : ofUser { table with rows := table.rows.map (·.updated record) } userId problemId =
      table.ofUser userId problemId := by
    rw [ofUser_update]
    exact (List.map_congr_left fun row mem =>
      SubmissionRow.updated_of_ne (others row mem)).trans (List.map_id _)
  simp only [summaryOf, acceptedTimes, same]

end SubmissionTable

theorem earliest_isTimestamp {table : SubmissionTable}
    (times : ∀ row ∈ table.rows, IsTimestamp row.createdAt)
    {userId problemId : ℤ} {best : Bytes}
    (found : earliest (table.acceptedTimes userId problemId) = some best) : IsTimestamp best := by
  rcases List.mem_map.mp ((earliest_spec _).2 best found).1 with ⟨row, mem, rfl⟩
  exact times row (List.mem_of_mem_filter (List.mem_of_mem_filter mem))

/-- The submission `id` is stored, and belongs to the user and the problem. -/
def HasSubmission (db : Db) (id userId problemId : ℤ) : Prop :=
  ∃ row ∈ db.submissions.rows, row.id = id ∧ row.userId = userId ∧ row.problemId = problemId

/-- No submission is forgotten, and none changes its user or its problem. -/
def KeepsSubmissions (before after : Db) : Prop :=
  ∀ id userId problemId, before.HasSubmission id userId problemId →
    after.HasSubmission id userId problemId

/-- The user and the problem that a status is about. -/
def StatusRow.key (row : StatusRow) : ℤ × ℤ := (row.userId, row.problemId)

/-- What holds of the two tables after every single statement. -/
structure StatusBasic (db : Db) : Prop where
  submissionIds : (db.submissions.rows.map (·.id)).Nodup
  submissionNext : ∀ row ∈ db.submissions.rows, row.id < db.submissions.nextId
  times : ∀ row ∈ db.submissions.rows, IsTimestamp row.createdAt
  statusKeys : (db.statuses.map StatusRow.key).Nodup

/-- Every status is what the submissions amount to. -/
def StatusExact (db : Db) : Prop :=
  ∀ userId problemId, db.statusOf userId problemId = db.submissions.summaryOf userId problemId

/-- A submission is inserted with a proper time. -/
def InsertsTimestamp : Stmt → Prop
  | .submissions (.insert record _) => IsTimestamp record.createdAt
  | _ => True

theorem StatusBasic.submission_unique {db : Db} (basic : db.StatusBasic)
    {first second : SubmissionRow}
    (firstMem : first ∈ db.submissions.rows) (secondMem : second ∈ db.submissions.rows)
    (same : first.id = second.id) : first = second :=
  List.inj_on_of_nodup_map basic.submissionIds firstMem secondMem same

theorem HasSubmission.of_find {db : Db} {id : ℤ} {record : SubmissionRecord}
    (found : (db.submissions.rows.find? (·.id = id)).map (·.toSubmissionRecord.load) =
      some record) : record.id = id ∧ db.HasSubmission id record.userId record.problemId := by
  rcases Option.map_eq_some_iff.mp found with ⟨row, isFound, rfl⟩
  have isId : row.id = id := by simpa using List.find?_some isFound
  exact ⟨isId, row, List.mem_of_find?_eq_some isFound, isId, rfl, rfl⟩

theorem StatusBasic.owner_unique {db : Db} (basic : db.StatusBasic)
    {id userId problemId otherUser otherProblem : ℤ}
    (first : db.HasSubmission id userId problemId)
    (second : db.HasSubmission id otherUser otherProblem) :
    userId = otherUser ∧ problemId = otherProblem := by
  rcases first with ⟨row, mem, isId, rfl, rfl⟩
  rcases second with ⟨other, otherMem, otherId, rfl, rfl⟩
  rw [basic.submission_unique mem otherMem (isId.trans otherId.symm)]
  exact ⟨rfl, rfl⟩

section Execution

variable {stmt : Stmt} {before after : Db} {reply : Reply stmt}

private theorem keepsSubmissions_of_eq (same : after.submissions = before.submissions) :
    KeepsSubmissions before after := by
  intro id userId problemId has
  rw [HasSubmission, same]
  exact has

private theorem SubmissionStmt.run_basic {own : SubmissionStmt} {db : Db} {answer : own.Reply}
    {table : SubmissionTable} (ran : own.run db = some (answer, table))
    (timestamp : InsertsTimestamp (.submissions own)) (basic : db.StatusBasic) :
    StatusBasic { db with submissions := table } ∧
      KeepsSubmissions db { db with submissions := table } := by
  cases own with
  | insert record settles =>
      simp only [SubmissionStmt.run, Option.ite_none_right_eq_some, Option.some.injEq,
        Prod.mk.injEq] at ran
      rcases ran with ⟨-, -, rfl⟩
      refine ⟨⟨?_, ?_, ?_, basic.statusKeys⟩, ?_⟩
      · exact (Library.keys_append_next basic.submissionIds basic.submissionNext rfl).1
      · exact (Library.keys_append_next basic.submissionIds basic.submissionNext rfl).2
      · intro row mem
        rcases List.mem_append.mp mem with mem | mem
        · exact basic.times row mem
        · rw [List.mem_singleton.mp mem]
          exact timestamp
      · rintro id userId problemId ⟨row, mem, isRow⟩
        exact ⟨row, List.mem_append_left _ mem, isRow⟩
  | update record =>
      rcases Option.some.inj ran with ⟨⟩
      refine ⟨⟨?_, ?_, ?_, basic.statusKeys⟩, ?_⟩
      · simp only [List.map_map, Function.comp_def, SubmissionRow.updated_id]
        exact basic.submissionIds
      · intro row mem
        rcases List.mem_map.mp mem with ⟨old, stored, rfl⟩
        rw [SubmissionRow.updated_id]
        exact basic.submissionNext old stored
      · intro row mem
        rcases List.mem_map.mp mem with ⟨old, stored, rfl⟩
        rw [SubmissionRow.updated_createdAt]
        exact basic.times old stored
      · rintro id userId problemId ⟨row, mem, isRow⟩
        exact ⟨row.updated record, List.mem_map_of_mem mem, by simpa using isRow⟩
  | findById | countForProblem | countFor | minAcceptedAt =>
      rcases Option.some.inj ran with ⟨⟩
      exact ⟨basic, keepsSubmissions_of_eq rfl⟩

@[simp]
theorem StatusRow.isFor_iff {row : StatusRow} {userId problemId : ℤ} :
    row.isFor userId problemId ↔ row.userId = userId ∧ row.problemId = problemId := by
  simp [StatusRow.isFor]

/-- A row is the status of its user and problem. -/
theorem StatusBasic.statusOf_of_mem {db : Db} (basic : db.StatusBasic) {row : StatusRow}
    {userId problemId : ℤ} (mem : row ∈ db.statuses) (isFor : row.key = (userId, problemId)) :
    db.statusOf userId problemId = some row := by
  rcases Prod.mk.inj isFor with ⟨isUser, isProblem⟩
  have found : (db.statuses.find? (·.isFor userId problemId)).isSome :=
    List.find?_isSome.mpr ⟨row, mem, StatusRow.isFor_iff.mpr ⟨isUser, isProblem⟩⟩
  rcases Option.isSome_iff_exists.mp found with ⟨first, isFirst⟩
  have firstFor : first.userId = userId ∧ first.problemId = problemId := by
    simpa using List.find?_some isFirst
  have same : first.key = row.key := by rw [isFor, StatusRow.key, firstFor.1, firstFor.2]
  rw [statusOf, isFirst, List.inj_on_of_nodup_map basic.statusKeys
    (List.mem_of_find?_eq_some isFirst) mem same]

/-- An upsert leaves the new row for its user and problem, and the old ones elsewhere. -/
theorem upsertStatus_find {db : Db} {row : StatusRow} {rows : List StatusRow}
    (upserted : db.upsertStatus row = some rows) (userId problemId : ℤ) :
    rows.find? (·.isFor userId problemId) =
      if userId = row.userId ∧ problemId = row.problemId then some row
      else db.statusOf userId problemId := by
  unfold upsertStatus at upserted
  split at upserted
  case isTrue stored =>
    rcases Option.some.inj upserted with rfl
    have selects : ((·.isFor userId problemId) ∘
        fun old : StatusRow => if old.isFor row.userId row.problemId then row else old) =
          (·.isFor userId problemId) := by
      funext old
      simp only [Function.comp_apply]
      split
      case isTrue replaced =>
        rw [Bool.eq_iff_iff, StatusRow.isFor_iff, StatusRow.isFor_iff]
        rw [StatusRow.isFor_iff] at replaced
        rw [replaced.1, replaced.2]
      case isFalse => rfl
    rw [List.find?_map, selects]
    split
    case isTrue isRow =>
      rcases isRow with ⟨rfl, rfl⟩
      rcases List.any_eq_true.mp stored with ⟨old, mem, isFor⟩
      have found : (db.statuses.find? (·.isFor row.userId row.problemId)).isSome :=
        List.find?_isSome.mpr ⟨old, mem, isFor⟩
      rcases Option.isSome_iff_exists.mp found with ⟨first, isFirst⟩
      have firstFor : first.isFor row.userId row.problemId := by
        simpa using List.find?_some isFirst
      rw [isFirst, Option.map_some, if_pos firstFor]
    case isFalse differs =>
      rw [statusOf]
      cases found : db.statuses.find? (·.isFor userId problemId) with
      | none => rfl
      | some old =>
          have isFor : old.userId = userId ∧ old.problemId = problemId := by
            simpa using List.find?_some found
          have keeps : ¬old.isFor row.userId row.problemId := by
            rw [StatusRow.isFor_iff]
            exact fun same => differs ⟨isFor.1.symm.trans same.1, isFor.2.symm.trans same.2⟩
          rw [Option.map_some, if_neg keeps]
  case isFalse missing =>
    rw [Option.ite_none_right_eq_some] at upserted
    rcases upserted with ⟨-, ⟨⟩⟩
    rw [List.find?_append]
    split
    case isTrue isRow =>
      rcases isRow with ⟨rfl, rfl⟩
      have none : db.statuses.find? (·.isFor row.userId row.problemId) = none := by
        rw [List.find?_eq_none]
        exact fun old mem isFor => missing (List.any_eq_true.mpr ⟨old, mem, isFor⟩)
      simp [none]
    case isFalse differs =>
      have notRow : ¬(row.userId = userId ∧ row.problemId = problemId) :=
        fun same => differs ⟨same.1.symm, same.2.symm⟩
      simp [statusOf, notRow]

private theorem upsertStatus_keys {db : Db} {row : StatusRow} {rows : List StatusRow}
    (upserted : db.upsertStatus row = some rows) (keys : (db.statuses.map StatusRow.key).Nodup) :
    (rows.map StatusRow.key).Nodup := by
  unfold upsertStatus at upserted
  split at upserted
  case isTrue =>
    rcases Option.some.inj upserted with rfl
    have same : StatusRow.key ∘
        (fun old : StatusRow => if old.isFor row.userId row.problemId then row else old) =
          StatusRow.key := by
      funext old
      simp only [Function.comp_apply]
      split
      case isTrue replaced =>
        rw [StatusRow.isFor_iff] at replaced
        simp [StatusRow.key, replaced]
      case isFalse => rfl
    rw [List.map_map, same]
    exact keys
  case isFalse missing =>
    rw [Option.ite_none_right_eq_some] at upserted
    rcases upserted with ⟨-, ⟨⟩⟩
    apply Library.keys_append keys
    intro stored mem same
    exact missing (List.any_eq_true.mpr ⟨stored, mem, StatusRow.isFor_iff.mpr (Prod.mk.inj same)⟩)

private theorem StatusStmt.run_keys {own : StatusStmt} {db : Db} {answer : own.Reply}
    {rows : List StatusRow} (ran : own.run db = some (answer, rows))
    (keys : (db.statuses.map StatusRow.key).Nodup) : (rows.map StatusRow.key).Nodup := by
  cases own with
  | find | findSubmitCount =>
      rcases Option.some.inj ran with ⟨⟩
      exact keys
  | upsert row =>
      rcases Option.map_eq_some_iff.mp ran with ⟨_, upserted, ⟨⟩⟩
      exact upsertStatus_keys upserted keys
  | deleteForProblem problemId =>
      rcases Option.some.inj ran with ⟨⟩
      exact keys.sublist (List.filter_sublist.map _)

/-- The tables are sound at all times, and no submission is forgotten. -/
theorem StatusBasic.execute (basic : before.StatusBasic) (timestamp : InsertsTimestamp stmt)
    (executed : Db.execute stmt before = some (reply, after)) :
    after.StatusBasic ∧ KeepsSubmissions before after := by
  rcases submissions_of_execute executed with same | ⟨own, answer, rfl, ran⟩
  · refine ⟨⟨?_, ?_, ?_, ?_⟩, keepsSubmissions_of_eq same⟩
    · exact same ▸ basic.submissionIds
    · exact same ▸ basic.submissionNext
    · exact same ▸ basic.times
    · rcases statuses_of_execute executed with same | ⟨own, answer, -, ran⟩
      · exact same ▸ basic.statusKeys
      · exact StatusStmt.run_keys ran basic.statusKeys
  · have sameStatuses : after.statuses = before.statuses := by
      rcases statuses_of_execute executed with same | ⟨_, _, isStatus, -⟩
      · exact same
      · cases isStatus
    rcases SubmissionStmt.run_basic ran timestamp basic with ⟨⟨ids, nextIds, times, -⟩, keeps⟩
    exact ⟨⟨ids, nextIds, times, sameStatuses ▸ basic.statusKeys⟩, keeps⟩

theorem upsert_executed {row : StatusRow} {answer : Unit}
    (executed : Db.execute (.statuses (.upsert row)) before = some (answer, after)) :
    before.upsertStatus row = some after.statuses ∧ after.submissions = before.submissions := by
  simp only [Db.execute, StatusStmt.run, Option.map_map, Option.map_eq_some_iff,
    Function.comp_apply, Prod.mk.injEq] at executed
  rcases executed with ⟨rows, upserted, -, rfl⟩
  exact ⟨upserted, rfl⟩

end Execution

/-- The statuses that are left when those of a problem are deleted. -/
theorem find?_deleteForProblem (rows : List StatusRow) (problemId userId other : ℤ) :
    (rows.filter (·.problemId ≠ problemId)).find? (·.isFor userId other) =
      if other = problemId then none else rows.find? (·.isFor userId other) := by
  split
  case isTrue same => simp +contextual [StatusRow.isFor, same]
  case isFalse differs =>
    rw [List.find?_filter]
    congr 1
    funext row
    by_cases isFor : row.isFor userId other
    · simp [isFor, (StatusRow.isFor_iff.mp isFor).2, differs]
    · simp [isFor]

section Exact

variable {before after : Db}

theorem StatusExact.congr (exact : before.StatusExact)
    (submissions : after.submissions = before.submissions)
    (statuses : after.statuses = before.statuses) : after.StatusExact := by
  intro userId problemId
  rw [statusOf, statuses, submissions]
  exact exact userId problemId

/-- The statuses stay exact when the submissions of one user to one problem change and the new
status of these is what they amount to. -/
theorem StatusExact.upsert {db : Db} {row : StatusRow} (exact : before.StatusExact)
    (elsewhere : ∀ userId problemId, ¬(userId = row.userId ∧ problemId = row.problemId) →
      after.submissions.summaryOf userId problemId =
        before.submissions.summaryOf userId problemId)
    (here : after.submissions.summaryOf row.userId row.problemId = some row)
    (same : db.statuses = before.statuses)
    (upserted : db.upsertStatus row = some after.statuses) : after.StatusExact := by
  intro userId problemId
  rw [statusOf, upsertStatus_find upserted]
  split
  case isTrue isRow => rw [isRow.1, isRow.2, here]
  case isFalse differs =>
    rw [elsewhere userId problemId differs, statusOf, same]
    exact exact userId problemId

/-- The statuses of a problem without submissions may be deleted: there are none. -/
theorem StatusExact.deleteForProblem {problemId : ℤ} (exact : before.StatusExact)
    (unused : ∀ userId, before.submissions.ofUser userId problemId = []) :
    StatusExact
      { before with statuses := before.statuses.filter (·.problemId ≠ problemId) } := by
  intro userId other
  rw [statusOf, find?_deleteForProblem]
  split
  case isTrue same =>
    rw [same]
    exact (if_pos (unused userId)).symm
  case isFalse => exact exact userId other

end Exact

end Db

end OnlineJudge
