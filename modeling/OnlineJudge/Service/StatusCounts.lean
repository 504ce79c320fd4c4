import OnlineJudge.Db.Ranking
import OnlineJudge.Service.Administrators
import OnlineJudge.Service.StatusWrites

/-!
# The counts of submissions

The number of submissions in a status is the number of submissions, whatever happens: a
settlement adds one to the row that it reads in its own transaction, and a rejudge keeps
the number or counts anew. This holds also where the rest of a status may be that of a
submission that was rolled back. With it the tables of any run are ranked faithfully.
-/

namespace OnlineJudge

namespace Db

open Judge Library Library.SharedConnection

/-- The number of submissions that the status of a user and a problem has, `0` without a status. -/
def countOf (db : Db) (userId problemId : ℤ) : ℤ :=
  ((db.statusOf userId problemId).map (·.submitCount)).getD 0

def CountExact (db : Db) : Prop :=
  ∀ userId problemId, db.countOf userId problemId = (db.submissions.ofUser userId problemId).length

section Counts

variable {before after : Db}

theorem CountExact.congr (exact : before.CountExact)
    (submissions : after.submissions = before.submissions)
    (statuses : after.statuses = before.statuses) : after.CountExact := by
  intro userId problemId
  rw [countOf, statusOf, statuses, submissions]
  exact exact userId problemId

/-- A row is written with the new number of submissions. -/
theorem CountExact.upsert {db : Db} {row : StatusRow} (exact : before.CountExact)
    (elsewhere : ∀ userId problemId, ¬(userId = row.userId ∧ problemId = row.problemId) →
      (after.submissions.ofUser userId problemId).length =
        (before.submissions.ofUser userId problemId).length)
    (here : row.submitCount = (after.submissions.ofUser row.userId row.problemId).length)
    (same : db.statuses = before.statuses)
    (upserted : db.upsertStatus row = some after.statuses) : after.CountExact := by
  intro userId problemId
  rw [countOf, statusOf, upsertStatus_find upserted]
  split
  case isTrue isRow =>
    rw [isRow.1, isRow.2]
    exact here
  case isFalse differs =>
    rw [elsewhere userId problemId differs, statusOf, same]
    exact exact userId problemId

theorem CountExact.deleteForProblem {problemId : ℤ} (exact : before.CountExact)
    (unused : ∀ userId, before.submissions.ofUser userId problemId = []) :
    CountExact { before with statuses := before.statuses.filter (·.problemId ≠ problemId) } := by
  intro userId other
  rw [countOf, statusOf, find?_deleteForProblem]
  split
  case isTrue same =>
    rw [same, unused userId]
    rfl
  case isFalse => exact exact userId other

end Counts

/-- What holds of the tables that the ranking reads after every single statement. -/
structure RankingBasic (db : Db) : Prop where
  statuses : db.StatusBasic
  users : db.users.WellFormed
  problemKeys : (db.problems.rows.map (·.id)).Nodup
  problemIds : ∀ row ∈ db.problems.rows, row.id < db.problems.nextId
  owners : ∀ row ∈ db.statuses, db.hasUser row.userId = true
  timed : ∀ row ∈ db.statuses, row.Timed

/-- Times are written as such. -/
def WritesTimes : Stmt → Prop
  | .submissions (.insert record _) => IsTimestamp record.createdAt
  | .statuses (.upsert row) => row.Timed
  | _ => True

section Execution

variable {stmt : Stmt} {before after : Db} {reply : Reply stmt}

theorem WritesTimes.insertsTimestamp (writes : WritesTimes stmt) : InsertsTimestamp stmt := by
  unfold InsertsTimestamp
  split
  · exact writes
  · trivial

/-- No user is deleted. -/
theorem UserStmt.run_keeps (stmt : UserStmt) {db : Db} {id : ℤ} (has : db.hasUser id = true) :
    ((stmt.run db).2.rows.any fun row => row.id = id) = true := by
  rcases stmt.run_cases db with ⟨change, same, rows_eq⟩ | ⟨_, _, _, _, _, user, -, -, rows_eq⟩
  · rw [rows_eq]
    simpa [List.any_map, Function.comp_def, same, hasUser] using has
  · rw [rows_eq, List.any_append, Bool.or_eq_true]
    exact .inl has

theorem hasUser_of_execute {id : ℤ} (has : before.hasUser id = true)
    (executed : execute stmt before = some (reply, after)) : after.hasUser id = true := by
  rw [hasUser]
  rcases users_of_execute executed with same | ⟨own, rfl, users_eq⟩
  · rw [same]
    exact has
  · rw [users_eq]
    exact own.run_keeps has

/-- Every status belongs to a user and has a proper time. -/
theorem StatusStmt.run_sound {own : StatusStmt} {db : Db} {answer : own.Reply}
    {rows : List StatusRow} (ran : own.run db = some (answer, rows))
    (writes : WritesTimes (.statuses own))
    (owners : ∀ row ∈ db.statuses, db.hasUser row.userId = true)
    (timed : ∀ row ∈ db.statuses, row.Timed) :
    ∀ row ∈ rows, db.hasUser row.userId = true ∧ row.Timed := by
  have stored : ∀ row ∈ db.statuses, db.hasUser row.userId = true ∧ row.Timed :=
    fun row mem => ⟨owners row mem, timed row mem⟩
  cases own with
  | find | findSubmitCount =>
      rcases Option.some.inj ran with ⟨⟩
      exact stored
  | upsert new =>
      rcases Option.map_eq_some_iff.mp ran with ⟨_, upserted, ⟨⟩⟩
      unfold upsertStatus at upserted
      split at upserted
      case isTrue =>
        rcases Option.some.inj upserted with rfl
        intro row mem
        rcases List.mem_map.mp mem with ⟨old, oldMem, rfl⟩
        split
        · rename_i isFor
          rw [← (StatusRow.isFor_iff.mp isFor).1]
          exact ⟨owners old oldMem, writes⟩
        · exact stored old oldMem
      case isFalse =>
        rw [Option.ite_none_right_eq_some] at upserted
        rcases upserted with ⟨⟨isUser, -⟩, ⟨⟩⟩
        intro row mem
        rcases List.mem_append.mp mem with old | new
        · exact stored row old
        · rw [List.mem_singleton.mp new]
          exact ⟨isUser, writes⟩
  | deleteForProblem problemId =>
      rcases Option.some.inj ran with ⟨⟩
      exact fun row mem => stored row (List.mem_of_mem_filter mem)

theorem RankingBasic.execute (basic : before.RankingBasic) (writes : WritesTimes stmt)
    (executed : Db.execute stmt before = some (reply, after)) : after.RankingBasic := by
  have problems : (after.problems.rows.map (·.id)).Nodup ∧
      ∀ row ∈ after.problems.rows, row.id < after.problems.nextId := by
    rcases problems_of_execute executed with same | ⟨own, answer, rfl, ran⟩
    · rw [same]
      exact ⟨basic.problemKeys, basic.problemIds⟩
    · exact ⟨ProblemStmt.run_keys ran basic.problemKeys basic.problemIds,
        (ProblemStmt.run_ids ran basic.problemIds).1⟩
  have statuses : ∀ row ∈ after.statuses, before.hasUser row.userId = true ∧ row.Timed := by
    rcases statuses_of_execute executed with same | ⟨own, answer, rfl, ran⟩
    · rw [same]
      exact fun row mem => ⟨basic.owners row mem, basic.timed row mem⟩
    · exact StatusStmt.run_sound ran writes basic.owners basic.timed
  exact
    { statuses := (basic.statuses.execute writes.insertsTimestamp executed).1
      users := wellFormed_of_execute basic.users executed
      problemKeys := problems.1
      problemIds := problems.2
      owners := fun row mem => hasUser_of_execute (statuses row mem).1 executed
      timed := fun row mem => (statuses row mem).2 }

end Execution

/-- The times of registration are plain text. -/
def PlainTimes (db : Db) : Prop := ∀ user ∈ db.users.rows, 0 ∉ user.createdAt

/-- A user is created at a plain time. -/
def CreatesPlain : Stmt → Prop
  | .users (.create _ _ _ _ now) => 0 ∉ now
  | _ => True

theorem PlainTimes.execute {stmt : Stmt} {before after : Db} {reply : Reply stmt}
    (plain : before.PlainTimes) (creates : CreatesPlain stmt)
    (executed : Db.execute stmt before = some (reply, after)) : after.PlainTimes := by
  rcases users_of_execute executed with same | ⟨own, rfl, users_eq⟩
  · rw [PlainTimes, same]
    exact plain
  rw [PlainTimes, users_eq]
  rcases own.run_cases before with
    ⟨change, same, rows_eq⟩ | ⟨_, _, _, _, now, user, rfl, created, rows_eq⟩
  · rw [rows_eq]
    intro row mem
    rcases List.mem_map.mp mem with ⟨old, oldMem, rfl⟩
    rw [(same old).2]
    exact plain old oldMem
  · rw [rows_eq]
    intro row mem
    rcases List.mem_append.mp mem with old | new
    · exact plain row old
    · rw [List.mem_singleton.mp new, created]
      exact creates

/-- The tables are ranked faithfully when the counts are exact and the clock writes plain text. -/
theorem RankingBasic.rankable {db : Db} (basic : db.RankingBasic) (exact : db.CountExact)
    (plain : db.PlainTimes) : db.Rankable where
  users := basic.users.ids
  problems := basic.problemKeys
  owners := basic.owners
  timed := basic.timed
  created := plain
  counted := by
    intro row mem
    have counts := exact row.userId row.problemId
    rw [countOf, basic.statuses.statusOf_of_mem mem rfl] at counts
    exact counts
  settled := by
    intro submission mem
    have stored : submission ∈ db.submissions.ofUser submission.userId submission.problemId := by
      simp [SubmissionTable.ofUser, mem]
    have positive := List.length_pos_of_mem stored
    have counts := exact submission.userId submission.problemId
    rw [countOf] at counts
    cases found : db.statusOf submission.userId submission.problemId with
    | none =>
        rw [found] at counts
        simp only [Option.map_none, Option.getD_none] at counts
        omega
    | some row =>
        have isFor := List.find?_some found
        exact ⟨row, List.mem_of_find?_eq_some found, StatusRow.isFor_iff.mp isFor⟩

end Db

namespace Service

open Judge Db Library Library.SharedConnection

section Update

variable {found : Option StatusRow} {time : Bytes}

theorem computeStatusUpdate_submitCount (current : StatusState) (accepted : Bool) :
    (computeStatusUpdate current accepted time).submitCount = current.submitCount + 1 := by
  unfold computeStatusUpdate
  dsimp only
  split
  · split <;> split <;> rfl
  · split <;> rfl

theorem ofRecord_submitCount :
    (StatusState.ofRecord (found.map StatusRow.load)).submitCount =
      (found.map (·.submitCount)).getD 0 := by
  cases found <;> rfl

/-- A settlement writes a proper time when the status that it starts from has one. -/
theorem computeStatusUpdate_timed {current : StatusState}
    (first : current.accepted = true → IsTimestamp current.firstAcAt)
    (timestamp : IsTimestamp time) (accepted : Bool) (userId problemId : ℤ) :
    ((computeStatusUpdate current accepted time).row userId problemId).Timed := by
  unfold computeStatusUpdate
  dsimp only
  split
  case isTrue solved =>
    have best : IsTimestamp (if accepted = true ∧ time ≠ [] ∧
        (current.firstAcAt = [] ∨ time < current.firstAcAt) then time
        else current.firstAcAt) := by
      split
      · exact timestamp
      · exact first solved
    rw [if_pos best.1]
    exact ⟨rfl, by rintro _ ⟨⟩; exact best⟩
  case isFalse =>
    split
    · exact ⟨rfl, by rintro _ ⟨⟩; exact timestamp⟩
    · exact ⟨rfl, by rintro _ ⟨⟩⟩

theorem ofRecord_first (timed : ∀ row ∈ found, row.Timed)
    (accepted : (StatusState.ofRecord (found.map StatusRow.load)).accepted = true) :
    IsTimestamp (StatusState.ofRecord (found.map StatusRow.load)).firstAcAt := by
  cases found with
  | none => cases accepted
  | some row =>
      have rowTimed := timed row rfl
      change row.accepted = true at accepted
      rw [rowTimed.accepted, Option.isSome_iff_exists] at accepted
      rcases accepted with ⟨best, isFirst⟩
      have isTime := rowTimed.timestamp best isFirst
      simp [StatusState.ofRecord, StatusRow.load, isFirst, Bytes.columnText_eq_self isTime.2,
        isTime]

end Update

/-- The counts are exact whenever a transaction ends. -/
def countContract (dump : Dump) : Contract (server dump) where
  Inv := CountExact
  Basic := RankingBasic
  Grows := fun _ _ => True
  Used := WritesTimes
  Bare := IsBare
  Observed := fun _ _ => false
  Promise := fun _ _ _ _ => True
  grows_refl := fun _ => trivial
  grows_trans := fun _ _ => trivial
  bare_used := fun bare => by cases bare <;> trivial
  used_keeps := fun writes basic executed => ⟨basic.execute writes executed, trivial⟩
  bare_inv := fun bare _ exact executed =>
    have effect := bare.effect executed
    exact.congr effect.submissions effect.statuses
  promise_mono := fun _ _ => trivial

theorem LeavesStatuses.writesTimes {stmt : Stmt} (leaves : LeavesStatuses stmt) :
    WritesTimes stmt := by
  unfold WritesTimes
  split
  · exact leaves.elim
  · exact leaves.elim
  · trivial

theorem aboutCounts (dump : Dump) : AboutStatuses (countContract dump) where
  bare := Iff.rfl
  quiet := fun _ _ _ _ => trivial
  used := LeavesStatuses.writesTimes
  congr := CountExact.congr
  deletes := fun _ => trivial
  deleted := CountExact.deleteForProblem

section Safety

variable {dump : Dump} {id : ThreadId} {call : Call} {seen work : Db} {events : List Event}

/-- A settlement stores the submission and counts it. -/
theorem storeSubmission_counts {record : SubmissionRecord} (settles : Option TaskId)
    {result : JudgeResult} (exact : work.CountExact) (timestamp : IsTimestamp record.createdAt) :
    (countContract dump).Safe ((countContract dump).Promise id call)
      (storeSubmission record settles result) (.active work) seen events := by
  refine (aboutCounts dump).exec timestamp rfl ?_
  intro newId inserting inserted basic effect executed
  have exact := (aboutCounts dump).inv_of_effect exact effect
  rcases insertSubmission_row executed with ⟨-, rfl⟩
  refine (aboutCounts dump).exec trivial rfl ?_
  intro found finding foundAfter findBasic findEffect executed
  rcases Prod.mk.inj (Option.some.inj executed) with ⟨isFound, rfl⟩
  have timed : ∀ row ∈ finding.statusOf record.userId record.problemId, row.Timed :=
    fun row isRow => findBasic.timed row (List.mem_of_find?_eq_some isRow)
  subst isFound
  refine (aboutCounts dump).exec
    (computeStatusUpdate_timed (ofRecord_first timed) timestamp _ _ _) rfl ?_
  intro _ writing written _ writeEffect executed
  rcases upsert_executed executed with ⟨upserted, submissions⟩
  have stored : ∀ userId problemId, (written.submissions.ofUser userId problemId).length =
      (inserting.submissions.ofUser userId problemId).length +
        if record.userId = userId ∧ record.problemId = problemId then 1 else 0 := by
    intro userId problemId
    rw [submissions, writeEffect.submissions, findEffect.submissions,
      SubmissionTable.ofUser_append, List.length_append]
    split <;> rfl
  refine (aboutCounts dump).commit (CountExact.upsert exact ?_ ?_ ?_ upserted)
  · intro userId problemId differs
    rw [stored, if_neg fun same => differs ⟨same.1.symm, same.2.symm⟩, Nat.add_zero]
  · have counted : ((finding.statusOf record.userId record.problemId).map (·.submitCount)).getD 0 =
        (inserting.submissions.ofUser record.userId record.problemId).length := by
      rw [← exact, countOf, statusOf, findEffect.statuses]
      rfl
    change (computeStatusUpdate _ _ _).submitCount = _
    rw [computeStatusUpdate_submitCount, ofRecord_submitCount, counted]
    change _ = ((written.submissions.ofUser record.userId record.problemId).length : ℤ)
    rw [stored, if_pos ⟨rfl, rfl⟩]
    rfl
  · rw [writeEffect.statuses, findEffect.statuses]

/-- A status is recomputed with the number of submissions that it has, or that there are. -/
theorem finishRecompute_counts {userId problemId count : ℤ} {success failure : Event}
    (exact : work.CountExact)
    (counted : count = (work.submissions.ofUser userId problemId).length) :
    (countContract dump).Safe ((countContract dump).Promise id call)
      (recomputeStatus.finishRecompute userId problemId (Program.rollbackWith failure)
        (Program.commitWith success failure) count) (.active work) seen events := by
  refine (aboutCounts dump).exec trivial rfl ?_
  intro firstAcAt reading same basic readEffect executed
  rcases Prod.mk.inj (Option.some.inj executed) with ⟨isFirst, rfl⟩
  have exact := (aboutCounts dump).inv_of_effect exact readEffect
  have timed : StatusRow.Timed
      { userId := userId, problemId := problemId, accepted := firstAcAt.isSome
        firstAcAt := firstAcAt.map Bytes.columnText, submitCount := count } := by
    cases firstAcAt with
    | none => exact ⟨rfl, by rintro _ ⟨⟩⟩
    | some best =>
        have isTime := earliest_isTimestamp basic.statuses.times isFirst
        refine ⟨rfl, ?_⟩
        rintro _ ⟨⟩
        rwa [Bytes.columnText_eq_self isTime.2]
  refine (aboutCounts dump).exec timed rfl ?_
  intro _ writing written _ effect executed
  rcases upsert_executed executed with ⟨upserted, submissions⟩
  have same : written.submissions = work.submissions := by
    rw [submissions, effect.submissions, readEffect.submissions]
  refine (aboutCounts dump).commit (CountExact.upsert exact ?_ ?_ effect.statuses upserted)
  · intro otherUser otherProblem _
    rw [same, readEffect.submissions]
  · rw [same]
    exact counted

theorem storeRejudge_counts {record : SubmissionRecord} {result : JudgeResult} :
    (countContract dump).Safe ((countContract dump).Promise id call)
      (storeRejudge record result) .idle seen events := by
  refine safe_beginWith (fun db _ exact _ => ?_) trivial
  refine (aboutCounts dump).leave exact trivial rfl ?_
  rintro (_ | again) finding found - - exact
  · exact (aboutCounts dump).rollback
  refine (aboutCounts dump).exec trivial rfl ?_
  intro _ updating updated _ effect executed
  have exact : updated.CountExact := by
    rcases Option.some.inj executed with ⟨⟩
    intro userId problemId
    rw [SubmissionTable.ofUser_update, List.length_map]
    exact (aboutCounts dump).inv_of_effect exact effect userId problemId
  refine (aboutCounts dump).leave exact trivial rfl ?_
  intro count counting same _ executed exact
  rcases Prod.mk.inj (Option.some.inj executed) with ⟨isCount, rfl⟩
  have counted := exact record.userId record.problemId
  rw [countOf, isCount] at counted
  cases count with
  | some count => exact finishRecompute_counts exact counted
  | none =>
      refine (aboutCounts dump).leave exact trivial rfl ?_
      intro number numbering same _ executed exact
      rcases Prod.mk.inj (Option.some.inj executed) with ⟨rfl, rfl⟩
      exact finishRecompute_counts exact rfl

theorem serves_counts (id : ThreadId) (call : Call)
    (timed : ∀ task judge now, call = .handle task judge now → Timed task now) :
    (countContract dump).Serves id call := by
  refine (aboutCounts dump).serves id call fun task judge now isHandle _ => ?_
  unfold handle
  split
  case isTrue =>
    refine (aboutCounts dump).rejudge judge _ (fun _ _ => True) (fun _ _ _ _ _ _ => trivial)
      (fun _ _ => trivial) ?_
    intro original seen result perCase events _
    exact storeRejudge_counts
  case isFalse isSubmit =>
    refine (aboutCounts dump).submit judge fun result perCase seen events => ?_
    refine (aboutCounts dump).settle fun settles work exact => ?_
    exact storeSubmission_counts settles exact (timed task judge now isHandle (not_not.mp isSubmit))

/-- No statement but the registration of a user with an unusual clock writes an unusual time. -/
def plainContract (dump : Dump) : Contract (server dump) where
  Inv := PlainTimes
  Basic := PlainTimes
  Grows := fun _ _ => True
  Used := CreatesPlain
  Bare := CreatesPlain
  Observed := fun _ _ => false
  Promise := fun _ _ _ _ => True
  grows_refl := fun _ => trivial
  grows_trans := fun _ _ => trivial
  bare_used := fun creates => creates
  used_keeps := fun creates plain executed => ⟨plain.execute creates executed, trivial⟩
  bare_inv := fun creates plain _ executed => plain.execute creates executed
  promise_mono := fun _ _ => trivial

/-- The clock of the database is read as plain text. -/
def PlainClock : Label → Prop
  | .start (.register request) => 0 ∉ request.now
  | _ => True

instance (label : Label) : Decidable (PlainClock label) :=
  match label with
  | .start call =>
      match call with
      | .register request => inferInstanceAs (Decidable (0 ∉ request.now))
      | .persist .. | .discard _ | .handle .. | .recover .. | .createProblem ..
      | .updateProblem .. | .removeProblem _ | .createTestcase .. | .updateTestcase ..
      | .removeTestcase .. | .resetPassword .. | .changePassword _ | .changeRole .. =>
          isTrue trivial
  | .run .. => isTrue trivial
  | .crash => isTrue trivial

theorem serves_plain (id : ThreadId) (call : Call)
    (clock : ∀ request, call = .register request → 0 ∉ request.now) :
    (plainContract dump).Serves id call := by
  have inside_plain : ∀ stmt, call.inside stmt → CreatesPlain stmt := by
    intro stmt inside
    unfold CreatesPlain
    split
    · cases call with
      | handle task judge now =>
          simp only [Call.inside] at inside
          split at inside <;> exact inside.elim
      | _ => exact inside.elim
    · trivial
  have outside_plain : ∀ stmt, call.outside stmt → CreatesPlain stmt := by
    intro stmt outside
    unfold CreatesPlain
    split
    · cases call with
      | register request =>
          have isNow : _ = request.now := outside
          rw [isNow]
          exact clock request rfl
      | _ => exact outside.elim
    · trivial
  exact Contract.Uses.serves (Call.uses dump id call)
    (fun stmt inside => ⟨inside_plain stmt inside, fun _ _ _ _ plain executed =>
      plain.execute (inside_plain stmt inside) executed⟩)
    outside_plain (fun _ _ _ _ _ => trivial) (fun _ => trivial)

end Safety

/-- The tables that every run starts from. -/
structure RankingStart (db : Db) : Prop where
  basic : db.RankingBasic
  exact : db.CountExact
  plain : db.PlainTimes

theorem counts_of_reaches {dump : Dump} {start : Db} {state : State} (basic : start.RankingBasic)
    (exact : start.CountExact)
    (reaches : (server dump).system.Reaches
      (fun _ label => Timestamped label ∧ PlainClock label) (.initial start) state) :
    (countContract dump).Sound state := by
  refine Contract.Sound.of_reaches reaches (.initial basic exact) ?_ ?_
  · rintro before call ⟨timestamped, -⟩
    refine serves_counts before.nextThread call ?_
    rintro task judge now rfl
    exact timestamped
  · rintro before label - ⟨-, _, -, _, -, observed⟩
    cases observed

/-- In whatever order calls are served and whichever of their statements fail, the committed tables
are ranked faithfully. -/
theorem rankable_of_reaches {dump : Dump} {start : Db} {state : State} (ready : RankingStart start)
    (reaches : (server dump).system.Reaches
      (fun _ label => Timestamped label ∧ PlainClock label) (.initial start) state) :
    state.committed.Rankable := by
  have counts := counts_of_reaches ready.basic ready.exact reaches
  have plain : (plainContract dump).Sound state := by
    refine Contract.Sound.of_reaches reaches (.initial ready.plain ready.plain) ?_ ?_
    · rintro before call ⟨-, clock⟩
      refine serves_plain before.nextThread call ?_
      rintro request rfl
      exact clock
    · rintro before label - ⟨-, _, -, _, -, observed⟩
      cases observed
  exact counts.committed_basic.rankable counts.committed_inv plain.committed_inv

end Service

end OnlineJudge
