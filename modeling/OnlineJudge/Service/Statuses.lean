import OnlineJudge.Service.StatusWrites

/-!
# The status of a problem follows the submissions

Two algorithms write the table of statuses: a settlement updates the row that it finds,
a rejudge recomputes it from the submissions. Both arrive at what the submissions amount
to, so the statuses are exact whenever a transaction ends. The one gap is that a rejudge
reads its submission outside of its transaction: if the settlement that inserted it is
rolled back afterwards, the identifier may come to belong to somebody else.
-/

namespace OnlineJudge

namespace Service

open Judge Db Library Library.SharedConnection

section Update

variable {table : SubmissionTable}

/-- The state that a settlement starts from, in terms of the submissions. -/
theorem StatusState.ofRecord_summary (times : ∀ row ∈ table.rows, IsTimestamp row.createdAt)
    (userId problemId : ℤ) :
    StatusState.ofRecord ((table.summaryOf userId problemId).map StatusRow.load) =
      { hasRecord := decide (table.ofUser userId problemId ≠ [])
        accepted := (earliest (table.acceptedTimes userId problemId)).isSome
        firstAcAt := (earliest (table.acceptedTimes userId problemId)).getD []
        submitCount := (table.ofUser userId problemId).length } := by
  unfold SubmissionTable.summaryOf
  split
  case isTrue empty =>
    simp [StatusState.ofRecord, SubmissionTable.acceptedTimes, empty, earliest]
  case isFalse nonempty =>
    rw [SubmissionTable.any_accepted]
    cases found : earliest (table.acceptedTimes userId problemId) with
    | none => simp [StatusState.ofRecord, StatusRow.load, nonempty]
    | some best =>
        have noZero := (earliest_isTimestamp times found).2
        simp [StatusState.ofRecord, StatusRow.load, nonempty, Bytes.columnText_eq_self noZero]

/-- The incremental update of a settlement writes what the submissions amount to. -/
theorem computeStatusUpdate_summary (times : ∀ row ∈ table.rows, IsTimestamp row.createdAt)
    (row : SubmissionRow) (timestamp : IsTimestamp row.createdAt) (nextId : ℤ) :
    SubmissionTable.summaryOf { rows := table.rows ++ [row], nextId := nextId } row.userId
        row.problemId =
      some ((computeStatusUpdate
        (StatusState.ofRecord ((table.summaryOf row.userId row.problemId).map StatusRow.load))
        (row.status = .AC) row.createdAt).row row.userId row.problemId) := by
  rw [StatusState.ofRecord_summary times]
  have stored := SubmissionTable.ofUser_append table row nextId row.userId row.problemId
  rw [if_pos ⟨rfl, rfl⟩] at stored
  rw [SubmissionTable.summaryOf, if_neg (by simp [stored]), SubmissionTable.any_accepted]
  by_cases accepted : row.status = .AC
  · have acceptedTimes : SubmissionTable.acceptedTimes
        { rows := table.rows ++ [row], nextId := nextId } row.userId row.problemId =
          table.acceptedTimes row.userId row.problemId ++ [row.createdAt] := by
      simp [SubmissionTable.acceptedTimes, stored, accepted]
    rw [acceptedTimes, earliest_append, stored]
    cases found : earliest (table.acceptedTimes row.userId row.problemId) with
    | none => simp [computeStatusUpdate, StatusUpdate.row, earlier, accepted]
    | some best =>
        have nonempty := (earliest_isTimestamp times found).1
        by_cases smaller : row.createdAt < best
        · simp [computeStatusUpdate, StatusUpdate.row, earlier, accepted, smaller, timestamp.1]
        · simp [computeStatusUpdate, StatusUpdate.row, earlier, smaller, nonempty]
  · have acceptedTimes : SubmissionTable.acceptedTimes
        { rows := table.rows ++ [row], nextId := nextId } row.userId row.problemId =
          table.acceptedTimes row.userId row.problemId := by
      simp [SubmissionTable.acceptedTimes, stored, accepted]
    rw [acceptedTimes, stored]
    cases found : earliest (table.acceptedTimes row.userId row.problemId) with
    | none => simp [computeStatusUpdate, StatusUpdate.row, accepted]
    | some best =>
        have nonempty := (earliest_isTimestamp times found).1
        simp [computeStatusUpdate, StatusUpdate.row, accepted, nonempty]

end Update

/-- A submission was read that the committed contents do not have. -/
def readsUncommitted (committed : Db) : (Σ stmt, Reply stmt) → Bool
  | ⟨.submissions (.findById id), some _⟩ => !committed.submissions.rows.any (·.id = id)
  | _ => false

/-- Statuses are exact, and a submission that a rejudge has read keeps its user and problem. -/
def statusContract (dump : Dump) : Contract (server dump) where
  Inv := StatusExact
  Basic := StatusBasic
  Grows := KeepsSubmissions
  Used := InsertsTimestamp
  Bare := IsBare
  Observed := readsUncommitted
  Promise := fun _ _ _ _ => True
  grows_refl := fun _ _ _ _ has => has
  grows_trans := fun first second _ _ _ has => second _ _ _ (first _ _ _ has)
  bare_used := fun bare => by cases bare <;> trivial
  used_keeps := fun used basic executed => basic.execute used executed
  bare_inv := fun bare _ exact executed =>
    have effect := bare.effect executed
    exact.congr effect.submissions effect.statuses
  promise_mono := fun _ _ => trivial

theorem aboutStatuses (dump : Dump) : AboutStatuses (statusContract dump) where
  bare := Iff.rfl
  quiet := fun _ _ _ _ => trivial
  used := LeavesStatuses.insertsTimestamp
  congr := StatusExact.congr
  deletes := fun _ => trivial
  deleted := StatusExact.deleteForProblem

section Safety

variable {dump : Dump} {id : ThreadId} {call : Call} {seen work : Db} {events : List Event}

/-- A settlement stores the submission together with the status that then follows from all. -/
private theorem storeSubmission_exact {record : SubmissionRecord} (settles : Option TaskId)
    {result : JudgeResult} (exact : work.StatusExact) (timestamp : IsTimestamp record.createdAt)
    (verdict : record.status = result.status) :
    (statusContract dump).Safe ((statusContract dump).Promise id call)
      (storeSubmission record settles result) (.active work) seen events := by
  refine (aboutStatuses dump).exec timestamp rfl ?_
  intro newId inserting inserted basic effect executed
  have exact := (aboutStatuses dump).inv_of_effect exact effect
  rcases insertSubmission_row executed with ⟨-, rfl⟩
  refine (aboutStatuses dump).exec trivial rfl ?_
  intro found finding foundAfter _ findEffect executed
  rcases Prod.mk.inj (Option.some.inj executed) with ⟨isFound, rfl⟩
  refine (aboutStatuses dump).exec trivial rfl ?_
  intro _ writing written _ writeEffect executed
  rcases upsert_executed executed with ⟨upserted, submissions⟩
  have current : found =
      (inserting.submissions.summaryOf record.userId record.problemId).map StatusRow.load := by
    rw [← exact, ← isFound]
    simp only [statusOf, findEffect.statuses]
  refine (aboutStatuses dump).commit (StatusExact.upsert exact ?_ ?_ ?_ upserted)
  · intro userId problemId differs
    rw [submissions, writeEffect.submissions, findEffect.submissions]
    exact SubmissionTable.summaryOf_append_of_ne _ differs
  · rw [submissions, writeEffect.submissions, findEffect.submissions, current]
    have summary := computeStatusUpdate_summary basic.times
      { record with id := inserting.submissions.nextId, settles := settles } timestamp
      (inserting.submissions.nextId + 1)
    rw [← verdict]
    exact summary
  · rw [writeEffect.statuses, findEffect.statuses]

/-- The contents of a rejudge after its update: those at its update but for the result. -/
structure Rejudged (record : SubmissionRecord) (start work : Db) : Prop where
  submissions : work.submissions =
    { start.submissions with rows := start.submissions.rows.map (·.updated record) }
  statuses : work.statuses = start.statuses

private theorem Rejudged.of_effect {record : SubmissionRecord} {start before after : Db}
    (rejudged : Rejudged record start before) (effect : BareEffect before after) :
    Rejudged record start after where
  submissions := effect.submissions.trans rejudged.submissions
  statuses := effect.statuses.trans rejudged.statuses

private theorem ofUser_ne_nil {db : Db} {submissionId userId problemId : ℤ}
    (owned : db.HasSubmission submissionId userId problemId) :
    db.submissions.ofUser userId problemId ≠ [] := by
  rcases owned with ⟨row, mem, -, isUser, isProblem⟩
  exact List.ne_nil_of_mem (List.mem_filter.mpr ⟨mem, by simp [isUser, isProblem]⟩)

/-- Recomputing the status after the update makes the statuses exact again. -/
private theorem finishRecompute_exact {record : SubmissionRecord} {start : Db}
    {success failure : Event} {count : ℤ} (basic : start.StatusBasic)
    (exact : start.StatusExact)
    (owned : start.HasSubmission record.id record.userId record.problemId)
    (rejudged : Rejudged record start work)
    (counted : count = (start.submissions.ofUser record.userId record.problemId).length) :
    (statusContract dump).Safe ((statusContract dump).Promise id call)
      (recomputeStatus.finishRecompute record.userId record.problemId
        (Program.rollbackWith failure) (Program.commitWith success failure) count)
      (.active work) seen events := by
  refine (aboutStatuses dump).exec trivial rfl ?_
  intro firstAcAt reading same readBasic effect executed
  have readRejudged := rejudged.of_effect effect
  rcases Prod.mk.inj (Option.some.inj executed) with ⟨isFirst, rfl⟩
  refine (aboutStatuses dump).exec trivial rfl ?_
  intro _ writing written _ effect executed
  have rejudged := readRejudged.of_effect effect
  rcases upsert_executed executed with ⟨upserted, submissions⟩
  refine (aboutStatuses dump).commit (StatusExact.upsert exact ?_ ?_ rejudged.statuses upserted)
  · intro userId problemId differs
    rw [submissions, rejudged.submissions]
    refine SubmissionTable.summaryOf_update_of_ne _ fun row mem sameId => differs ?_
    rcases owned with ⟨own, ownMem, isId, isUser, isProblem⟩
    rcases List.mem_filter.mp mem with ⟨mem, isFor⟩
    rw [basic.submission_unique mem ownMem (sameId.trans isId.symm)] at isFor
    simp only [Bool.decide_and, Bool.and_eq_true, decide_eq_true_eq] at isFor
    exact ⟨isFor.1.symm.trans isUser, isFor.2.symm.trans isProblem⟩
  · have sameTable : written.submissions = reading.submissions := by
      rw [submissions, rejudged.submissions, readRejudged.submissions]
    have nonempty : reading.submissions.ofUser record.userId record.problemId ≠ [] := by
      rw [readRejudged.submissions, SubmissionTable.ofUser_update]
      exact fun empty => ofUser_ne_nil owned (List.map_eq_nil_iff.mp empty)
    have length : (reading.submissions.ofUser record.userId record.problemId).length =
        (start.submissions.ofUser record.userId record.problemId).length := by
      rw [readRejudged.submissions, SubmissionTable.ofUser_update, List.length_map]
    have text : firstAcAt.map Bytes.columnText = firstAcAt := by
      cases firstAcAt with
      | none => rfl
      | some best =>
          rw [Option.map_some,
            Bytes.columnText_eq_self (earliest_isTimestamp readBasic.times isFirst).2]
    rw [sameTable, SubmissionTable.summaryOf, if_neg nonempty, SubmissionTable.any_accepted,
      isFirst, length, counted, text]

private theorem owned_of_effect {before after : Db} {submissionId userId problemId : ℤ}
    (owned : before.HasSubmission submissionId userId problemId)
    (effect : BareEffect before after) :
    after.HasSubmission submissionId userId problemId := by
  rw [HasSubmission, effect.submissions]
  exact owned

private theorem storeRejudge_exact {record : SubmissionRecord} {result : JudgeResult}
    (owned : seen.HasSubmission record.id record.userId record.problemId) :
    (statusContract dump).Safe ((statusContract dump).Promise id call)
      (storeRejudge record result) .idle seen events := by
  refine safe_beginWith (fun db _ exact grown => ?_) trivial
  have owned := grown _ _ _ owned
  refine (aboutStatuses dump).leave exact trivial rfl ?_
  rintro (_ | again) finding same effect executed exact
  · exact (aboutStatuses dump).rollback
  rcases Prod.mk.inj (Option.some.inj executed) with ⟨-, rfl⟩
  have owned := owned_of_effect owned effect
  refine (aboutStatuses dump).exec trivial rfl ?_
  intro _ updating updated basic effect executed
  have exact := (aboutStatuses dump).inv_of_effect exact effect
  have owned := owned_of_effect owned effect
  have rejudged : Rejudged record updating updated := by
    rcases Option.some.inj executed with ⟨⟩
    exact ⟨rfl, rfl⟩
  refine (aboutStatuses dump).exec trivial rfl ?_
  intro count counting same _ effect executed
  have rejudged := rejudged.of_effect effect
  rcases Prod.mk.inj (Option.some.inj executed) with ⟨isCount, rfl⟩
  have isCount : count =
      some ((updating.submissions.ofUser record.userId record.problemId).length : ℤ) := by
    have summary := exact record.userId record.problemId
    rw [SubmissionTable.summaryOf, if_neg (ofUser_ne_nil owned)] at summary
    rw [← isCount, statusOf, rejudged.statuses]
    rw [statusOf] at summary
    rw [summary, Option.map_some]
  subst isCount
  exact finishRecompute_exact basic exact owned rejudged rfl

/-- The submission that a rejudge has read is in the contents that it relies on. -/
private theorem owned_of_answered {base before after known : Db} {submissionId : ℤ}
    {original : SubmissionRecord}
    (answered : (statusContract dump).Answered seen base before after known
      ⟨.submissions (.findById submissionId), some original⟩) :
    known.HasSubmission original.id original.userId original.problemId := by
  rcases Prod.mk.inj (Option.some.inj answered.executed) with ⟨isFound, isAfter⟩
  rcases HasSubmission.of_find isFound with ⟨isId, stored⟩
  rw [isId]
  by_cases committed : base.submissions.rows.any (·.id = submissionId)
  · rcases List.any_eq_true.mp committed with ⟨row, mem, sameId⟩
    have inBase : base.HasSubmission submissionId row.userId row.problemId :=
      ⟨row, mem, of_decide_eq_true sameId, rfl, rfl⟩
    have inBefore := answered.base_grows _ _ _ inBase
    rcases StatusBasic.owner_unique answered.basic inBefore stored with ⟨sameUser, sameProblem⟩
    rw [← sameUser, ← sameProblem]
    exact answered.base_known _ _ _ inBase
  · have isKnown : known = after := answered.observed (by
      simpa [statusContract, readsUncommitted] using committed)
    rw [isKnown, ← isAfter]
    exact stored

private theorem handle_exact {task : SubmissionTask} {judge : JudgeTask → JudgeResult}
    {now : Bytes} (timed : Timed task now) :
    (statusContract dump).Safe ((statusContract dump).Promise id call)
      (handle dump judge now task) .idle seen events := by
  unfold handle
  split
  case isTrue =>
    refine (aboutStatuses dump).rejudge judge _
      (fun original db => db.HasSubmission original.id original.userId original.problemId)
      (fun _ _ _ _ _ => owned_of_answered) (fun grown => grown _ _ _) ?_
    intro original seen result perCase events owned
    exact storeRejudge_exact owned
  case isFalse isSubmit =>
    refine (aboutStatuses dump).submit judge fun result perCase seen events => ?_
    refine (aboutStatuses dump).settle fun settles work exact => ?_
    exact storeSubmission_exact settles exact (timed (not_not.mp isSubmit)) rfl

theorem serves_statuses (id : ThreadId) (call : Call)
    (timed : ∀ task judge now, call = .handle task judge now → Timed task now) :
    (statusContract dump).Serves id call :=
  (aboutStatuses dump).serves id call fun task judge now isHandle _ =>
    handle_exact (timed task judge now isHandle)

end Safety

/-- The stored status of a user and a problem is the one that the submissions amount to. -/
structure StatusFollows (db : Db) (userId problemId : ℤ) : Prop where
  exists_iff : (∃ row ∈ db.statuses, row.key = (userId, problemId)) ↔
    ∃ submission ∈ db.submissions.rows,
      submission.userId = userId ∧ submission.problemId = problemId
  counted : ∀ row ∈ db.statuses, row.key = (userId, problemId) →
    row.submitCount = (db.submissions.ofUser userId problemId).length
  accepted_iff : ∀ row ∈ db.statuses, row.key = (userId, problemId) →
    (row.accepted ↔ ∃ submission ∈ db.submissions.ofUser userId problemId,
      submission.status = .AC)
  without_time : ∀ row ∈ db.statuses, row.key = (userId, problemId) →
    (row.firstAcAt = none ↔ db.submissions.acceptedTimes userId problemId = [])
  first_time : ∀ row ∈ db.statuses, row.key = (userId, problemId) →
    ∀ first, row.firstAcAt = some first →
      first ∈ db.submissions.acceptedTimes userId problemId ∧
        ∀ time ∈ db.submissions.acceptedTimes userId problemId, ¬time < first
  /-- Had the same submissions been stored in another order, the status would be the same. -/
  any_order : ∀ row ∈ db.statuses, row.key = (userId, problemId) →
    ∀ table : SubmissionTable, table.rows.Perm db.submissions.rows →
      table.summaryOf userId problemId = some row

theorem StatusFollows.of_exact {db : Db} (basic : db.StatusBasic) (exact : db.StatusExact)
    (userId problemId : ℤ) : StatusFollows db userId problemId := by
  have isSummary : ∀ row ∈ db.statuses, row.key = (userId, problemId) →
      db.submissions.summaryOf userId problemId = some row := by
    intro row mem isFor
    rw [← exact, basic.statusOf_of_mem mem isFor]
  have expanded : ∀ row ∈ db.statuses, row.key = (userId, problemId) →
      row =
        { userId := userId
          problemId := problemId
          accepted := (db.submissions.ofUser userId problemId).any (·.status = .AC)
          firstAcAt := earliest (db.submissions.acceptedTimes userId problemId)
          submitCount := (db.submissions.ofUser userId problemId).length } := by
    intro row mem isFor
    have summary := isSummary row mem isFor
    rw [SubmissionTable.summaryOf, Option.ite_none_left_eq_some] at summary
    exact (Option.some.inj summary.2).symm
  refine ⟨⟨?_, ?_⟩, ?_, ?_, ?_, ?_, ?_⟩
  · rintro ⟨row, mem, isFor⟩
    have summary := isSummary row mem isFor
    rw [SubmissionTable.summaryOf, Option.ite_none_left_eq_some] at summary
    rcases List.exists_mem_of_ne_nil _ summary.1 with ⟨submission, stored⟩
    rcases List.mem_filter.mp stored with ⟨stored, isFor⟩
    exact ⟨submission, stored, by simpa using isFor⟩
  · rintro ⟨submission, stored, isUser, isProblem⟩
    have nonempty : db.submissions.ofUser userId problemId ≠ [] :=
      ofUser_ne_nil ⟨submission, stored, rfl, isUser, isProblem⟩
    have found := exact userId problemId
    rw [SubmissionTable.summaryOf, if_neg nonempty] at found
    exact ⟨_, List.mem_of_find?_eq_some found, rfl⟩
  · intro row mem isFor
    rw [expanded row mem isFor]
  · intro row mem isFor
    rw [expanded row mem isFor]
    simp
  · intro row mem isFor
    rw [expanded row mem isFor]
    exact (earliest_spec _).1
  · intro row mem isFor first isFirst
    rw [expanded row mem isFor] at isFirst
    exact (earliest_spec _).2 first isFirst
  · intro row mem isFor table perm
    rw [SubmissionTable.summaryOf_perm perm, isSummary row mem isFor]

/-- A rollback undoes the insertion of a submission that a rejudge has already read. -/
def OrphansRejudge (before : State) : Label → Prop
  | .run id ok => Undoes readsUncommitted before (.run id ok)
  | _ => False

instance (before : State) (label : Label) : Decidable (OrphansRejudge before label) :=
  match label with
  | .run id ok => inferInstanceAs (Decidable (Undoes readsUncommitted before (.run id ok)))
  | .start _ => isFalse id
  | .crash => isFalse id

/-- In a run in which no rejudge has read a submission whose insertion is rolled back, the
status of every user and problem follows the submissions in every committed contents. -/
theorem status_follows_submissions {dump : Dump} {start : Db} {state : State}
    (basic : start.StatusBasic) (exact : start.StatusExact)
    (reaches : (server dump).system.Reaches
      (fun before label => ¬OrphansRejudge before label ∧ Timestamped label) (.initial start)
      state) (userId problemId : ℤ) : StatusFollows state.committed userId problemId := by
  have sound : (statusContract dump).Sound state := by
    refine Contract.Sound.of_reaches reaches (Contract.Sound.initial basic exact) ?_ ?_
    · rintro before call ⟨-, timestamped⟩
      refine serves_statuses before.nextThread call ?_
      rintro task judge now rfl
      exact timestamped
    · rintro before label ⟨kept, -⟩ undoes
      cases label with
      | start call => exact absurd undoes.1 Bool.false_ne_true
      | run id ok => exact absurd undoes kept
      | crash => exact ⟨rfl, fun _ _ _ _ _ _ => trivial⟩
  exact StatusFollows.of_exact sound.committed_basic sound.committed_inv userId problemId

section Runs

def twoUsers : Db :=
  { users :=
      { rows :=
          [{ id := 1, account := [97], nickname := [98], passwordHash := [1], role := .user
             resetPwdFlag := 0, createdAt := [50] },
            { id := 2, account := [99], nickname := [100], passwordHash := [1], role := .user
              resetPwdFlag := 0, createdAt := [50] }]
        nextId := 3 }
    problems :=
      { rows :=
          [{ id := 1, title := [97], description := [], difficulty := .easy, tags := []
             timeLimitMs := 1000, memoryLimitKb := 65536, visible := true
             createdAt := [50], updatedAt := [50] }]
        nextId := 2 } }

/-- The execution of a submission of the user to the problem of `twoUsers`. -/
def submission (userId : ℤ) (verdict : JudgeStatus) : Call :=
  .handle
    { userId := userId, problemId := 1, language := [99], sourceCode := [120]
      submittedAt := [50] } (fun _ => { status := verdict }) []

def rejudging (verdict : JudgeStatus) : Call :=
  .handle { rejudgeSubmissionId := 1 } (fun _ => { status := verdict }) []

/-- A wrong answer is settled and then rejudged to an accepted one. -/
def rejudgedSchedule : List Label :=
  [.start (submission 1 .WA)] ++ List.replicate 12 (.run 0 true) ++ [.start (rejudging .AC)] ++
    List.replicate 12 (.run 1 true)

theorem status_follows_submissions_rejudged :
    ∃ state : State,
      (server fun _ => some []).system.run (.initial twoUsers) rejudgedSchedule = some state ∧
        state.committed.statuses =
          [{ userId := 1, problemId := 1, accepted := true, firstAcAt := some [50]
             submitCount := 1 }] ∧ StatusFollows state.committed 1 1 := by
  have execution : ∃ state : State,
      (server fun _ => some []).system.run (.initial twoUsers) rejudgedSchedule = some state ∧
        state.committed.statuses =
          [{ userId := 1, problemId := 1, accepted := true, firstAcAt := some [50]
             submitCount := 1 }] := ⟨_, rfl, rfl⟩
  rcases execution with ⟨state, execution, statuses⟩
  refine ⟨state, execution, statuses, ?_⟩
  have admits : (server fun _ => some []).system.Admits
      (fun before label => ¬OrphansRejudge before label ∧ Timestamped label) (.initial twoUsers)
      rejudgedSchedule := by decide
  have basic : twoUsers.StatusBasic :=
    { submissionIds := List.nodup_nil
      submissionNext := fun _ mem => absurd mem List.not_mem_nil
      times := fun _ mem => absurd mem List.not_mem_nil
      statusKeys := List.nodup_nil }
  exact status_follows_submissions basic (fun _ _ => rfl)
    (TransitionSystem.reaches_of_run admits execution) 1 1

/-- A rejudge reads the submission of a settlement that then fails; another user's settlement
gets the same identifier; the rejudge updates that one. -/
def orphanedSchedule : List Label :=
  [.start (submission 1 .WA)] ++ List.replicate 7 (.run 0 true) ++ [.start (rejudging .AC)] ++
    [.run 1 true, .run 0 false] ++ List.replicate 3 (.run 0 true) ++ [.start (submission 2 .WA)] ++
    List.replicate 12 (.run 2 true) ++ List.replicate 13 (.run 1 true)

theorem status_without_submission :
    ¬∀ (state : State) (userId problemId : ℤ),
      (server fun _ => some []).system.Reaches (fun _ label => Timestamped label)
        (.initial twoUsers) state → StatusFollows state.committed userId problemId := by
  intro claim
  have execution : ∃ state : State,
      (server fun _ => some []).system.run (.initial twoUsers) orphanedSchedule = some state ∧
        (∃ row ∈ state.committed.statuses, row.key = (1, 1)) ∧
          state.committed.submissions.rows.map (·.userId) = [2] :=
    ⟨_, rfl, ⟨_, List.mem_cons_of_mem _ List.mem_cons_self, rfl⟩, rfl⟩
  rcases execution with ⟨state, execution, stored, users⟩
  have admits : (server fun _ => some []).system.Admits (fun _ label => Timestamped label)
      (.initial twoUsers) orphanedSchedule := by decide
  have follows := claim state 1 1 (TransitionSystem.reaches_of_run admits execution)
  rcases follows.exists_iff.mp stored with ⟨submission, mem, isUser, -⟩
  have user : submission.userId ∈ state.committed.submissions.rows.map (·.userId) :=
    List.mem_map_of_mem mem
  rw [users, isUser] at user
  simp at user

end Runs

end Service

end OnlineJudge
