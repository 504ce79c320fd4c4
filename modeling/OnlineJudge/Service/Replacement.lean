import OnlineJudge.Db.ProblemStatus
import OnlineJudge.Service.SoloProgram

/-!
# A rejudge replaces the result or nothing

A rejudge that runs by itself either returns success, and has then replaced the result
of one submission and recomputed one status, or leaves both tables as they were,
wherever it was that a call failed.
-/

namespace OnlineJudge

namespace Service

open Judge Db Library Library.SharedConnection

/-- The call returned `Kind::Ok`. -/
def ReturnsOk (events : List Event) : Prop :=
  ∃ outcome, .settled outcome ∈ events ∧ outcome.kind = .ok

/-- Judging the stored submission against the stored test cases has this result, and its cases
are written as this text. -/
def Judged (dump : Dump) (judge : JudgeTask → JudgeResult) (db : Db) (submissionId : ℤ)
    (result : JudgeResult) (perCase : Bytes) : Prop :=
  ∃ record problem,
    (db.submissions.rows.find? (·.id = submissionId)).map (·.toSubmissionRecord.load) =
        some record ∧
      (db.problems.rows.find? (·.id = record.problemId)).map ProblemRow.load = some problem ∧
        let task := toJudgeTask record.language record.sourceCode problem
          (db.testcases.ofProblem record.problemId)
        result = judge task ∧ dump (buildPerCaseJson task result) = some perCase

/-- What a successful rejudge of a submission leaves: only its result is replaced, and only the
status of its user and problem is recomputed, from the submissions as they are now. -/
structure Replaced (dump : Dump) (judge : JudgeTask → JudgeResult) (before after : Db)
    (submissionId : ℤ) : Prop where
  submissions : ∃ (result : JudgeResult) (perCase : Bytes),
    Judged dump judge before submissionId result perCase ∧ result.status ≠ .SYSERR ∧
    after.submissions =
      { before.submissions with
        rows := before.submissions.rows.map fun row =>
          if row.id = submissionId then
            { row with
              status := result.status
              perCase := perCase
              compileMsg := result.compileOutput
              runtimeMs := totalRuntimeMs result
              memoryKb := peakMemoryKb result }
          else row }
  status : ∃ row ∈ before.submissions.rows, row.id = submissionId ∧
    after.statusOf row.userId row.problemId =
      some
        { userId := row.userId
          problemId := row.problemId
          accepted := (after.submissions.ofUser row.userId row.problemId).any (·.status = .AC)
          firstAcAt :=
            (earliest (after.submissions.acceptedTimes row.userId row.problemId)).map
              Bytes.columnText
          submitCount :=
            match before.statusOf row.userId row.problemId with
            | some old => old.submitCount
            | none => (before.submissions.ofUser row.userId row.problemId).length } ∧
    after.statuses.filter (fun old => ¬old.isFor row.userId row.problemId) =
      before.statuses.filter fun old => ¬old.isFor row.userId row.problemId
  users : after.users = before.users
  problems : after.problems = before.problems
  testcases : after.testcases = before.testcases
  inFlight : after.inFlight = before.inFlight

/-- An upsert leaves the statuses of other users and problems alone. -/
theorem upsertStatus_others {db : Db} {row : StatusRow} {rows : List StatusRow}
    (upserted : db.upsertStatus row = some rows) :
    rows.filter (fun old => ¬old.isFor row.userId row.problemId) =
      db.statuses.filter fun old => ¬old.isFor row.userId row.problemId := by
  unfold Db.upsertStatus at upserted
  split at upserted
  case isTrue =>
    rcases Option.some.inj upserted with rfl
    induction db.statuses with
    | nil => rfl
    | cons old rest ih =>
        by_cases replaced : old.isFor row.userId row.problemId = true
        · have own : row.isFor row.userId row.problemId = true := by simp [StatusRow.isFor]
          simp only [List.map_cons, List.filter_cons, replaced, own, if_true, not_true_eq_false,
            decide_false, Bool.false_eq_true, if_false]
          exact ih
        · simp only [List.map_cons, List.filter_cons, replaced, if_false, not_false_eq_true,
            decide_true, if_true, Bool.false_eq_true]
          rw [ih]
  case isFalse =>
    rw [Option.ite_none_right_eq_some] at upserted
    rcases upserted with ⟨_, ⟨⟩⟩
    simp [List.filter_append, StatusRow.isFor]

/-- The call failed and left the contents alone. -/
def Untouched (before : Db) (events : List Event) (final : Connection Db) : Prop :=
  ¬ReturnsOk events ∧ final.committed = before

section Failures

variable {fails : Prop} {event : Event} {connection final : Connection Db} {events : List Event}
  {before : Db}

theorem not_returnsOk (failure : ∀ outcome, event = .settled outcome → outcome.kind ≠ .ok) :
    ¬ReturnsOk [event] := by
  rintro ⟨outcome, mem, isOk⟩
  exact failure outcome (List.mem_singleton.mp mem).symm isOk

theorem untouched_finish
    (solo : Solo Db.execute fails (Program.finish event) connection events final)
    (base : connection.committed = before)
    (failure : ∀ outcome, event = .settled outcome → outcome.kind ≠ .ok) :
    Untouched before events final := by
  rcases solo_finish solo with ⟨rfl, rfl⟩
  exact ⟨not_returnsOk failure, base⟩

theorem untouched_rollbackWith
    (solo : Solo Db.execute fails (Program.rollbackWith event) connection events final)
    (base : connection.committed = before)
    (failure : ∀ outcome, event = .settled outcome → outcome.kind ≠ .ok) :
    Untouched before events final := by
  rcases solo_rollbackWith solo with ⟨rfl, rfl⟩
  exact ⟨not_returnsOk failure, base⟩

theorem internalError_not_ok (outcome : Outcome) (isError : internalError = .settled outcome) :
    outcome.kind ≠ .ok := by
  cases isError
  decide

end Failures

section Rejudge

variable {fails : Prop} {final : Connection Db} {events : List Event} {base work : Db}
  {success : Event}

/-- The end of the transaction: the recomputed status and the commit. -/
theorem solo_finishRecompute {userId problemId count : ℤ}
    (solo : Solo Db.execute fails
      (recomputeStatus.finishRecompute userId problemId (Program.rollbackWith internalError)
        (Program.commitWith success internalError) count)
      { committed := base, work := some work } events final) :
    Untouched base events final ∨
      ∃ rows, work.upsertStatus
          { userId := userId
            problemId := problemId
            accepted := (earliest (work.submissions.acceptedTimes userId problemId)).isSome
            firstAcAt :=
              (earliest (work.submissions.acceptedTimes userId problemId)).map Bytes.columnText
            submitCount := count } = some rows ∧
        events = [success] ∧
          final = { committed := { work with statuses := rows }, work := none } := by
  cases solo with
  | execFails _ rest => exact .inl (untouched_rollbackWith rest rfl internalError_not_ok)
  | executes executed rest =>
      rcases Prod.mk.inj (Option.some.inj executed) with ⟨rfl, rfl⟩
      cases rest with
      | execFails _ rest => exact .inl (untouched_rollbackWith rest rfl internalError_not_ok)
      | executes executed rest =>
          simp only [Db.execute, StatusStmt.run, Option.map_map, Option.map_eq_some_iff,
            Function.comp_apply, Prod.mk.injEq] at executed
          rcases executed with ⟨rows, upserted, _, rfl⟩
          rcases solo_commitWith rfl rest with ⟨rfl, rfl⟩ | ⟨rfl, rfl⟩
          · exact .inr ⟨rows, upserted, rfl, rfl⟩
          · exact .inl ⟨not_returnsOk internalError_not_ok, rfl⟩

theorem solo_recomputeStatus {userId problemId : ℤ}
    (solo : Solo Db.execute fails
      (recomputeStatus userId problemId (Program.rollbackWith internalError)
        (Program.commitWith success internalError))
      { committed := base, work := some work } events final) :
    Untouched base events final ∨
      ∃ rows, work.upsertStatus
          { userId := userId
            problemId := problemId
            accepted := (earliest (work.submissions.acceptedTimes userId problemId)).isSome
            firstAcAt :=
              (earliest (work.submissions.acceptedTimes userId problemId)).map Bytes.columnText
            submitCount :=
              match work.statusOf userId problemId with
              | some old => old.submitCount
              | none => (work.submissions.ofUser userId problemId).length } = some rows ∧
        events = [success] ∧
          final = { committed := { work with statuses := rows }, work := none } := by
  cases solo with
  | execFails _ rest => exact .inl (untouched_rollbackWith rest rfl internalError_not_ok)
  | executes executed rest =>
      rcases Prod.mk.inj (Option.some.inj executed) with ⟨answer, rfl⟩
      change (work.statusOf userId problemId).map (·.submitCount) = _ at answer
      cases stored : work.statusOf userId problemId with
      | some old =>
          rw [stored] at answer
          subst answer
          exact solo_finishRecompute rest
      | none =>
          rw [stored] at answer
          subst answer
          cases rest with
          | execFails _ rest => exact .inl (untouched_rollbackWith rest rfl internalError_not_ok)
          | executes executed rest =>
              rcases Prod.mk.inj (Option.some.inj executed) with ⟨rfl, rfl⟩
              exact solo_finishRecompute rest

/-- The update and the recomputed status amount to a replaced result. -/
theorem replaced_of_upsert {dump : Dump} {judge : JudgeTask → JudgeResult}
    {original : SubmissionRow} {updated : SubmissionRecord} {result : JudgeResult}
    {rows : List StatusRow} (judged : Judged dump judge base updated.id result updated.perCase)
    (mem : original ∈ base.submissions.rows)
    (isSubmission : original.id = updated.id) (isUser : original.userId = updated.userId)
    (isProblem : original.problemId = updated.problemId)
    (isResult : updated.status = result.status ∧ updated.compileMsg = result.compileOutput ∧
      updated.runtimeMs = totalRuntimeMs result ∧ updated.memoryKb = peakMemoryKb result)
    (verdict : result.status ≠ .SYSERR)
    (upserted :
      let table : SubmissionTable :=
        { base.submissions with rows := base.submissions.rows.map (·.updated updated) }
      Db.upsertStatus { base with submissions := table }
        { userId := updated.userId
          problemId := updated.problemId
          accepted := (earliest (table.acceptedTimes updated.userId updated.problemId)).isSome
          firstAcAt :=
            (earliest (table.acceptedTimes updated.userId updated.problemId)).map Bytes.columnText
          submitCount :=
            match base.statusOf updated.userId updated.problemId with
            | some old => old.submitCount
            | none => (table.ofUser updated.userId updated.problemId).length } = some rows) :
    Replaced dump judge base
      { base with
        submissions :=
          { base.submissions with rows := base.submissions.rows.map (·.updated updated) }
        statuses := rows } updated.id := by
  rcases isResult with ⟨status, compileMsg, runtimeMs, memoryKb⟩
  refine ⟨⟨result, updated.perCase, judged, verdict, ?_⟩, ⟨original, mem, isSubmission, ?_, ?_⟩,
    rfl, rfl, rfl, rfl⟩
  · simp only [← status, ← compileMsg, ← runtimeMs, ← memoryKb]
    rfl
  · have found := upsertStatus_find upserted updated.userId updated.problemId
    rw [if_pos ⟨rfl, rfl⟩] at found
    rw [isUser, isProblem, Db.statusOf, found, SubmissionTable.any_accepted]
    simp only [SubmissionTable.ofUser_update, List.length_map]
  · rw [isUser, isProblem]
    exact upsertStatus_others upserted

/-- The transaction of a rejudge, from contents in which the submission was read. -/
theorem solo_storeRejudge {dump : Dump} {judge : JudgeTask → JudgeResult}
    {original : SubmissionRow} {updated : SubmissionRecord} {result : JudgeResult}
    (judged : Judged dump judge base updated.id result updated.perCase)
    (mem : original ∈ base.submissions.rows)
    (isSubmission : original.id = updated.id) (isUser : original.userId = updated.userId)
    (isProblem : original.problemId = updated.problemId)
    (isResult : updated.status = result.status ∧ updated.compileMsg = result.compileOutput ∧
      updated.runtimeMs = totalRuntimeMs result ∧ updated.memoryKb = peakMemoryKb result)
    (verdict : result.status ≠ .SYSERR)
    (solo : Solo Db.execute fails (storeRejudge updated result)
      { committed := base, work := none } events final) :
    Untouched base events final ∨
      ReturnsOk events ∧ Replaced dump judge base final.committed original.id := by
  rw [isSubmission]
  rcases solo_beginWith solo with ⟨rfl, rfl⟩ | solo
  · exact .inl ⟨not_returnsOk internalError_not_ok, rfl⟩
  cases solo with
  | execFails _ rest => exact .inl (untouched_rollbackWith rest rfl internalError_not_ok)
  | @executes _ _ _ _ _ again _ executed rest =>
      rcases Prod.mk.inj (Option.some.inj executed) with ⟨_, rfl⟩
      cases again with
      | none => exact .inl (untouched_rollbackWith rest rfl (by rintro _ ⟨⟩; decide))
      | some again =>
          cases rest with
          | execFails _ rest => exact .inl (untouched_rollbackWith rest rfl internalError_not_ok)
          | executes executed rest =>
              rcases Prod.mk.inj (Option.some.inj executed) with ⟨rfl, rfl⟩
              rcases solo_recomputeStatus rest with untouched | ⟨rows, upserted, rfl, rfl⟩
              · exact .inl untouched
              · exact .inr ⟨⟨_, List.mem_singleton_self _, rfl⟩,
                  replaced_of_upsert judged mem isSubmission isUser isProblem isResult verdict
                    upserted⟩

theorem returnsOk_judging {problemId : ℤ} {records : List TestcaseRow} :
    ReturnsOk (.judging problemId records :: events) ↔ ReturnsOk events := by
  simp [ReturnsOk]

theorem submissionMissing_not_ok (outcome : Outcome)
    (isError : submissionMissing = .settled outcome) : outcome.kind ≠ .ok := by
  cases isError
  nofun

/-- Every end of a rejudge that runs by itself. -/
theorem solo_rejudge {dump : Dump} {judge : JudgeTask → JudgeResult} {submissionId : ℤ}
    (solo : Solo Db.execute fails (rejudge dump judge submissionId)
      { committed := base, work := none } events final) :
    Untouched base events final ∨
      ReturnsOk events ∧ Replaced dump judge base final.committed submissionId := by
  have findsSubmission (id : ℤ) (reply : Option SubmissionRecord) (after : Db)
      (executed : Db.execute (.submissions (.findById id)) base = some (reply, after)) :
      after = base := (Prod.mk.inj (Option.some.inj executed)).2.symm
  have lists (problemId : ℤ) (reply : List TestcaseRow) (after : Db)
      (executed : Db.execute (.testcases (.list problemId)) base = some (reply, after)) :
      after = base := (Prod.mk.inj (Option.some.inj executed)).2.symm
  rcases solo_read (findsSubmission submissionId) solo with rest | ⟨found, executed, rest⟩
  · exact .inl (untouched_finish rest rfl internalError_not_ok)
  rcases found with _ | original
  · exact .inl (untouched_finish rest rfl submissionMissing_not_ok)
  rcases Option.map_eq_some_iff.mp (Prod.mk.inj (Option.some.inj executed)).1 with
    ⟨row, first, rfl⟩
  have mem : row ∈ base.submissions.rows := List.mem_of_find?_eq_some first
  have isSubmission : row.id = submissionId := by simpa using List.find?_some first
  rcases solo_read (fun _ _ executed => (findProblem_executed executed).1) rest with
    rest | ⟨found, looked, rest⟩
  · exact .inl (untouched_finish rest rfl internalError_not_ok)
  rcases found with _ | problem
  · refine .inl (untouched_finish rest rfl ?_)
    rintro outcome ⟨⟩
    nofun
  have isProblem := (Prod.mk.inj (Option.some.inj looked)).1
  rcases solo_read (lists _) rest with rest | ⟨records, listed, rest⟩
  · exact .inl (untouched_finish rest rfl internalError_not_ok)
  rcases (Prod.mk.inj (Option.some.inj listed)).1 with rfl
  cases rest with
  | emit rest =>
      rw [returnsOk_judging, Untouched, returnsOk_judging]
      split at rest
      case isTrue =>
        refine .inl (untouched_finish rest rfl ?_)
        rintro outcome ⟨⟩
        nofun
      case isFalse verdict =>
        split at rest
        case h_1 =>
          refine .inl (untouched_finish rest rfl ?_)
          rintro outcome ⟨⟩
        case h_2 perCase dumped =>
          rw [← isSubmission]
          refine solo_storeRejudge ⟨row.load, problem, ?_, isProblem, rfl, dumped⟩ mem ?_ ?_ ?_ ?_
            verdict rest
          · change (base.submissions.rows.find? (·.id = row.id)).map _ = _
            rw [isSubmission, first]
            rfl
          · rfl
          · rfl
          · rfl
          · exact ⟨rfl, rfl, rfl, rfl⟩

end Rejudge

/-- A rejudge that runs by itself, with its calls failing anywhere: it returns success and has
replaced the result of the submission, or it returns something else and the submissions and the
statuses are as before. -/
theorem rejudge_all_or_nothing {dump : Dump} {task : SubmissionTask}
    {judge : JudgeTask → JudgeResult} {now : Bytes} {before : Db} {state : State}
    {thread : SharedConnection.Thread Reply Event Call} (rejudges : task.rejudgeSubmissionId ≠ 0)
    (reaches : (server dump).system.Reaches (Alone 0 True)
      ((server dump).spawn (.initial before) (.handle task judge now)) state)
    (born : state.threads 0 = some thread) (returned : thread.program = some .done) :
    (ReturnsOk thread.events ∧
        Replaced dump judge before state.committed task.rejudgeSubmissionId) ∨
      ¬ReturnsOk thread.events ∧ state.committed.submissions = before.submissions ∧
        state.committed.statuses = before.statuses := by
  have solo := solo_of_alone reaches born returned
  rw [Call.body, Service.handle, if_pos rejudges] at solo
  rcases solo_rejudge solo with ⟨failed, untouched⟩ | replaced
  · change state.committed = before at untouched
    exact .inr ⟨failed, by rw [untouched], by rw [untouched]⟩
  · exact .inl replaced

section Runs

/-- A user has one wrong answer, of which the table of statuses knows nothing. -/
def wrongOnce : Db where
  users :=
    { rows :=
        [{ id := 1, account := [97], nickname := [98], passwordHash := [1], role := .user
           resetPwdFlag := 0, createdAt := [50] }]
      nextId := 2 }
  problems :=
    { rows :=
        [{ id := 1, title := [97], description := [], difficulty := .easy, tags := []
           timeLimitMs := 1000, memoryLimitKb := 65536, visible := true
           createdAt := [50], updatedAt := [50] }]
      nextId := 2 }
  submissions :=
    { rows :=
        [{ id := 1, userId := 1, problemId := 1, language := [99], sourceCode := [120]
           status := .WA, perCase := [], compileMsg := [], runtimeMs := 0, memoryKb := 0
           createdAt := [50], settles := none }]
      nextId := 2 }

def acceptedRejudge : Call :=
  .handle { rejudgeSubmissionId := 1 } (fun _ => { status := .AC }) []

theorem rejudge_all_or_nothing_accepted :
    ∃ (state : State) (thread : SharedConnection.Thread Reply Event Call),
      (server fun _ => some []).system.run
          ((server fun _ => some []).spawn (.initial wrongOnce) acceptedRejudge)
          (List.replicate 15 (.run 0 true)) = some state ∧
        state.threads 0 = some thread ∧ thread.program = some .done ∧
        (state.committed.submissions.rows.map (·.status)) = [.AC] ∧
        ((ReturnsOk thread.events ∧
            Replaced (fun _ => some []) (fun _ => { status := .AC }) wrongOnce state.committed 1) ∨
          ¬ReturnsOk thread.events ∧ state.committed.submissions = wrongOnce.submissions ∧
            state.committed.statuses = wrongOnce.statuses) := by
  have execution : ∃ (state : State) (thread : SharedConnection.Thread Reply Event Call),
      (server fun _ => some []).system.run
          ((server fun _ => some []).spawn (.initial wrongOnce) acceptedRejudge)
          (List.replicate 15 (.run 0 true)) = some state ∧
        state.threads 0 = some thread ∧ thread.program = some .done ∧
        (state.committed.submissions.rows.map (·.status)) = [.AC] :=
    ⟨_, _, rfl, rfl, rfl, rfl⟩
  rcases execution with ⟨state, thread, execution, born, returned, status⟩
  refine ⟨state, thread, execution, born, returned, status, ?_⟩
  have alone : ∀ label ∈ List.replicate 15 (.run 0 true : Label),
      label = .run 0 true ∨ True ∧ label = .run 0 false :=
    fun label mem => .inl (List.eq_of_mem_replicate mem)
  have reaches : (server fun _ => some []).system.Reaches (Alone 0 True)
      ((server fun _ => some []).spawn (.initial wrongOnce) acceptedRejudge) state :=
    TransitionSystem.reaches_of_run (TransitionSystem.admits_of_forall_mem alone _) execution
  have nonzero : (1 : ℤ) ≠ 0 := by decide
  exact rejudge_all_or_nothing nonzero reaches born returned

end Runs

end Service

end OnlineJudge
