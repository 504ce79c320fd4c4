import OnlineJudge.Service.Footprint

/-!
# Every accepted task is settled exactly once

The ledger of accepted tasks is exact in every committed contents, over all
interleavings, failures of statements and crashes: only acceptance, settlement and the
deletion of a problem touch it, and each keeps it as a whole transaction. Statements
that join a transaction from outside change neither which tasks there are nor which of
them are interrupted.
-/

namespace OnlineJudge

namespace Service

open Judge Db Library Library.SharedConnection

/-- The thread has returned `PersistKind::Ok` for the task. -/
def Accepts (events : List Event) (taskId : TaskId) : Prop :=
  ∃ error, Event.persisted .ok taskId error ∈ events

/-- The event accepts no task. -/
def Event.IsQuiet (event : Event) : Prop := ∀ taskId error, event ≠ .persisted .ok taskId error

theorem LedgerExact.of_effect {before after : Db} {owed : Option TaskId} {deleting : Option ℤ}
    (ledger : before.LedgerExact owed deleting) (effect : BareEffect before after) :
    after.LedgerExact owed deleting := by
  refine ledger.congr (fun taskId => ?_) (fun taskId => ?_) effect.purged effect.accepted
    fun row _ has => ?_
  · have counted : ∀ table : InFlightTable,
        table.rowsOf taskId = ((table.rows.map entry).map Prod.fst).count taskId := by
      intro table
      rw [List.map_map, InFlightTable.rowsOf, List.count, List.countP_map]
      exact List.countP_congr fun row _ => by simp [entry]
    rw [counted, counted, effect.entries]
  · rw [effect.submissions]
  · rw [hasProblem, effect.problems] at has
    exact has

/-- Every statement but those that accept, settle or purge keeps the ledger exact. -/
def LeavesLedger : Stmt → Prop
  | .users _ => True
  | .testcases _ => True
  | .statuses _ => True
  | .problems (.delete _) => False
  | .problems _ => True
  | .submissions (.insert ..) => False
  | .submissions _ => True
  | .inFlight (.markInterrupted ..) => True
  | _ => False

theorem SubmissionTable.settlementsOf_update (table : SubmissionTable)
    (record : SubmissionRecord) (taskId : TaskId) :
    SubmissionTable.settlementsOf { table with rows := table.rows.map (·.updated record) }
      taskId = table.settlementsOf taskId := by
  simp only [SubmissionTable.settlementsOf, List.countP_map]
  refine List.countP_congr fun row _ => ?_
  have same : (row.updated record).settles = row.settles := by
    unfold SubmissionRow.updated
    split <;> rfl
  simp [same]

theorem LeavesLedger.keeps {stmt : Stmt} {before after : Db} {reply : Reply stmt}
    (leaves : LeavesLedger stmt) (basic : before.LedgerBasic)
    (ledger : before.LedgerExact none none)
    (executed : execute stmt before = some (reply, after)) : after.LedgerExact none none := by
  cases stmt with
  | users own =>
      rcases Option.some.inj executed with ⟨⟩
      exact ⟨ledger.balance, ledger.purged⟩
  | testcases own =>
      cases Executed.of_execute executed
      exact ⟨ledger.balance, ledger.purged⟩
  | statuses own => exact ledger.of_statuses own executed
  | problems own =>
      cases Executed.of_execute executed with
      | problems _ ran => exact ledger.problems basic ran
  | submissions own =>
      cases own with
      | insert record settles => exact leaves.elim
      | update record =>
          rcases Option.some.inj executed with ⟨⟩
          exact ledger.congr (fun _ => rfl)
            (SubmissionTable.settlementsOf_update before.submissions record) rfl rfl
            fun _ _ has => has
      | findById | countForProblem | countFor | minAcceptedAt =>
          rcases Option.some.inj executed with ⟨⟩
          exact ledger
  | inFlight own =>
      cases own with
      | markInterrupted taskId reason =>
          rcases Option.some.inj executed with ⟨⟩
          exact ledger.mapRows (interruptedFor_keepsTask taskId reason)
      | insert | removeByTaskId | listPending | claim | resetStaleClaims | countForProblem
      | deleteForProblem => exact leaves.elim

/-- Every promise of an acceptance is a promise about the committed contents. -/
def ledgerContract (dump : Dump) : Contract (server dump) where
  Inv := LedgerExact none none
  Basic := LedgerBasic
  Grows := fun before after => before.inFlight.accepted <+: after.inFlight.accepted
  Used := fun _ => True
  Bare := IsBare
  Observed := fun _ _ => false
  Promise := fun _ _ events db => ∀ taskId, Accepts events taskId →
    taskId ∈ db.inFlight.accepted
  grows_refl := fun _ => List.prefix_rfl
  grows_trans := List.IsPrefix.trans
  bare_used := fun _ => trivial
  used_keeps := fun _ basic executed => basic.execute executed
  bare_inv := fun bare _ ledger executed => LedgerExact.of_effect ledger (bare.effect executed)
  promise_mono := fun grows promised taskId accepts => grows.subset (promised taskId accepts)

section Safety

variable {dump : Dump} {id : ThreadId} {call : Call} {seen work : Db} {events : List Event}

theorem promise_quiet {event : Event} (quiet : event.IsQuiet)
    (promised : (ledgerContract dump).Promise id call events seen) :
    (ledgerContract dump).Promise id call (events ++ [event]) seen := by
  rintro taskId ⟨error, mem⟩
  rcases List.mem_append.mp mem with mem | mem
  · exact promised taskId ⟨error, mem⟩
  · exact absurd (List.mem_singleton.mp mem).symm (quiet taskId error)

/-- The ledger of an open transaction is that of its contents when they were last seen. -/
theorem ledger_of_interferes {before after : Db} {owed : Option TaskId} {deleting : Option ℤ}
    (ledger : before.LedgerExact owed deleting)
    (interferes : (ledgerContract dump).Interferes before after) :
    after.LedgerExact owed deleting :=
  LedgerExact.of_effect ledger (interferes_effect (fun _ bare => bare) interferes)

theorem safe_commit_quiet {success failure : Event} (ledger : work.LedgerExact none none)
    (promised : (ledgerContract dump).Promise id call events seen)
    (quietSuccess : success.IsQuiet) (quietFailure : failure.IsQuiet) :
    (ledgerContract dump).Safe ((ledgerContract dump).Promise id call)
      (Program.commitWith success failure) (.active work) seen events := by
  refine safe_commitWith (fun later _ grown interferes => ⟨?_, ?_⟩)
    (promise_quiet quietFailure promised)
  · exact ledger_of_interferes ledger interferes
  · exact promise_quiet quietSuccess ((ledgerContract dump).promise_mono grown promised)

private theorem insertInFlight_safe {request : PersistRequest} (submittedAt : Bytes)
    (attempts attempt : ℕ) (ledger : work.LedgerExact none none)
    (promised : (ledgerContract dump).Promise id call events seen) :
    (ledgerContract dump).Safe ((ledgerContract dump).Promise id call)
      (insertInFlight request submittedAt (.persisted .internalError [] internalErrorText)
        attempts attempt) (.active work) seen events := by
  induction attempts generalizing attempt work with
  | zero => exact safe_rollbackWith (promise_quiet (by nofun) promised)
  | succ attempts ih =>
      refine ⟨trivial, ?_, safe_rollbackWith (promise_quiet (by nofun) promised)⟩
      rintro later (newId | _) after basic interferes executed
      · rcases insertInFlight_row executed with ⟨row, isTask, rfl⟩
        refine safe_commitWith (fun final _ grown interferes' => ⟨?_, ?_⟩)
          (promise_quiet (by nofun) promised)
        · exact ledger_of_interferes
            ((ledger_of_interferes ledger interferes).insertInFlight row _) interferes'
        · have kept : (ledgerContract dump).Promise id call events final :=
            (ledgerContract dump).promise_mono grown promised
          rintro taskId ⟨error, mem⟩
          rcases List.mem_append.mp mem with mem | mem
          · exact kept taskId ⟨error, mem⟩
          · rcases List.mem_singleton.mp mem with ⟨⟩
            rw [(interferes_effect (fun _ bare => bare) interferes').accepted, isTask]
            simp
      · rw [insertInFlight_taken executed]
        exact ih (attempt + 1) (ledger_of_interferes ledger interferes)

private theorem persistInFlight_safe (request : PersistRequest) (now : Bytes)
    (promised : (ledgerContract dump).Promise id call events seen) :
    (ledgerContract dump).Safe ((ledgerContract dump).Promise id call)
      (persistInFlight request now) .idle seen events := by
  refine safe_beginWith (fun db _ ledger _ => ?_) (promise_quiet (by nofun) promised)
  refine ⟨trivial, ?_, safe_rollbackWith (promise_quiet (by nofun) promised)⟩
  rintro later (_ | problem) after - interferes executed
  · exact safe_rollbackWith (promise_quiet (by nofun) promised)
  · rcases findProblem_executed executed with ⟨rfl, -⟩
    exact insertInFlight_safe _ _ _ (ledger_of_interferes ledger interferes) promised

private theorem storeSubmission_safe (record : SubmissionRecord) (settles : Option TaskId)
    (result : JudgeResult) (ledger : work.LedgerExact settles none)
    (promised : (ledgerContract dump).Promise id call events seen) :
    (ledgerContract dump).Safe ((ledgerContract dump).Promise id call)
      (storeSubmission record settles result) (.active work) seen events := by
  have fails : ∀ {work}, (ledgerContract dump).Safe ((ledgerContract dump).Promise id call)
      (Program.rollbackWith internalError) (.active work) seen events :=
    safe_rollbackWith (promise_quiet (by nofun) promised)
  refine ⟨trivial, ?_, fails⟩
  rintro inserting newId inserted - interferes executed
  rcases insertSubmission_row executed with ⟨-, rfl⟩
  have paid := (ledger_of_interferes ledger interferes).insertSubmission
    { record with id := inserting.submissions.nextId, settles := settles } rfl
    (inserting.submissions.nextId + 1)
  refine ⟨trivial, ?_, fails⟩
  rintro finding found foundAfter - interferes executed
  have foundLedger := LedgerExact.of_statuses (.find record.userId record.problemId)
    (ledger_of_interferes paid interferes) executed
  dsimp only
  refine ⟨trivial, ?_, fails⟩
  rintro writing _ written - interferes executed
  have writtenLedger := LedgerExact.of_statuses (.upsert _)
    (ledger_of_interferes foundLedger interferes) executed
  exact safe_commit_quiet writtenLedger promised (by nofun) (by nofun)

private theorem settle_safe (task : SubmissionTask) (record : SubmissionRecord)
    (result : JudgeResult)
    (promised : (ledgerContract dump).Promise id call events seen) :
    (ledgerContract dump).Safe ((ledgerContract dump).Promise id call)
      (settle task record result) .idle seen events := by
  have fails : ∀ {event work}, event.IsQuiet →
      (ledgerContract dump).Safe ((ledgerContract dump).Promise id call)
        (Program.rollbackWith event) (.active work) seen events :=
    fun quiet => safe_rollbackWith (promise_quiet quiet promised)
  refine safe_beginWith (fun db _ ledger _ => ?_) (promise_quiet (by nofun) promised)
  refine ⟨trivial, ?_, fails (by nofun)⟩
  rintro later (_ | problem) after - interferes executed
  · rcases findProblem_executed executed with ⟨rfl, -⟩
    have ledger := ledger_of_interferes ledger interferes
    dsimp only
    split
    · exact fails (by nofun)
    · refine ⟨trivial, ?_, fails (by nofun)⟩
      rintro marking _ marked - interferes executed
      rcases Option.some.inj executed with ⟨⟩
      exact safe_commit_quiet
        ((ledger_of_interferes ledger interferes).mapRows
          (interruptedFor_keepsTask task.inFlightTaskId problemMissingReason))
        promised (by nofun) (by nofun)
  · rcases findProblem_executed executed with ⟨rfl, -⟩
    have ledger := ledger_of_interferes ledger interferes
    dsimp only
    split
    · exact storeSubmission_safe record none result ledger promised
    · refine ⟨trivial, ?_, fails (by nofun)⟩
      rintro removing (_ | _) removed basic interferes executed
      · exact fails (by nofun)
      · rcases Prod.mk.inj (Option.some.inj executed) with ⟨found, rfl⟩
        exact storeSubmission_safe record _ result
          ((ledger_of_interferes ledger interferes).remove basic found) promised

private theorem safe_read {stmt : Stmt} {next : Option (Reply stmt) → Program}
    (bare : IsBare stmt)
    (promised : (ledgerContract dump).Promise id call events seen)
    (continues : ∀ answer known, (ledgerContract dump).Promise id call events known →
      (ledgerContract dump).Safe ((ledgerContract dump).Promise id call) (next answer) .idle
        known events) :
    (ledgerContract dump).Safe ((ledgerContract dump).Promise id call) (.exec stmt next) .idle
      seen events :=
  ⟨bare, fun _ _ reply _ known answered => continues (some reply) known
    ((ledgerContract dump).promise_mono answered.seen_known promised),
    continues none seen promised⟩

private theorem settleInterrupted_safe (taskId : TaskId) (reason : Bytes) {event : Event}
    (quiet : event.IsQuiet) (promised : (ledgerContract dump).Promise id call events seen) :
    (ledgerContract dump).Safe ((ledgerContract dump).Promise id call)
      (settleInterrupted taskId reason (Program.finish event)) .idle seen events := by
  have uses : Uses LeavesLedger (fun _ => False) Event.IsQuiet
      (settleInterrupted taskId reason (Program.finish event)) .idle :=
    settleInterrupted_uses trivial (uses_finish quiet)
  exact Contract.Uses.safe (fun stmt leaves => ⟨trivial, fun _ _ _ => leaves.keeps⟩)
    (fun _ never => never.elim) (fun _ _ _ quiet => promise_quiet quiet) .idle uses trivial promised

private theorem submit_safe (judge : JudgeTask → JudgeResult) (now : Bytes)
    (task : SubmissionTask) (promised : (ledgerContract dump).Promise id call events seen) :
    (ledgerContract dump).Safe ((ledgerContract dump).Promise id call)
      (submit dump judge now task) .idle seen events := by
  refine safe_read (.findProblem _) promised ?_
  rintro (_ | _ | problem) seen promised
  · exact safe_finish (promise_quiet (by nofun) promised)
  · exact settleInterrupted_safe _ _ (by nofun) promised
  dsimp only
  split
  · exact safe_finish (promise_quiet (by nofun) promised)
  refine safe_read (.listTestcases _) promised ?_
  rintro (_ | records) seen promised
  · exact safe_finish (promise_quiet (by nofun) promised)
  have judging : (ledgerContract dump).Promise id call
      (events ++ [.judging task.problemId records]) seen := promise_quiet (by nofun) promised
  refine ⟨judging, ?_⟩
  split
  · exact safe_finish (promise_quiet (by nofun) judging)
  · exact settle_safe task _ _ judging

/-- No task of the problem can be judged any more. -/
def AllInterrupted (db : Db) (problemId : ℤ) : Prop :=
  ∀ row ∈ db.inFlight.rows, row.problemId = problemId → row.state = .interrupted

theorem AllInterrupted.of_effect {before after : Db} {problemId : ℤ}
    (interrupted : AllInterrupted before problemId) (effect : BareEffect before after) :
    AllInterrupted after problemId := by
  intro row mem isProblem
  have kept : entry row ∈ before.inFlight.rows.map entry :=
    effect.entries ▸ List.mem_map_of_mem mem
  rcases List.mem_map.mp kept with ⟨old, stored, same⟩
  rcases Prod.mk.inj same with ⟨-, same⟩
  rcases Prod.mk.inj same with ⟨sameProblem, sameState⟩
  exact sameState.mp (interrupted old stored (sameProblem.trans isProblem))

private theorem allInterrupted_of_count {db : Db} {problemId : ℤ}
    (none : ¬0 < (db.inFlight.rows.filter fun row =>
      row.problemId = problemId ∧ row.state ≠ .interrupted).length) :
    AllInterrupted db problemId := by
  intro row mem isProblem
  by_contra running
  exact none (List.length_pos_of_mem
    (List.mem_filter.mpr ⟨mem, by simp [isProblem, running]⟩))

/-- The contents in which the rows of a problem may be purged. -/
structure Purgeable (problemId : ℤ) (db : Db) : Prop where
  ledger : db.LedgerExact none none
  interrupted : AllInterrupted db problemId

private theorem Purgeable.of_interferes {before after : Db} {problemId : ℤ}
    (purgeable : Purgeable problemId before)
    (interferes : (ledgerContract dump).Interferes before after) : Purgeable problemId after :=
  ⟨ledger_of_interferes purgeable.ledger interferes,
    purgeable.interrupted.of_effect (interferes_effect (fun _ bare => bare) interferes)⟩

private theorem deleteProblemRows_safe {problemId : ℤ} {failure success : Event}
    (purgeable : Purgeable problemId work)
    (promised : (ledgerContract dump).Promise id call events seen)
    (quietFailure : failure.IsQuiet) (quietSuccess : success.IsQuiet) :
    (ledgerContract dump).Safe ((ledgerContract dump).Promise id call)
      (deleteProblemRows problemId (Program.rollbackWith failure)
        (Program.commitWith success failure)) (.active work) seen events := by
  have fails : ∀ {work}, (ledgerContract dump).Safe ((ledgerContract dump).Promise id call)
      (Program.rollbackWith failure) (.active work) seen events :=
    safe_rollbackWith (promise_quiet quietFailure promised)
  refine ⟨trivial, ?_, fails⟩
  rintro before _ withoutCases - interferes executed
  have purgeable : Purgeable problemId withoutCases := by
    rcases Option.some.inj executed with ⟨⟩
    rcases purgeable.of_interferes interferes with ⟨⟨balance, purged⟩, interrupted⟩
    exact ⟨⟨balance, purged⟩, interrupted⟩
  refine ⟨trivial, ?_, fails⟩
  rintro before _ withoutStatuses - interferes executed
  have purgeable : Purgeable problemId withoutStatuses := by
    rcases Option.some.inj executed with ⟨⟩
    rcases purgeable.of_interferes interferes with ⟨⟨balance, purged⟩, interrupted⟩
    exact ⟨⟨balance, purged⟩, interrupted⟩
  refine ⟨trivial, ?_, fails⟩
  rintro before _ purged - interferes executed
  have ledger : purged.LedgerExact none (some problemId) := by
    have purgeable := purgeable.of_interferes interferes
    rcases Option.some.inj executed with ⟨⟩
    exact purgeable.ledger.purge purgeable.interrupted
  refine ⟨trivial, ?_, fails⟩
  rintro before _ deleted - interferes executed
  have ledger := ledger_of_interferes ledger interferes
  have executed : execute (.problems (.delete problemId)) before = some ((), deleted) := executed
  simp only [execute, ProblemStmt.run, Option.map_eq_some_iff, Option.ite_none_left_eq_some,
    Option.some.injEq, Prod.mk.injEq] at executed
  rcases executed with ⟨_, ⟨-, rfl⟩, -, rfl⟩
  exact safe_commit_quiet (ledger.deleteProblem _) promised quietSuccess quietFailure

private theorem removeProblem_safe (problemId : ℤ)
    (promised : (ledgerContract dump).Promise id call events seen) :
    (ledgerContract dump).Safe ((ledgerContract dump).Promise id call)
      (removeProblem problemId) .idle seen events := by
  have fails : ∀ {event work}, event.IsQuiet →
      (ledgerContract dump).Safe ((ledgerContract dump).Promise id call)
        (Program.rollbackWith event) (.active work) seen events :=
    fun quiet => safe_rollbackWith (promise_quiet quiet promised)
  refine safe_beginWith (fun db _ ledger _ => ?_) (promise_quiet (by nofun) promised)
  refine ⟨trivial, ?_, fails (by nofun)⟩
  rintro finding (_ | problem) found - interferes executed
  · exact fails (by nofun)
  rcases findProblem_executed executed with ⟨rfl, -⟩
  have ledger := ledger_of_interferes ledger interferes
  refine ⟨trivial, ?_, fails (by nofun)⟩
  rintro counting submissionCount counted - interferes executed
  rcases Option.some.inj executed with ⟨⟩
  have ledger := ledger_of_interferes ledger interferes
  dsimp only
  split
  · exact fails (by nofun)
  refine ⟨trivial, ?_, fails (by nofun)⟩
  rintro inFlight inFlightCount same - interferes executed
  rcases Prod.mk.inj (Option.some.inj executed) with ⟨rfl, rfl⟩
  have ledger := ledger_of_interferes ledger interferes
  dsimp only
  split
  · exact fails (by nofun)
  · exact deleteProblemRows_safe
      ⟨ledger, allInterrupted_of_count (by assumption)⟩ promised (by nofun) (by nofun)

private theorem promise_nothing (db : Db) : (ledgerContract dump).Promise id call [] db :=
  fun _ accepts => accepts.elim fun _ mem => absurd mem List.not_mem_nil

private theorem Call.emits_quiet {event : Event}
    (isOther : ∀ request now, call ≠ .persist request now) (emits : call.emits event) :
    event.IsQuiet := by
  rintro taskId error rfl
  cases call with
  | persist request now => exact isOther request now rfl
  | _ => exact emits

private theorem rejudgeInside_leaves {stmt : Stmt} (inside : rejudgeInside stmt) :
    LeavesLedger stmt := by
  unfold rejudgeInside at inside
  split at inside <;> trivial

/-- Only acceptances, settlements and the deletion of problems touch the ledger. -/
private theorem Call.inside_leaves {stmt : Stmt}
    (isOther : ∀ request now, call ≠ .persist request now)
    (notRemoval : ∀ problemId, call ≠ .removeProblem problemId)
    (notSubmit : ∀ task judge now, call = .handle task judge now → task.rejudgeSubmissionId ≠ 0)
    (inside : call.inside stmt) : LeavesLedger stmt := by
  unfold Call.inside at inside
  split at inside
  case h_1 => exact absurd rfl (isOther _ _)
  case h_2 => exact absurd rfl (isOther _ _)
  case h_4 stmt task judge now =>
    rw [if_pos (notSubmit task judge now rfl)] at inside
    exact rejudgeInside_leaves inside
  all_goals first | trivial | exact absurd rfl (notRemoval _)

private theorem serves_quiet (isOther : ∀ request now, call ≠ .persist request now)
    (notRemoval : ∀ problemId, call ≠ .removeProblem problemId)
    (notSubmit : ∀ task judge now, call = .handle task judge now →
      task.rejudgeSubmissionId ≠ 0) : (ledgerContract dump).Serves id call :=
  Contract.Uses.serves (Call.uses dump id call)
    (fun _ inside =>
      ⟨trivial, fun _ _ _ => (Call.inside_leaves isOther notRemoval notSubmit inside).keeps⟩)
    (fun _ => Call.outside_isBare)
    (fun _ _ _ emits => promise_quiet (Call.emits_quiet isOther emits)) promise_nothing

theorem serves_ledger (id : ThreadId) (call : Call) :
    (ledgerContract dump).Serves id call := by
  cases call with
  | persist request now =>
      exact fun db _ _ =>
        ⟨promise_nothing db, persistInFlight_safe request now (promise_nothing db)⟩
  | removeProblem problemId =>
      exact fun db _ _ =>
        ⟨promise_nothing db, removeProblem_safe problemId (promise_nothing db)⟩
  | handle task judge now =>
      by_cases isRejudge : task.rejudgeSubmissionId ≠ 0
      · refine serves_quiet (fun _ _ => by simp) (fun _ => by simp) ?_
        rintro _ _ _ ⟨⟩
        exact isRejudge
      · refine fun db _ _ => ⟨promise_nothing db, ?_⟩
        simp only [server, Call.body, Service.handle, if_neg isRejudge]
        exact submit_safe judge now task (promise_nothing db)
  | _ => exact serves_quiet (fun _ _ => by simp) (fun _ => by simp) (fun _ _ _ => by simp)

end Safety

/-- Where an accepted task stands: it has a row, or one submission settles it, or its row was
deleted with its problem, interrupted. -/
structure Accounted (db : Db) (taskId : TaskId) : Prop where
  accepted : 1 ≤ db.inFlight.acceptancesOf taskId
  balance : db.inFlight.rowsOf taskId + db.submissions.settlementsOf taskId +
    db.inFlight.purgedOf taskId = db.inFlight.acceptancesOf taskId
  once : db.inFlight.acceptancesOf taskId = 1 →
    db.inFlight.rowsOf taskId + db.submissions.settlementsOf taskId = 1 ∨
      db.inFlight.rowsOf taskId + db.submissions.settlementsOf taskId = 0 ∧
        ∃ row ∈ db.inFlight.purged, row.taskId = taskId ∧ row.state = .interrupted ∧
          db.hasProblem row.problemId = false

theorem Accounted.of_ledger {db : Db} {taskId : TaskId} (ledger : db.LedgerExact none none)
    (accepted : taskId ∈ db.inFlight.accepted) : Accounted db taskId := by
  have positive : 1 ≤ db.inFlight.acceptancesOf taskId := List.count_pos_iff.mpr accepted
  have balance : db.inFlight.rowsOf taskId + db.submissions.settlementsOf taskId +
      db.inFlight.purgedOf taskId = db.inFlight.acceptancesOf taskId := ledger.balance taskId
  refine ⟨positive, balance, fun once => ?_⟩
  by_cases purged : db.inFlight.purgedOf taskId = 0
  · left
    omega
  · right
    refine ⟨by omega, ?_⟩
    rcases List.countP_pos_iff.mp (Nat.pos_of_ne_zero purged) with ⟨row, mem, isTask⟩
    rcases ledger.purged row mem with ⟨interrupted, gone⟩
    refine ⟨row, mem, of_decide_eq_true isTask, interrupted, ?_⟩
    rw [Bool.eq_false_iff]
    exact fun has => absurd (gone has) (Option.some_ne_none _).symm

/-- In every run, whatever fails and wherever it crashes, every task whose acceptance has been
returned is accounted for in the committed contents. -/
theorem accepted_task_settled_once {dump : Dump} {start : Db} {state : State}
    (basic : start.LedgerBasic) (ledger : start.LedgerExact none none)
    (reaches : (server dump).system.Reaches TransitionSystem.Unrestricted (.initial start) state)
    {id : ThreadId} {thread : SharedConnection.Thread Reply Event Call}
    (born : state.threads id = some thread) {taskId : TaskId}
    (accepts : Accepts thread.events taskId) : Accounted state.committed taskId := by
  have sound : (ledgerContract dump).Sound state :=
    Contract.Sound.of_reaches reaches (Contract.Sound.initial basic ledger)
      (fun before call _ => serves_ledger before.nextThread call)
      fun _ _ _ ⟨_, _, _, _, _, observed⟩ => absurd observed Bool.false_ne_true
  refine Accounted.of_ledger sound.committed_inv (sound.promised born ?_ taskId accepts)
  rintro _ _ ⟨_, _, observed⟩
  exact absurd observed Bool.false_ne_true

section Runs

def oneProblem : Db :=
  { users :=
      { rows :=
          [{ id := 1, account := [97], nickname := [98], passwordHash := [1], role := .user
             resetPwdFlag := 0, createdAt := [50] }]
        nextId := 2 }
    problems :=
      { rows :=
          [{ id := 1, title := [97], description := [], difficulty := .easy, tags := []
             timeLimitMs := 1000, memoryLimitKb := 65536, visible := true
             createdAt := [50], updatedAt := [50] }]
        nextId := 2 } }

def acceptedTask : SubmissionTask :=
  { userId := 1, problemId := 1, language := [99], sourceCode := [120], submittedAt := [50]
    inFlightTaskId := [7] }

/-- A task is accepted and executed, and the process crashes before the handler returns. -/
def settledSchedule : List Label :=
  [.start
      (.persist
        { userId := 1, problemId := 1, language := [99], sourceCode := [120]
          submittedAt := [50], generated := fun _ => [7] } [])] ++
    List.replicate 7 (.run 0 true) ++
    [.start (.handle acceptedTask (fun _ => { status := .AC }) [])] ++
    List.replicate 11 (.run 1 true) ++ [.crash]

theorem accepted_task_settled_once_crash :
    ∃ state : State,
      (server fun _ => some []).system.run (.initial oneProblem) settledSchedule = some state ∧
        state.committed.submissions.settlementsOf [7] = 1 ∧ Accounted state.committed [7] := by
  have execution : ∃ state : State,
      (server fun _ => some []).system.run (.initial oneProblem) settledSchedule = some state ∧
        state.committed.submissions.settlementsOf [7] = 1 ∧
          ∃ thread, state.threads 0 = some thread ∧
            Event.persisted .ok [7] [] ∈ thread.events :=
    ⟨_, rfl, rfl, _, rfl, List.mem_cons_self⟩
  rcases execution with ⟨state, execution, settled, thread, born, returned⟩
  refine ⟨state, execution, settled, ?_⟩
  have basic : oneProblem.LedgerBasic :=
    ⟨List.nodup_nil, by decide, by nofun, by nofun⟩
  exact accepted_task_settled_once basic ⟨fun _ => rfl, by nofun⟩
    (TransitionSystem.reaches_of_run (TransitionSystem.admits_unrestricted _ _) execution) born
    ⟨[], returned⟩

end Runs

end Service

end OnlineJudge
