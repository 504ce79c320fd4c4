import OnlineJudge.Db.ProblemStatus
import OnlineJudge.Service.Footprint

/-!
# What writes the statuses

The calls that write submissions or statuses are the tasks of the scheduler and the
deletion of a problem. For an invariant of these two tables it is enough to look at how a
settlement stores a submission and at how a rejudge does; all the rest of a call, and all
other calls, are the same for every such invariant.
-/

namespace OnlineJudge

namespace Service

open Judge Db Library Library.SharedConnection

/-- Every statement but those that write submissions or statuses keeps the statuses exact. -/
def LeavesStatuses : Stmt → Prop
  | .submissions (.insert ..) => False
  | .submissions (.update _) => False
  | .statuses (.upsert _) => False
  | .statuses (.deleteForProblem _) => False
  | _ => True

theorem LeavesStatuses.same {stmt : Stmt} {before after : Db} {reply : Reply stmt}
    (leaves : LeavesStatuses stmt) (executed : execute stmt before = some (reply, after)) :
    after.submissions = before.submissions ∧ after.statuses = before.statuses := by
  constructor
  · rcases submissions_of_execute executed with same | ⟨own, answer, rfl, ran⟩
    · exact same
    · cases own with
      | insert | update => exact leaves.elim
      | findById | countForProblem | countFor | minAcceptedAt =>
          exact (Prod.mk.inj (Option.some.inj ran)).2.symm
  · rcases statuses_of_execute executed with same | ⟨own, answer, rfl, ran⟩
    · exact same
    · cases own with
      | upsert | deleteForProblem => exact leaves.elim
      | find | findSubmitCount => exact (Prod.mk.inj (Option.some.inj ran)).2.symm

theorem LeavesStatuses.insertsTimestamp {stmt : Stmt} (leaves : LeavesStatuses stmt) :
    InsertsTimestamp stmt := by
  unfold InsertsTimestamp
  split
  · exact leaves.elim
  · trivial

/-- A task that is submitted, not rejudged, carries a proper time. -/
def Timed (task : SubmissionTask) (now : Bytes) : Prop :=
  task.rejudgeSubmissionId = 0 →
    IsTimestamp (if task.submittedAt = [] then now else task.submittedAt)

instance (task : SubmissionTask) (now : Bytes) : Decidable (Timed task now) :=
  inferInstanceAs (Decidable (_ = _ → IsTimestamp _))

/-- The tasks that are executed carry a proper time. -/
def Timestamped : Label → Prop
  | .start (.handle task _ now) => Timed task now
  | _ => True

instance (label : Label) : Decidable (Timestamped label) :=
  match label with
  | .start call =>
      match call with
      | .handle task _ now => inferInstanceAs (Decidable (Timed task now))
      | .persist .. | .discard _ | .recover .. | .createProblem .. | .updateProblem ..
      | .removeProblem _ | .createTestcase .. | .updateTestcase .. | .removeTestcase ..
      | .register _ | .resetPassword .. | .changePassword _ | .changeRole .. => isTrue trivial
  | .run .. => isTrue trivial
  | .crash => isTrue trivial

/-- The invariant of the contract is about submissions and statuses only, a problem without
submissions may lose its statuses, and events promise nothing. -/
structure AboutStatuses {dump : Dump} (contract : Contract (server dump)) : Prop where
  bare : ∀ {stmt}, contract.Bare stmt ↔ IsBare stmt
  quiet : ∀ id call events db, contract.Promise id call events db
  used : ∀ {stmt}, LeavesStatuses stmt → contract.Used stmt
  congr : ∀ {before after : Db}, contract.Inv before → after.submissions = before.submissions →
    after.statuses = before.statuses → contract.Inv after
  deletes : ∀ problemId, contract.Used (.statuses (.deleteForProblem problemId))
  deleted : ∀ {before : Db} {problemId : ℤ}, contract.Inv before →
    (∀ userId, before.submissions.ofUser userId problemId = []) →
      contract.Inv { before with statuses := before.statuses.filter (·.problemId ≠ problemId) }

namespace AboutStatuses

variable {dump : Dump} {contract : Contract (server dump)} {id : ThreadId} {call : Call}
  {seen work : Db} {events : List Event}

theorem effect (about : AboutStatuses contract) {before after : Db}
    (interferes : contract.Interferes before after) : BareEffect before after :=
  interferes_effect (fun _ => about.bare.mp) interferes

theorem inv_of_effect (about : AboutStatuses contract) {before after : Db}
    (inv : contract.Inv before) (effect : BareEffect before after) : contract.Inv after :=
  about.congr inv effect.submissions effect.statuses

theorem keeps (about : AboutStatuses contract) {stmt : Stmt} {before after : Db}
    {reply : Reply stmt} (leaves : LeavesStatuses stmt) (inv : contract.Inv before)
    (executed : execute stmt before = some (reply, after)) : contract.Inv after :=
  about.congr inv (leaves.same executed).1 (leaves.same executed).2

theorem finish (about : AboutStatuses contract) {event : Event} :
    contract.Safe (contract.Promise id call) (Program.finish event) .idle seen events :=
  safe_finish (about.quiet _ _ _ _)

theorem rollback (about : AboutStatuses contract) {failure : Event} :
    contract.Safe (contract.Promise id call) (Program.rollbackWith failure) (.active work) seen
      events :=
  safe_rollbackWith (about.quiet _ _ _ _)

theorem commit (about : AboutStatuses contract) {success failure : Event}
    (inv : contract.Inv work) :
    contract.Safe (contract.Promise id call) (Program.commitWith success failure) (.active work)
      seen events :=
  safe_commitWith (fun _ _ _ interferes =>
    ⟨about.inv_of_effect inv (about.effect interferes), about.quiet _ _ _ _⟩) (about.quiet _ _ _ _)

/-- A statement in a transaction that ends when the statement fails. -/
theorem exec (about : AboutStatuses contract) {stmt : Stmt}
    {next : Option (Reply stmt) → Program} {failure : Event} (used : contract.Used stmt)
    (fails : next none = Program.rollbackWith failure)
    (continues : ∀ reply later after, contract.Basic later → BareEffect work later →
      execute stmt later = some (reply, after) →
        contract.Safe (contract.Promise id call) (next (some reply)) (.active after) seen events) :
    contract.Safe (contract.Promise id call) (.exec stmt next) (.active work) seen events := by
  refine ⟨used, ?_, fails ▸ about.rollback⟩
  intro later reply after basic interferes executed
  exact continues reply later after basic (about.effect interferes) executed

/-- One that writes neither submissions nor statuses. -/
theorem leave (about : AboutStatuses contract) {stmt : Stmt}
    {next : Option (Reply stmt) → Program} {failure : Event} (inv : contract.Inv work)
    (leaves : LeavesStatuses stmt) (fails : next none = Program.rollbackWith failure)
    (continues : ∀ reply later after, BareEffect work later →
      execute stmt later = some (reply, after) → contract.Inv after →
        contract.Safe (contract.Promise id call) (next (some reply)) (.active after) seen events) :
    contract.Safe (contract.Promise id call) (.exec stmt next) (.active work) seen events := by
  refine about.exec (about.used leaves) fails ?_
  intro reply later after _ effect executed
  have kept := about.keeps leaves (about.inv_of_effect inv effect) executed
  exact continues reply later after effect executed kept

/-- A statement outside of a transaction. -/
theorem read (about : AboutStatuses contract) {stmt : Stmt}
    {next : Option (Reply stmt) → Program} (bare : IsBare stmt)
    (continues : ∀ answer known, contract.Grows seen known →
      contract.Safe (contract.Promise id call) (next answer) .idle known events) :
    contract.Safe (contract.Promise id call) (.exec stmt next) .idle seen events :=
  ⟨about.bare.mpr bare,
    fun _ _ reply _ known answered => continues (some reply) known answered.seen_known,
    continues none seen (contract.grows_refl _)⟩

theorem settleInterrupted (about : AboutStatuses contract) (taskId : TaskId) (reason : Bytes)
    (event : Event) :
    contract.Safe (contract.Promise id call)
      (settleInterrupted taskId reason (Program.finish event)) .idle seen events := by
  have uses : Uses LeavesStatuses (fun _ => False) (fun _ => True)
      (Service.settleInterrupted taskId reason (Program.finish event)) .idle :=
    settleInterrupted_uses trivial (uses_finish trivial)
  exact Contract.Uses.safe
    (fun stmt leaves => ⟨about.used leaves, fun _ _ _ _ inv executed =>
      about.keeps leaves inv executed⟩)
    (fun _ never => never.elim) (fun _ _ _ _ _ => about.quiet _ _ _ _) .idle uses trivial
    (about.quiet _ _ _ _)

/-- A settlement is safe when the part of it that stores the submission is. -/
theorem settle (about : AboutStatuses contract) {task : SubmissionTask}
    {record : SubmissionRecord} {result : JudgeResult}
    (stores : ∀ (settles : Option TaskId) (work : Db), contract.Inv work →
      contract.Safe (contract.Promise id call) (storeSubmission record settles result)
        (.active work) seen events) :
    contract.Safe (contract.Promise id call) (settle task record result) .idle seen events := by
  refine safe_beginWith (fun db _ inv _ => ?_) (about.quiet _ _ _ _)
  refine about.leave inv trivial rfl ?_
  rintro (_ | problem) later after - - inv
  · dsimp only
    split
    · exact about.rollback
    · refine about.leave inv trivial rfl ?_
      intro _ marking marked _ _ inv
      exact about.commit inv
  · dsimp only
    split
    · exact stores none _ inv
    · refine about.leave inv trivial rfl ?_
      rintro (_ | _) removing removed - - inv
      · exact about.rollback
      · exact stores _ _ inv

theorem submit (about : AboutStatuses contract) (judge : JudgeTask → JudgeResult) {now : Bytes}
    {task : SubmissionTask}
    (settles : ∀ (result : JudgeResult) (perCase : Bytes) (seen : Db) (events : List Event),
      contract.Safe (contract.Promise id call)
        (Service.settle task (submissionRecord task result perCase now) result) .idle seen
          events) :
    contract.Safe (contract.Promise id call) (submit dump judge now task) .idle seen events := by
  refine about.read (.findProblem _) ?_
  rintro (_ | _ | problem) seen -
  · exact about.finish
  · exact about.settleInterrupted _ _ _
  dsimp only
  split
  · exact about.finish
  refine about.read (.listTestcases _) ?_
  rintro (_ | records) seen -
  · exact about.finish
  refine ⟨about.quiet _ _ _ _, ?_⟩
  split
  · exact about.finish
  · exact settles _ _ _ _

/-- A rejudge is safe when its transaction is, from whatever it has learnt about the submission. -/
theorem rejudge (about : AboutStatuses contract) (judge : JudgeTask → JudgeResult)
    (submissionId : ℤ) (knows : SubmissionRecord → Db → Prop)
    (learns : ∀ base before original after known,
      contract.Answered seen base before after known
        ⟨.submissions (.findById submissionId), some original⟩ → knows original known)
    (remembers : ∀ {original before after}, contract.Grows before after → knows original before →
      knows original after)
    (stores : ∀ (original : SubmissionRecord) (seen : Db) (result : JudgeResult)
      (perCase : Bytes) (events : List Event), knows original seen →
        contract.Safe (contract.Promise id call)
          (storeRejudge (rejudgedRecord original result perCase) result) .idle seen events) :
    contract.Safe (contract.Promise id call) (rejudge dump judge submissionId) .idle seen
      events := by
  refine ⟨about.bare.mpr (.findSubmission _), ?_, about.finish⟩
  rintro base before (_ | original) after known answered
  · exact about.finish
  have known := learns base before original after known answered
  refine about.read (.findProblem _) ?_
  rintro (_ | _ | problem) seen grown
  · exact about.finish
  · exact about.finish
  have known := remembers grown known
  refine about.read (.listTestcases _) ?_
  rintro (_ | records) seen grown
  · exact about.finish
  have known := remembers grown known
  refine ⟨about.quiet _ _ _ _, ?_⟩
  split
  · exact about.finish
  split
  · exact about.finish
  · exact stores _ _ _ _ _ known

private theorem deleteProblemRows (about : AboutStatuses contract) {problemId : ℤ}
    {failure success : Event} (inv : contract.Inv work)
    (unused : ∀ userId, work.submissions.ofUser userId problemId = []) :
    contract.Safe (contract.Promise id call)
      (deleteProblemRows problemId (Program.rollbackWith failure)
        (Program.commitWith success failure)) (.active work) seen events := by
  refine about.leave inv trivial rfl ?_
  intro _ before withoutCases effect executed inv
  have submissions : withoutCases.submissions = work.submissions := by
    rcases Option.some.inj executed with ⟨⟩
    exact effect.submissions
  refine about.exec (about.deletes problemId) rfl ?_
  intro _ deleting withoutStatuses _ effect executed
  have inv : contract.Inv withoutStatuses := by
    rcases Option.some.inj executed with ⟨⟩
    refine about.deleted (about.inv_of_effect inv effect) fun userId => ?_
    rw [effect.submissions, submissions]
    exact unused userId
  refine about.leave inv trivial rfl ?_
  intro _ purging purged _ _ inv
  refine about.leave inv trivial rfl ?_
  intro _ removing deleted _ _ inv
  exact about.commit inv

theorem removeProblem (about : AboutStatuses contract) (problemId : ℤ) :
    contract.Safe (contract.Promise id call) (removeProblem problemId) .idle seen events := by
  refine safe_beginWith (fun db _ inv _ => ?_) (about.quiet _ _ _ _)
  refine about.leave inv trivial rfl ?_
  rintro (_ | problem) finding found - - inv
  · exact about.rollback
  refine about.leave inv trivial rfl ?_
  intro submissionCount counting same _ executed inv
  rcases Prod.mk.inj (Option.some.inj executed) with ⟨rfl, rfl⟩
  dsimp only
  split
  · exact about.rollback
  case isFalse noSubmission =>
  refine about.leave inv trivial rfl ?_
  intro inFlightCount inFlight same effect executed inv
  rcases Prod.mk.inj (Option.some.inj executed) with ⟨rfl, rfl⟩
  dsimp only
  split
  · exact about.rollback
  refine about.deleteProblemRows inv fun userId => ?_
  rw [effect.submissions, SubmissionTable.ofUser, List.filter_eq_nil_iff]
  intro row mem isFor
  simp only [Bool.decide_and, Bool.and_eq_true, decide_eq_true_eq] at isFor
  exact noSubmission (List.length_pos_of_mem (List.mem_filter.mpr ⟨mem, by simp [isFor.2]⟩))

/-- The calls whose transactions write neither submissions nor statuses. -/
private theorem inside_leavesStatuses {stmt : Stmt}
    (notHandle : ∀ task judge now, call ≠ .handle task judge now)
    (notRemoval : ∀ problemId, call ≠ .removeProblem problemId)
    (inside : call.inside stmt) : LeavesStatuses stmt := by
  unfold Call.inside at inside
  split at inside
  case h_4 => exact absurd rfl (notHandle _ _ _)
  all_goals first | trivial | exact absurd rfl (notRemoval _)

private theorem serves_quiet (about : AboutStatuses contract)
    (notHandle : ∀ task judge now, call ≠ .handle task judge now)
    (notRemoval : ∀ problemId, call ≠ .removeProblem problemId) : contract.Serves id call :=
  Contract.Uses.serves (Call.uses dump id call)
    (fun _ inside =>
      have leaves := inside_leavesStatuses notHandle notRemoval inside
      ⟨about.used leaves, fun _ _ _ _ inv executed => about.keeps leaves inv executed⟩)
    (fun _ outside => about.bare.mpr (Call.outside_isBare outside))
    (fun _ _ _ _ _ => about.quiet _ _ _ _) (about.quiet _ _ _)

/-- All calls keep the contract when the tasks of the scheduler do. -/
theorem serves (about : AboutStatuses contract) (id : ThreadId) (call : Call)
    (handles : ∀ task judge now, call = .handle task judge now → ∀ db,
      contract.Safe (contract.Promise id call) (Service.handle dump judge now task) .idle db []) :
    contract.Serves id call := by
  cases call with
  | handle task judge now =>
      exact fun db _ _ => ⟨about.quiet _ _ _ _, handles task judge now rfl db⟩
  | removeProblem problemId =>
      exact fun db _ _ => ⟨about.quiet _ _ _ _, about.removeProblem problemId⟩
  | _ => exact about.serves_quiet (by nofun) (by nofun)

end AboutStatuses

end Service

end OnlineJudge
