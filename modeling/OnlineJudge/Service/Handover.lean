import OnlineJudge.Service.Footprint
import Mathlib.Data.List.Sort

/-!
# A recovery hands over in order

A recovery claims pending rows by increasing `id` and hands each claimed row to the
scheduler, whose workers settle it while the recovery goes on. The rows that are still
pending are ahead of everything handed over: nothing but a claim takes a row out of
`pending`, and nothing puts one back, unless a claim was made inside the transaction of
a worker and is rolled back with it.
-/

namespace OnlineJudge

namespace Db

namespace InFlightTable

/-- What identifies the rows, in the order of the table. -/
def keys (table : InFlightTable) : List (ℤ × TaskId) :=
  table.rows.map fun row => (row.id, row.taskId)

def pendingIds (table : InFlightTable) : List ℤ :=
  (table.rows.filter (·.state = .pending)).map (·.id)

/-- The constraints of the table, and task identifiers that are read back as they are. -/
structure WellFormed (table : InFlightTable) : Prop where
  ids : (table.rows.map (·.id)).Nodup
  taskIds : (table.rows.map (·.taskId)).Nodup
  loads : ∀ row ∈ table.rows, Bytes.columnText row.taskId = row.taskId

variable {table start : InFlightTable}

theorem mem_pendingIds {id : ℤ} :
    id ∈ table.pendingIds ↔ ∃ row ∈ table.rows, row.state = .pending ∧ row.id = id := by
  simp [pendingIds, and_assoc]

theorem key_mem {row : InFlightRow} (descends : table.keys.Sublist start.keys)
    (mem : row ∈ table.rows) : (row.id, row.taskId) ∈ start.keys :=
  descends.subset (List.mem_map_of_mem mem)

theorem WellFormed.ids_of_descends (wellFormed : start.WellFormed)
    (descends : table.keys.Sublist start.keys) : (table.rows.map (·.id)).Nodup := by
  have ids (other : InFlightTable) : other.rows.map (·.id) = other.keys.map (·.1) := by
    simp [keys]
  rw [ids]
  exact ((ids start ▸ wellFormed.ids : (start.keys.map (·.1)).Nodup)).sublist (descends.map _)

theorem WellFormed.id_unique (wellFormed : start.WellFormed) {first second : ℤ} {taskId : TaskId}
    (isFirst : (first, taskId) ∈ start.keys) (isSecond : (second, taskId) ∈ start.keys) :
    first = second := by
  rcases List.mem_map.mp isFirst with ⟨row, mem, isRow⟩
  rcases List.mem_map.mp isSecond with ⟨other, otherMem, isOther⟩
  have same := List.inj_on_of_nodup_map wellFormed.taskIds mem otherMem
    ((Prod.mk.inj isRow).2.trans (Prod.mk.inj isOther).2.symm)
  rw [← (Prod.mk.inj isRow).1, same, (Prod.mk.inj isOther).1]

theorem keys_mapRows {change : InFlightRow → InFlightRow}
    (keeps : ∀ row, (change row).id = row.id ∧ (change row).taskId = row.taskId) :
    (table.mapRows change).keys = table.keys := by
  simp only [keys, mapRows, List.map_map]
  refine List.map_congr_left fun row _ => ?_
  simp [keeps row]

theorem pendingIds_mapRows {change : InFlightRow → InFlightRow}
    (keeps : ∀ row ∈ table.rows, (change row).id = row.id ∧
      ((change row).state = .pending ↔ row.state = .pending)) :
    (table.mapRows change).pendingIds = table.pendingIds := by
  simp only [pendingIds, mapRows, List.filter_map, List.map_map]
  have same : table.rows.filter ((fun row => decide (row.state = .pending)) ∘ change) =
      table.rows.filter (·.state = .pending) :=
    List.filter_congr fun row mem => decide_eq_decide.mpr (keeps row mem).2
  rw [same]
  exact List.map_congr_left fun row mem => (keeps row (List.mem_of_mem_filter mem)).1

end InFlightTable

theorem claimedBy_key (id : ℤ) (owner : Bytes) (row : InFlightRow) :
    (row.claimedBy id owner).id = row.id ∧ (row.claimedBy id owner).taskId = row.taskId := by
  unfold InFlightRow.claimedBy
  split <;> exact ⟨rfl, rfl⟩

theorem unclaimed_key (row : InFlightRow) :
    row.unclaimed.id = row.id ∧ row.unclaimed.taskId = row.taskId := by
  unfold InFlightRow.unclaimed
  split <;> exact ⟨rfl, rfl⟩

theorem interruptedFor_key (taskId : TaskId) (reason : Bytes) (row : InFlightRow) :
    (row.interruptedFor taskId reason).id = row.id ∧
      (row.interruptedFor taskId reason).taskId = row.taskId := by
  unfold InFlightRow.interruptedFor
  split <;> exact ⟨rfl, rfl⟩

/-- A claim takes its row out of `pending`. -/
theorem pendingIds_claim (table : InFlightTable) (id : ℤ) (owner : Bytes) :
    (table.mapRows (·.claimedBy id owner)).pendingIds = table.pendingIds.filter (· ≠ id) := by
  simp only [InFlightTable.pendingIds, InFlightTable.mapRows, List.filter_map, List.map_map]
  induction table.rows with
  | nil => rfl
  | cons row rest ih =>
      by_cases isPending : row.state = .pending
      · by_cases isRow : row.id = id
        · simpa [InFlightRow.claimedBy, InFlightRow.claimable, isPending, isRow] using ih
        · simpa [InFlightRow.claimedBy, InFlightRow.claimable, isPending, isRow] using ih
      · simpa [InFlightRow.claimedBy, InFlightRow.claimable, isPending] using ih

theorem claimable_iff (table : InFlightTable) (id : ℤ) :
    table.rows.any (·.claimable id) = true ↔ id ∈ table.pendingIds := by
  simp [InFlightTable.mem_pendingIds, InFlightRow.claimable, and_comm]

end Db

namespace Service

open Judge Db Library Library.SharedConnection

/-- The statements of a worker: on in-flight tasks only those on its own task. -/
def ownInFlight (taskId : TaskId) : Stmt → Prop
  | .inFlight (.markInterrupted other _) => other = taskId
  | .inFlight (.removeByTaskId other) => other = taskId
  | .inFlight _ => False
  | _ => True

theorem submit_issues {task : SubmissionTask} {dump : Dump} {judge : JudgeTask → JudgeResult}
    {now : Bytes} :
    Issues (ownInFlight task.inFlightTaskId) (submit dump judge now task) := by
  refine (submit_uses dump).issues (fun stmt inside => ?_) fun stmt outside => ?_
  · cases stmt with
    | inFlight own => cases own <;> exact inside
    | _ => trivial
  · cases stmt with
    | inFlight own => exact outside.elim
    | _ => trivial

section Statements

variable {db after : Db} {taskId : TaskId} {stmt : Stmt} {reply : Reply stmt}

/-- A statement on a task that is not pending leaves what is pending. -/
theorem ownInFlight_keeps (own : ownInFlight taskId stmt)
    (executed : execute stmt db = some (reply, after))
    (settling : ∀ row ∈ db.inFlight.rows, row.state = .pending → row.taskId ≠ taskId) :
    after.inFlight.keys.Sublist db.inFlight.keys ∧
      after.inFlight.pendingIds = db.inFlight.pendingIds := by
  rcases inFlight_of_execute executed with same | ⟨inFlight, answer, rfl, ran⟩
  · rw [same]
    exact ⟨List.Sublist.refl _, rfl⟩
  cases inFlight with
  | removeByTaskId other =>
      rcases own with rfl
      rw [← (Prod.mk.inj (Option.some.inj ran)).2]
      refine ⟨List.filter_sublist.map _, ?_⟩
      simp only [InFlightTable.pendingIds, List.filter_filter]
      congr 1
      refine List.filter_congr fun row mem => ?_
      by_cases isPending : row.state = .pending
      · simp [isPending, settling row mem isPending]
      · simp [isPending]
  | markInterrupted other reason =>
      rcases own with rfl
      rw [← (Prod.mk.inj (Option.some.inj ran)).2]
      refine ⟨?_, InFlightTable.pendingIds_mapRows fun row mem => ?_⟩
      · rw [InFlightTable.keys_mapRows (interruptedFor_key _ _)]
      · refine ⟨(interruptedFor_key _ _ row).1, ?_⟩
        unfold InFlightRow.interruptedFor
        split
        case isTrue isOwn =>
          exact iff_of_false nofun fun isPending => settling row mem isPending isOwn.1
        case isFalse => rfl
  | _ => exact own.elim

end Statements

/-- A claim that has taken a row. -/
def isClaim : (Σ stmt, Reply stmt) → Bool
  | ⟨.inFlight (.claim ..), true⟩ => true
  | _ => false

section Connection

variable {start : Db} {state : State}

/-- The connection while workers settle tasks and a recovery claims rows. An open transaction of a
worker has the same rows pending as the committed contents, until a claim joins it. -/
structure Connected (start : Db) (state : State) : Prop where
  committed : state.committed.inFlight.keys.Sublist start.inFlight.keys
  transactions : ∀ transaction, state.transaction = some transaction →
    transaction.owner ≠ 0 ∧ transaction.work.inFlight.keys.Sublist start.inFlight.keys ∧
      (¬Relied isClaim transaction →
        transaction.work.inFlight.pendingIds = state.committed.inFlight.pendingIds)

theorem Connected.view (connected : Connected start state) :
    state.view.inFlight.keys.Sublist start.inFlight.keys := by
  unfold State.view
  split
  case h_1 transaction is_open => exact (connected.transactions transaction is_open).2.1
  case h_2 => exact connected.committed

/-- A statement is recorded as a claim, or leaves what is pending inside of a transaction. -/
theorem Connected.store {id : ThreadId} {answered : Σ stmt, Reply stmt} {after : Db}
    (connected : Connected start state) (keys : after.inFlight.keys.Sublist start.inFlight.keys)
    (kept : ∀ transaction, state.transaction = some transaction →
      (id = 0 ∧ isClaim answered = true) ∨
        after.inFlight.pendingIds = state.view.inFlight.pendingIds) :
    Connected start (state.store id answered after) := by
  unfold State.store
  cases opened : state.transaction with
  | none => exact ⟨keys, fun transaction is_open => by simp at is_open⟩
  | some transaction =>
      refine ⟨connected.committed, ?_⟩
      rintro _ ⟨⟩
      rcases connected.transactions transaction opened with ⟨owner, -, unclaimed⟩
      refine ⟨owner, keys, fun notRelied => ?_⟩
      rcases kept transaction opened with ⟨rfl, claimed⟩ | same
      · refine absurd ⟨answered, ?_, claimed⟩ notRelied
        simp [owner]
      · have view : state.view = transaction.work := by simp [State.view, opened]
        rw [same, view]
        refine unclaimed fun relied => notRelied ?_
        rcases relied with ⟨earlier, mem, claimed⟩
        refine ⟨earlier, ?_, claimed⟩
        dsimp only
        split
        · exact mem
        · exact List.mem_append_left _ mem

end Connection

section Batch

/-- The rest of a batch, by increasing `id` and ahead of every other pending row. -/
structure BatchFits (start : Db) (pending : List ℤ) (batch : List InFlightTask) : Prop where
  increasing : (batch.map (·.id)).Pairwise (· < ·)
  first : ∀ id ∈ pending, id ∈ batch.map (·.id) ∨ ∀ task ∈ batch, task.id < id
  known : ∀ task ∈ batch, (task.id, task.taskId) ∈ start.inFlight.keys

variable {start : Db} {pending : List ℤ}

theorem BatchFits.nil : BatchFits start pending [] :=
  ⟨.nil, fun _ _ => .inr nofun, nofun⟩

/-- Once the first row of a batch is not pending, every pending row is ahead of it. -/
theorem BatchFits.ahead {task : InFlightTask} {rest : List InFlightTask}
    (fits : BatchFits start pending (task :: rest)) (claimed : task.id ∉ pending) :
    ∀ id ∈ pending, task.id < id := by
  intro id isPending
  rcases fits.first id isPending with mem | later
  · rcases List.mem_cons.mp mem with rfl | mem
    · exact absurd isPending claimed
    · exact (List.pairwise_cons.mp fits.increasing).1 id mem
  · exact later task List.mem_cons_self

theorem BatchFits.tail {task : InFlightTask} {rest : List InFlightTask}
    (fits : BatchFits start pending (task :: rest)) (claimed : task.id ∉ pending) :
    BatchFits start pending rest where
  increasing := (List.pairwise_cons.mp fits.increasing).2
  first := by
    intro id isPending
    rcases fits.first id isPending with mem | later
    · rcases List.mem_cons.mp mem with rfl | mem
      · exact absurd isPending claimed
      · exact .inl mem
    · exact .inr fun other mem => later other (List.mem_cons_of_mem _ mem)
  known := fun other mem => fits.known other (List.mem_cons_of_mem _ mem)

theorem BatchFits.mono {batch : List InFlightTask} {left : List ℤ}
    (fits : BatchFits start pending batch) (fewer : ∀ id ∈ left, id ∈ pending) :
    BatchFits start left batch :=
  ⟨fits.increasing, fun id mem => fits.first id (fewer id mem), fits.known⟩

/-- A batch that has just been read. -/
theorem BatchFits.listed {db : Db} (wellFormed : start.inFlight.WellFormed)
    (descends : db.inFlight.keys.Sublist start.inFlight.keys) (limit : ℕ) :
    BatchFits start db.inFlight.pendingIds
      ((db.inFlight.pending.take limit).map (·.toInFlightTask.load)) := by
  have sorted : (db.inFlight.pending.map (·.id)).Pairwise (· < ·) := by
    have ordered : (db.inFlight.pending.map (·.id)).Pairwise (· ≤ ·) :=
      List.pairwise_map.mpr (List.pairwise_insertionSort _ _)
    have distinct : (db.inFlight.pending.map (·.id)).Nodup :=
      ((List.perm_insertionSort _ _).map _).nodup_iff.mpr
        ((wellFormed.ids_of_descends descends).sublist (List.filter_sublist.map _))
    exact (ordered.and distinct).imp fun ⟨le, differs⟩ => lt_of_le_of_ne le differs
  have rows (row : InFlightRow) (mem : row ∈ db.inFlight.pending) :
      row ∈ db.inFlight.rows ∧ row.state = .pending := by
    rw [InFlightTable.pending, List.mem_insertionSort] at mem
    simpa using mem
  have ids : ((db.inFlight.pending.take limit).map (·.toInFlightTask.load)).map (·.id) =
      (db.inFlight.pending.take limit).map (·.id) := by
    rw [List.map_map]
    rfl
  refine ⟨?_, ?_, ?_⟩
  · rw [ids]
    exact sorted.sublist ((List.take_sublist _ _).map _)
  · intro id isPending
    rw [ids]
    rcases InFlightTable.mem_pendingIds.mp isPending with ⟨row, stored, state, rfl⟩
    have listed : row ∈ db.inFlight.pending := by
      rw [InFlightTable.pending, List.mem_insertionSort]
      simp [stored, state]
    rw [← List.take_append_drop limit db.inFlight.pending] at listed sorted
    rcases List.mem_append.mp listed with taken | dropped
    · exact .inl (List.mem_map_of_mem taken)
    · right
      intro task inBatch
      rcases List.mem_map.mp inBatch with ⟨earlier, taken, rfl⟩
      rw [List.map_append, List.pairwise_append] at sorted
      exact sorted.2.2 _ (List.mem_map_of_mem taken) _ (List.mem_map_of_mem dropped)
  · intro task inBatch
    rcases List.mem_map.mp inBatch with ⟨row, mem, rfl⟩
    have stored := InFlightTable.key_mem descends (rows row (List.mem_of_mem_take mem)).1
    have loads : Bytes.columnText row.taskId = row.taskId := by
      rcases List.mem_map.mp stored with ⟨original, originalMem, same⟩
      rw [← (Prod.mk.inj same).2]
      exact wellFormed.loads original originalMem
    simpa [InFlightTask.load, loads] using stored

end Batch

section Loop

variable {owner : Bytes} {limit : ℕ}

/-- What is left of the batch. -/
def RecoveryPoint.rest : RecoveryPoint → List InFlightTask
  | .scanning => []
  | .batch task rest | .waiting task rest => task :: rest

theorem RecoveryPoint.rest_after (batch : List InFlightTask) :
    (RecoveryPoint.after batch).rest = batch := by
  cases batch <;> rfl

/-- A program that hands nothing over any more. -/
def Leaves (program : Program) : Prop :=
  program = .done ∨ ∃ enqueued, program = Program.finish (.recovered enqueued)

/-- The next call of the loops, with what is left of the batch: the end, a new batch, or a claim on
the first row of the batch. -/
inductive NextCall (owner : Bytes) (limit : ℕ) (batch : List InFlightTask) : Program → Prop
  | leaves {program : Program} (leaves : Leaves program) : NextCall owner limit batch program
  | lists (next : Option (List InFlightTask) → Program) (turns : List RecoveryTurn)
      (enqueued : ℕ) (fails : Leaves (next none)) (nothing : Leaves (next (some [])))
      (continues : ∀ task rest, next (some (task :: rest)) =
        recoverFrom owner limit turns (.batch task rest) enqueued) :
      NextCall owner limit batch (.exec (.inFlight (.listPending limit)) next)
  | claims (task : InFlightTask) (rest : List InFlightTask) (first : batch = task :: rest)
      (next : Option Bool → Program) (turns : List RecoveryTurn) (enqueued : ℕ)
      (fails : Leaves (next none))
      (skips : next (some false) = recoverFrom owner limit turns (.after rest) enqueued)
      (hands : next (some true) =
        .emit (.handedOver task.id (recoveredTask task))
          (recoverFrom owner limit turns (.after rest) (enqueued + 1))) :
      NextCall owner limit batch (.exec (.inFlight (.claim task.id owner)) next)

theorem leaves_finish (enqueued : ℕ) : Leaves (Program.finish (.recovered enqueued)) :=
  .inr ⟨enqueued, rfl⟩

theorem nextCall_scanning (turns : List RecoveryTurn) (enqueued : ℕ)
    (batch : List InFlightTask) :
    NextCall owner limit batch (recoverFrom owner limit turns .scanning enqueued) := by
  cases turns with
  | nil => exact .leaves (.inl rfl)
  | cons turn turns =>
      unfold recoverFrom
      split
      · exact .leaves (leaves_finish _)
      · exact .lists _ turns enqueued (leaves_finish _) (leaves_finish _) fun _ _ => rfl

/-- Waiting for a slot is no call: the turns are consumed until there is one. -/
theorem nextCall_recoverFrom (turns : List RecoveryTurn) (point : RecoveryPoint)
    (enqueued : ℕ) :
    NextCall owner limit point.rest (recoverFrom owner limit turns point enqueued) := by
  induction turns generalizing point with
  | nil => exact .leaves (.inl rfl)
  | cons turn turns ih =>
      cases point with
      | scanning => exact nextCall_scanning _ _ _
      | batch task rest =>
          unfold recoverFrom
          split
          · exact nextCall_scanning _ _ _
          · exact ih (.waiting task rest)
      | waiting task rest =>
          unfold recoverFrom
          split
          · exact .leaves (leaves_finish _)
          · split
            · exact nextCall_scanning _ _ _
            · exact ih (.waiting task rest)
          · exact .claims task rest rfl _ turns enqueued (leaves_finish _) rfl rfl

end Loop

/-- The rows that were handed over, in this order. -/
def handedOverIds (events : List Event) : List ℤ :=
  events.filterMap fun
    | .handedOver id _ => some id
    | _ => none

theorem mem_handedOverIds {events : List Event} {id : ℤ} :
    id ∈ handedOverIds events ↔ ∃ task, Event.handedOver id task ∈ events := by
  simp only [handedOverIds, List.mem_filterMap]
  constructor
  · rintro ⟨event, mem, isHanded⟩
    split at isHanded
    · rcases Option.some.inj isHanded with rfl
      exact ⟨_, mem⟩
    · cases isHanded
  · rintro ⟨task, mem⟩
    exact ⟨_, mem, rfl⟩

section Progress

variable {dump : Dump} {start : Db} {options : RecoveryOptions} {instanceId : Bytes}

/-- Where a recovery stands that may still hand something over; `handed` is what it has handed over,
`pending` what it would see if it looked. -/
inductive Stands (start : Db) (options : RecoveryOptions) (instanceId : Bytes) (closed : Prop)
    (pending handed : List ℤ) : Program → Prop
  | starting (next : Option Unit → Program) (turns : List RecoveryTurn) (fails : Leaves (next none))
      (continues : next (some ()) = recoverFrom instanceId options.limit turns .scanning 0)
      (nothing : handed = []) (alone : closed) :
      Stands start options instanceId closed pending handed
        (.exec (.inFlight .resetStaleClaims) next)
  | looping (turns : List RecoveryTurn) (point : RecoveryPoint) (enqueued : ℕ)
      (fits : BatchFits start pending point.rest)
      (ahead : ∀ id ∈ handed, ∀ other ∈ pending, id < other) :
      Stands start options instanceId closed pending handed
        (recoverFrom instanceId options.limit turns point enqueued)
  | handing (task : InFlightTask) (turns : List RecoveryTurn) (point : RecoveryPoint)
      (enqueued : ℕ) (fits : BatchFits start pending point.rest)
      (known : (task.id, task.taskId) ∈ start.inFlight.keys)
      (next : ∀ id ∈ handed, id < task.id) (ahead : ∀ other ∈ pending, task.id < other) :
      Stands start options instanceId closed pending handed
        (.emit (.handedOver task.id (recoveredTask task))
          (recoverFrom instanceId options.limit turns point enqueued))

theorem Stands.ahead {closed : Prop} {pending handed : List ℤ} {program : Program}
    (stands : Stands start options instanceId closed pending handed program) :
    ∀ id ∈ handed, ∀ other ∈ pending, id < other := by
  cases stands with
  | starting next turns fails continues nothing alone => simp [nothing]
  | looping turns point enqueued fits ahead => exact ahead
  | handing task turns point enqueued fits known next ahead =>
      exact fun id mem other isPending => (next id mem).trans (ahead other isPending)

/-- Once something is handed over, others may use the connection. -/
theorem Stands.others {closed later : Prop} {pending handed : List ℤ} {program : Program}
    (stands : Stands start options instanceId closed pending handed program)
    (some_handed : handed ≠ []) :
    Stands start options instanceId later pending handed program := by
  cases stands with
  | starting next turns fails continues nothing alone => exact absurd nothing some_handed
  | looping turns point enqueued fits ahead => exact .looping turns point enqueued fits ahead
  | handing task turns point enqueued fits known next ahead =>
      exact .handing task turns point enqueued fits known next ahead

/-- While the recovery may hand something over. -/
structure Live (start : Db) (options : RecoveryOptions) (instanceId : Bytes) (state : State)
    (events : List Event) (program : Program) : Prop where
  connected : Connected start state
  shown : ∀ id task, Event.handedOver id task ∈ events →
    (id, task.inFlightTaskId) ∈ start.inFlight.keys ∧ task.rejudgeSubmissionId = 0
  workers : ∀ id thread, id ≠ 0 → state.threads id = some thread →
    ∃ handed task, Event.handedOver handed task ∈ events ∧
      ∀ rest, thread.program = some rest → Issues (ownInFlight task.inFlightTaskId) rest
  stands : Stands start options instanceId (state.transaction = none)
    state.view.inFlight.pendingIds (handedOverIds events) program

/-- Thread 0 is the recovery and has handed over by increasing `id`. -/
def HandsOverInOrder (start : Db) (options : RecoveryOptions) (instanceId : Bytes)
    (state : State) : Prop :=
  0 < state.nextThread ∧
    ∃ recovery, state.threads 0 = some recovery ∧
      (handedOverIds recovery.events).Pairwise (· < ·) ∧
      ∀ program, recovery.program = some program →
        Leaves program ∨ Live start options instanceId state recovery.events program

/-- No transaction that a successful claim has joined is rolled back. -/
def KeepsClaims (state : State) : Label → Prop
  | .start _ => True
  | .run id ok => ¬Undoes (fun _ => isClaim) state (.run id ok)
  | .crash => True

instance (state : State) : DecidablePred (KeepsClaims state)
  | .start _ | .crash => isTrue trivial
  | .run id ok => inferInstanceAs (Decidable ¬Undoes (fun _ => isClaim) state (.run id ok))

/-- A row of the task of a worker is not pending. -/
theorem Live.settling {state : State} {events : List Event} {program : Program}
    (wellFormed : start.inFlight.WellFormed)
    (live : Live start options instanceId state events program) {id : ℤ} {task : SubmissionTask}
    (handed : Event.handedOver id task ∈ events) :
    ∀ row ∈ state.view.inFlight.rows, row.state = .pending →
      row.taskId ≠ task.inFlightTaskId := by
  intro row mem isPending isTask
  have ahead := live.stands.ahead id (mem_handedOverIds.mpr ⟨task, handed⟩) row.id
    (InFlightTable.mem_pendingIds.mpr ⟨row, mem, isPending, rfl⟩)
  have same := wellFormed.id_unique (live.shown id task handed).1
    (isTask ▸ InFlightTable.key_mem live.connected.view mem)
  omega

/-- A call of a worker leaves what is pending, if it does not undo a claim. -/
theorem Live.worker_advances {state next : State} {events : List Event} {program rest : Program}
    (wellFormed : start.inFlight.WellFormed)
    (live : Live start options instanceId state events program) {id : ThreadId} (worker : id ≠ 0)
    {thread : SharedConnection.Thread Reply Event Call} {handedId : ℤ} {task : SubmissionTask}
    (handed : Event.handedOver handedId task ∈ events)
    (issues : Issues (ownInFlight task.inFlightTaskId) rest)
    (keeps : (∃ after, rest = .rollback after) → ∀ transaction,
      state.transaction = some transaction → ¬Relied isClaim transaction)
    (advances : (server dump).Advances state id thread rest next) :
    Connected start next ∧
      next.view.inFlight.pendingIds = state.view.inFlight.pendingIds := by
  cases advances with
  | locks | unlocks | beginFails | commitFails | execFails | emits =>
      exact ⟨⟨live.connected.committed, live.connected.transactions⟩, rfl⟩
  | begins after free =>
      refine ⟨⟨live.connected.committed, ?_⟩, by simp [State.advance, State.view, free]⟩
      rintro _ ⟨⟩
      exact ⟨worker, live.connected.committed, fun _ => rfl⟩
  | commits after transaction is_open =>
      refine ⟨⟨(live.connected.transactions transaction is_open).2.1, ?_⟩, ?_⟩
      · intro other closed
        cases closed
      · simp [State.advance, State.view, is_open]
  | rollsBack after =>
      refine ⟨⟨live.connected.committed, ?_⟩, ?_⟩
      · intro other closed
        cases closed
      · cases opened : state.transaction with
        | none => simp [State.advance, State.view, opened]
        | some transaction =>
            have same := (live.connected.transactions transaction opened).2.2
              (keeps ⟨_, rfl⟩ transaction opened)
            simpa [State.advance, State.view, opened] using same.symm
  | executes stmt after reply changed executed =>
      have kept := ownInFlight_keeps issues.1 executed (live.settling wellFormed handed)
      have connected : Connected start (state.store id ⟨stmt, reply⟩ changed) :=
        live.connected.store (kept.1.trans live.connected.view) fun _ _ => .inr kept.2
      refine ⟨⟨connected.committed, connected.transactions⟩, ?_⟩
      rw [State.view_advance, State.view_store]
      exact kept.2

theorem handedOverIds_append (events more : List Event) :
    handedOverIds (events ++ more) = handedOverIds events ++ handedOverIds more :=
  List.filterMap_append

/-- A call of the recovery that is a statement. -/
theorem Live.executed {state : State} {program rest : Program}
    {thread : SharedConnection.Thread Reply Event Call} {stmt : Stmt} {reply : Reply stmt}
    {after : Db} (live : Live start options instanceId state thread.events program)
    (fresh : 0 < state.nextThread) (increasing : (handedOverIds thread.events).Pairwise (· < ·))
    (keys : after.inFlight.keys.Sublist start.inFlight.keys)
    (kept : ∀ transaction, state.transaction = some transaction →
      isClaim ⟨stmt, reply⟩ = true ∨
        after.inFlight.pendingIds = state.view.inFlight.pendingIds)
    (stands : Leaves rest ∨
      ∀ closed, Stands start options instanceId closed after.inFlight.pendingIds
        (handedOverIds thread.events) rest) :
    HandsOverInOrder start options instanceId
      ((state.store 0 ⟨stmt, reply⟩ after).advance 0 thread rest) := by
  have connected : Connected start (state.store 0 ⟨stmt, reply⟩ after) :=
    live.connected.store keys fun transaction is_open =>
      (kept transaction is_open).imp_left fun claimed => ⟨rfl, claimed⟩
  rcases state.store_threads 0 ⟨stmt, reply⟩ after with ⟨threads, counter⟩
  refine ⟨counter.symm ▸ fresh, _, State.advance_self .., increasing, ?_⟩
  rintro _ ⟨⟩
  rcases stands with leaves | stands
  · exact .inl leaves
  · refine .inr ⟨⟨connected.committed, connected.transactions⟩, live.shown, ?_, ?_⟩
    · intro id other worker born
      rw [State.advance_of_ne _ _ _ worker, threads] at born
      exact live.workers id other worker born
    · rw [State.view_advance, State.view_store]
      exact stands _

/-- A call of the recovery that has no effect. -/
theorem handsOver_leaves {state : State} {rest : Program}
    {thread : SharedConnection.Thread Reply Event Call} (fresh : 0 < state.nextThread)
    (increasing : (handedOverIds thread.events).Pairwise (· < ·)) (leaves : Leaves rest) :
    HandsOverInOrder start options instanceId (state.advance 0 thread rest) := by
  refine ⟨fresh, _, State.advance_self .., increasing, ?_⟩
  rintro _ ⟨⟩
  exact .inl leaves

theorem handsOver_left {state next : State} {program : Program}
    {thread : SharedConnection.Thread Reply Event Call} (fresh : 0 < state.nextThread)
    (increasing : (handedOverIds thread.events).Pairwise (· < ·)) (leaves : Leaves program)
    (advances : (server dump).Advances state 0 thread program next) :
    HandsOverInOrder start options instanceId next := by
  rcases leaves with rfl | ⟨enqueued, rfl⟩
  · cases advances
  · cases advances with
    | emits =>
        refine handsOver_leaves fresh ?_ (.inl rfl)
        rw [handedOverIds_append]
        simpa [handedOverIds] using increasing

/-- The row of a claim that was answered is handed over. -/
theorem Live.hands {state : State} {program : Program}
    {thread : SharedConnection.Thread Reply Event Call} {task : InFlightTask}
    {turns : List RecoveryTurn} {point : RecoveryPoint} {enqueued : ℕ}
    (live : Live start options instanceId state thread.events program)
    (fresh : 0 < state.nextThread) (increasing : (handedOverIds thread.events).Pairwise (· < ·))
    (fits : BatchFits start state.view.inFlight.pendingIds point.rest)
    (known : (task.id, task.taskId) ∈ start.inFlight.keys)
    (following : ∀ id ∈ handedOverIds thread.events, id < task.id)
    (ahead : ∀ other ∈ state.view.inFlight.pendingIds, task.id < other) :
    HandsOverInOrder start options instanceId
      (state.advance 0
        { thread with events := thread.events ++ [.handedOver task.id (recoveredTask task)] }
        (recoverFrom instanceId options.limit turns point enqueued)) := by
  have handed : handedOverIds (thread.events ++ [.handedOver task.id (recoveredTask task)]) =
      handedOverIds thread.events ++ [task.id] := handedOverIds_append _ _
  refine ⟨fresh, _, State.advance_self .., ?_, ?_⟩
  · rw [handed, List.pairwise_append]
    refine ⟨increasing, List.pairwise_singleton _ _, ?_⟩
    simpa using following
  rintro _ ⟨⟩
  refine .inr ⟨⟨live.connected.committed, live.connected.transactions⟩, ?_, ?_, ?_⟩
  · intro id other mem
    rcases List.mem_append.mp mem with mem | mem
    · exact live.shown id other mem
    · rcases List.mem_singleton.mp mem with ⟨⟩
      exact ⟨known, rfl⟩
  · intro id other worker born
    rw [State.advance_of_ne _ _ _ worker] at born
    rcases live.workers id other worker born with ⟨earlier, own, mem, issues⟩
    exact ⟨earlier, own, List.mem_append_left _ mem, issues⟩
  · dsimp only
    rw [handed, State.view_advance]
    refine .looping turns point enqueued fits fun id mem other isPending => ?_
    rcases List.mem_append.mp mem with mem | mem
    · exact live.stands.ahead id mem other isPending
    · exact List.mem_singleton.mp mem ▸ ahead other isPending

/-- A claim on the first row of a batch is answered. -/
theorem Live.claims {state : State} {program : Program}
    {thread : SharedConnection.Thread Reply Event Call} {task : InFlightTask}
    {others : List InFlightTask} {rest : Option Bool → Program} {turns : List RecoveryTurn}
    {enqueued : ℕ} {reply : Bool}
    (live : Live start options instanceId state thread.events program)
    (fresh : 0 < state.nextThread) (increasing : (handedOverIds thread.events).Pairwise (· < ·))
    (fits : BatchFits start state.view.inFlight.pendingIds (task :: others))
    (skips : rest (some false) =
      recoverFrom instanceId options.limit turns (.after others) enqueued)
    (hands : rest (some true) =
      .emit (.handedOver task.id (recoveredTask task))
        (recoverFrom instanceId options.limit turns (.after others) (enqueued + 1)))
    (isReply : state.view.inFlight.rows.any (·.claimable task.id) = reply) :
    HandsOverInOrder start options instanceId
      ((state.store 0 ⟨.inFlight (.claim task.id instanceId), reply⟩
        { state.view with
          inFlight := state.view.inFlight.mapRows (·.claimedBy task.id instanceId) }).advance
        0 thread (rest (some reply))) := by
  have keys : (state.view.inFlight.mapRows
      (·.claimedBy task.id instanceId)).keys.Sublist start.inFlight.keys := by
    rw [InFlightTable.keys_mapRows (claimedBy_key _ _)]
    exact live.connected.view
  have fewer : ∀ id ∈ (state.view.inFlight.mapRows
      (·.claimedBy task.id instanceId)).pendingIds,
      id ∈ state.view.inFlight.pendingIds ∧ id ≠ task.id := by
    intro id mem
    rw [pendingIds_claim] at mem
    simpa using mem
  have kept := fits.mono fun id mem => (fewer id mem).1
  have taken : task.id ∉ (state.view.inFlight.mapRows
      (·.claimedBy task.id instanceId)).pendingIds :=
    fun mem => (fewer _ mem).2 rfl
  cases reply with
  | false =>
      have absent : task.id ∉ state.view.inFlight.pendingIds := by
        rw [← claimable_iff, isReply]
        nofun
      refine live.executed fresh increasing keys (fun _ _ => .inr ?_) (.inr fun closed => ?_)
      · dsimp only
        rw [pendingIds_claim, List.filter_eq_self]
        exact fun id mem => decide_eq_true fun same => absent (same ▸ mem)
      · rw [skips]
        refine .looping turns (.after others) enqueued ?_ ?_
        · rw [RecoveryPoint.rest_after]
          exact kept.tail taken
        · exact fun id mem other isPending =>
            live.stands.ahead id mem other (fewer other isPending).1
  | true =>
      have present := (claimable_iff _ _).mp isReply
      refine live.executed fresh increasing keys (fun _ _ => .inl rfl) (.inr fun closed => ?_)
      rw [hands]
      refine .handing task turns (.after others) (enqueued + 1) ?_
        (fits.known task List.mem_cons_self)
        (fun id mem => live.stands.ahead id mem task.id present) (kept.ahead taken)
      rw [RecoveryPoint.rest_after]
      exact kept.tail taken

theorem Live.recovery_advances {state next : State} {program : Program}
    {thread : SharedConnection.Thread Reply Event Call} (wellFormed : start.inFlight.WellFormed)
    (live : Live start options instanceId state thread.events program)
    (fresh : 0 < state.nextThread) (increasing : (handedOverIds thread.events).Pairwise (· < ·))
    (advances : (server dump).Advances state 0 thread program next) :
    HandsOverInOrder start options instanceId next := by
  have stands := live.stands
  cases stands with
  | starting rest turns fails continues nothing alone =>
      cases advances with
      | execFails => exact handsOver_leaves fresh increasing fails
      | executes stmt rest reply after executed =>
          rcases Prod.mk.inj (Option.some.inj executed) with ⟨rfl, rfl⟩
          refine live.executed fresh increasing ?_ ?_ (.inr fun closed => ?_)
          · dsimp only
            rw [InFlightTable.keys_mapRows unclaimed_key]
            exact live.connected.view
          · intro transaction is_open
            rw [alone] at is_open
            cases is_open
          · rw [continues]
            refine .looping turns .scanning 0 .nil ?_
            simp [nothing]
  | handing task turns point enqueued fits known following ahead =>
      cases advances with
      | emits event rest => exact live.hands fresh increasing fits known following ahead
  | looping turns point enqueued fits ahead =>
      have call : NextCall instanceId options.limit point.rest
          (recoverFrom instanceId options.limit turns point enqueued) :=
        nextCall_recoverFrom turns point enqueued
      generalize recoverFrom instanceId options.limit turns point enqueued = program at *
      cases call with
      | leaves leaves => exact handsOver_left fresh increasing leaves advances
      | lists rest turns enqueued fails nothing continues =>
          cases advances with
          | execFails => exact handsOver_leaves fresh increasing fails
          | executes stmt rest reply after executed =>
              rcases Prod.mk.inj (Option.some.inj executed) with ⟨isReply, rfl⟩
              refine live.executed fresh increasing live.connected.view
                (fun _ _ => .inr rfl) ?_
              cases reply with
              | nil => exact .inl nothing
              | cons task others =>
                  right
                  intro closed
                  rw [continues]
                  refine .looping turns (.batch task others) enqueued ?_ ahead
                  rw [RecoveryPoint.rest, ← isReply]
                  exact BatchFits.listed wellFormed live.connected.view options.limit
      | claims task others first rest turns enqueued fails skips hands =>
          rw [first] at fits
          cases advances with
          | execFails => exact handsOver_leaves fresh increasing fails
          | executes stmt rest reply after executed =>
              rcases Prod.mk.inj (Option.some.inj executed) with ⟨isReply, rfl⟩
              exact live.claims fresh increasing fits skips hands isReply

def handedOverTasks (events : List Event) : List SubmissionTask :=
  events.filterMap fun
    | .handedOver _ task => some task
    | _ => none

theorem mem_handedOverTasks {events : List Event} {task : SubmissionTask} :
    task ∈ handedOverTasks events ↔ ∃ id, Event.handedOver id task ∈ events := by
  simp only [handedOverTasks, List.mem_filterMap]
  constructor
  · rintro ⟨event, mem, isHanded⟩
    split at isHanded
    · rcases Option.some.inj isHanded with rfl
      exact ⟨_, mem⟩
    · cases isHanded
  · rintro ⟨id, mem⟩
    exact ⟨_, mem, rfl⟩

/-- The only threads started are workers, each with a task that has been handed over. -/
def StartsWorkers (state : State) : Label → Prop
  | .start (.handle task ..) =>
      ∃ recovery ∈ state.threads 0, task ∈ handedOverTasks recovery.events
  | .start _ => False
  | .run .. => True
  | .crash => True

instance (state : State) : DecidablePred (StartsWorkers state)
  | .start (.handle task ..) =>
      inferInstanceAs
        (Decidable (∃ recovery ∈ state.threads 0, task ∈ handedOverTasks recovery.events))
  | .run .. | .crash => isTrue trivial
  | .start (.persist ..) | .start (.discard _) | .start (.recover ..)
  | .start (.createProblem ..) | .start (.updateProblem ..) | .start (.removeProblem _)
  | .start (.createTestcase ..) | .start (.updateTestcase ..) | .start (.removeTestcase ..)
  | .start (.register _) | .start (.resetPassword ..) | .start (.changePassword _)
  | .start (.changeRole ..) => isFalse id

theorem HandsOverInOrder.starts {state : State} {call : Call}
    (ordered : HandsOverInOrder start options instanceId state)
    (worker : StartsWorkers state (.start call)) :
    HandsOverInOrder start options instanceId ((server dump).spawn state call) := by
  rcases ordered with ⟨fresh, recovery, born, increasing, progress⟩
  obtain ⟨task, judge, now, rfl⟩ : ∃ task judge now, call = .handle task judge now := by
    cases call with
    | handle task judge now => exact ⟨task, judge, now, rfl⟩
    | _ => exact worker.elim
  rcases worker with ⟨other, otherBorn, mem⟩
  rw [Option.mem_def, born] at otherBorn
  rcases Option.some.inj otherBorn with rfl
  rcases mem_handedOverTasks.mp mem with ⟨id, handed⟩
  have same : ((server dump).spawn state (.handle task judge now)).threads 0 = some recovery := by
    rw [SharedConnection.Service.spawn_of_ne _ _ _ fresh.ne]
    exact born
  refine ⟨Nat.succ_pos _, recovery, same, increasing, fun program alive => ?_⟩
  refine (progress program alive).imp_right fun live => ?_
  refine ⟨⟨live.connected.committed, live.connected.transactions⟩, live.shown, ?_, live.stands⟩
  intro newId thread isWorker isThread
  by_cases isNew : newId = state.nextThread
  · subst isNew
    rw [SharedConnection.Service.spawn_new] at isThread
    rcases Option.some.inj isThread with rfl
    refine ⟨id, task, handed, ?_⟩
    rintro _ ⟨⟩
    have submits : task.rejudgeSubmissionId = 0 := (live.shown id task handed).2
    simp only [server, Call.body, Service.handle, submits, ne_eq, not_true_eq_false, if_false]
    exact submit_issues
  · rw [SharedConnection.Service.spawn_of_ne _ _ _ isNew] at isThread
    exact live.workers newId thread isWorker isThread

theorem HandsOverInOrder.crashes {state : State}
    (ordered : HandsOverInOrder start options instanceId state) :
    HandsOverInOrder start options instanceId state.crashed := by
  rcases ordered with ⟨fresh, recovery, born, increasing, -⟩
  obtain ⟨later, isLater, events, ended⟩ : ∃ later, state.crashed.threads 0 = some later ∧
      later.events = recovery.events ∧ ∀ program, later.program = some program →
        program = .done := by
    simp only [State.crashed, born, Option.map_some]
    refine ⟨_, rfl, ?_⟩
    split
    case h_1 finished => exact ⟨rfl, fun program alive => by simpa [finished] using alive.symm⟩
    case h_2 => exact ⟨rfl, fun program alive => by cases alive⟩
  exact ⟨fresh, later, isLater, events ▸ increasing, fun program alive =>
    .inl (.inl (ended program alive))⟩

theorem HandsOverInOrder.step {state next : State} {label : Label}
    (wellFormed : start.inFlight.WellFormed)
    (ordered : HandsOverInOrder start options instanceId state)
    (starts : StartsWorkers state label) (keeps : KeepsClaims state label)
    (step : (server dump).system.step state label = some next) :
    HandsOverInOrder start options instanceId next := by
  cases SharedConnection.Service.Transition.of_step step with
  | starts call => exact ordered.starts starts
  | crashes => exact ordered.crashes
  | runs id ok thread program next isThread alive advances =>
      rcases ordered with ⟨fresh, recovery, born, increasing, progress⟩
      by_cases isRecovery : id = 0
      · subst isRecovery
        rw [born] at isThread
        rcases Option.some.inj isThread with rfl
        rcases progress program alive with leaves | live
        · exact handsOver_left fresh increasing leaves advances
        · exact live.recovery_advances wellFormed fresh increasing advances
      · rcases advances.threads_eq with ⟨counter, later, threads⟩
        have same : next.threads 0 = some recovery := by
          rw [threads, Function.update_of_ne (Ne.symm isRecovery)]
          exact born
        refine ⟨counter ▸ fresh, recovery, same, increasing, fun loop running => ?_⟩
        refine (progress loop running).imp_right fun live => ?_
        rcases live.workers id thread isRecovery isThread with ⟨handedId, task, handed, issues⟩
        have abandons : (∃ after, program = .rollback after) →
            ∀ transaction, state.transaction = some transaction →
              ¬Relied isClaim transaction := by
          rintro ⟨after, rfl⟩ transaction is_open relied
          refine keeps ⟨?_, transaction, is_open, relied⟩
          simp [State.abandons, isThread, alive]
        rcases live.worker_advances wellFormed isRecovery handed (issues program alive) abandons
          advances with ⟨connected, pending⟩
        refine ⟨connected, live.shown, ?_, ?_⟩
        · intro other otherThread isWorker otherBorn
          by_cases isSame : other = id
          · subst isSame
            rcases (issues program alive).advances advances with ⟨_, updated, issues⟩
            rw [updated, Function.update_self] at otherBorn
            rcases Option.some.inj otherBorn with rfl
            exact ⟨handedId, task, handed, issues⟩
          · rw [threads, Function.update_of_ne isSame] at otherBorn
            exact live.workers other otherThread isWorker otherBorn
        · rw [pending]
          exact live.stands.others (List.ne_nil_of_mem (mem_handedOverIds.mpr ⟨task, handed⟩))

theorem handsOverInOrder_initial (turns : List RecoveryTurn) :
    HandsOverInOrder start options instanceId
      ((server dump).spawn (.initial start) (.recover options instanceId turns)) := by
  refine ⟨Nat.succ_pos _, _, SharedConnection.Service.spawn_new .., List.Pairwise.nil, ?_⟩
  rintro _ ⟨⟩
  right
  refine ⟨⟨List.Sublist.refl _, nofun⟩, nofun, ?_, ?_⟩
  · intro id thread worker isThread
    rw [SharedConnection.Service.spawn_of_ne _ _ _ worker] at isThread
    cases isThread
  · change Stands _ _ _ _ _ [] (recoveryRun options instanceId turns)
    unfold recoveryRun
    split
    · exact .starting _ turns (leaves_finish 0) rfl rfl rfl
    · exact .looping turns .scanning 0 .nil nofun

end Progress

/-- One run of a recovery, with workers that settle what it has handed over. If no transaction that
a successful claim has joined is rolled back, it hands the rows over by increasing `id`, each at
most once. -/
theorem recovery_hands_over_in_order {dump : Dump} {start : Db} {options : RecoveryOptions}
    {instanceId : Bytes} {turns : List RecoveryTurn} {state : State}
    {recovery : SharedConnection.Thread Reply Event Call}
    (wellFormed : start.inFlight.WellFormed)
    (reaches : (server dump).system.Reaches
      (fun before label => StartsWorkers before label ∧ KeepsClaims before label)
      ((server dump).spawn (.initial start) (.recover options instanceId turns)) state)
    (born : state.threads 0 = some recovery) :
    (handedOverIds recovery.events).Pairwise (· < ·) := by
  have ordered : HandsOverInOrder start options instanceId state :=
    reaches.invariant (handsOverInOrder_initial turns)
      fun before label next _ ordered allowed step =>
        ordered.step wellFormed allowed.1 allowed.2 step
  rcases ordered with ⟨-, other, otherBorn, increasing, -⟩
  rw [born] at otherBorn
  exact Option.some.inj otherBorn ▸ increasing

section Runs

def pendingRow (id : ℤ) (taskId : TaskId) : InFlightRow where
  id := id
  taskId := taskId
  userId := 1
  problemId := 1
  language := [99]
  sourceCode := [120]
  submittedAt := [50]
  state := .pending
  reason := []
  owner := []

/-- Two tasks that an earlier process left behind. -/
def twoPending : Db where
  users :=
    { rows :=
        [{ id := 1, account := [97], nickname := [98], passwordHash := [1], role := .user
           resetPwdFlag := 0, createdAt := [50] }]
      nextId := 2 }
  problems :=
    { rows :=
        [{ id := 1, title := [97], description := [], difficulty := .easy, tags := []
           timeLimitMs := 1000, memoryLimitKb := 65536, visible := true
           createdAt := [50], updatedAt := [50] }]
      nextId := 2 }
  inFlight :=
    { rows := [pendingRow 1 [116], pendingRow 2 [117]]
      nextId := 3
      accepted := [[116], [117]] }

theorem twoPending_wellFormed : twoPending.inFlight.WellFormed where
  ids := by decide
  taskIds := by decide
  loads := by decide

def recoverOneByOne : Call :=
  .recover { batchSize := 1 } [115] (List.replicate 10 {})

def firstWorker : Call :=
  .handle (recoveredTask (pendingRow 1 [116]).toInFlightTask) (fun _ => { status := .AC }) []

/-- The second claim joins the transaction of the worker. -/
def joinedClaim : List Label :=
  List.replicate 4 (.run 0 true) ++ [.start firstWorker] ++ List.replicate 5 (.run 1 true) ++
    List.replicate 3 (.run 0 true)

def committedClaim : List Label :=
  joinedClaim ++ List.replicate 8 (.run 1 true) ++ List.replicate 2 (.run 0 true)

theorem recovery_hands_over_in_order_joined :
    ∃ (state : State) (recovery : SharedConnection.Thread Reply Event Call),
      (server fun _ => some []).system.run
          ((server fun _ => some []).spawn (.initial twoPending) recoverOneByOne) committedClaim =
          some state ∧
        state.threads 0 = some recovery ∧ recovery.program = some .done ∧
        handedOverIds recovery.events = [1, 2] ∧
        (handedOverIds recovery.events).Pairwise (· < ·) := by
  have execution : ∃ (state : State) (recovery : SharedConnection.Thread Reply Event Call),
      (server fun _ => some []).system.run
          ((server fun _ => some []).spawn (.initial twoPending) recoverOneByOne) committedClaim =
          some state ∧
        state.threads 0 = some recovery ∧ recovery.program = some .done ∧
        handedOverIds recovery.events = [1, 2] :=
    ⟨_, _, rfl, rfl, rfl, rfl⟩
  rcases execution with ⟨state, recovery, execution, born, ended, handed⟩
  have admits : (server fun _ => some []).system.Admits
      (fun before label => StartsWorkers before label ∧ KeepsClaims before label)
      ((server fun _ => some []).spawn (.initial twoPending) recoverOneByOne)
      committedClaim := by decide
  exact ⟨state, recovery, execution, born, ended, handed,
    recovery_hands_over_in_order twoPending_wellFormed
      (TransitionSystem.reaches_of_run admits execution) born⟩

/-- The transaction of the worker is rolled back, and the second row is handed over again. -/
def lostClaim : List Label :=
  joinedClaim ++ [.run 1 false, .run 1 true] ++ List.replicate 3 (.run 0 true)

theorem recovery_hands_over_twice :
    ¬∀ (state : State) (recovery : SharedConnection.Thread Reply Event Call),
      twoPending.inFlight.WellFormed →
        (server fun _ => some []).system.Reaches StartsWorkers
          ((server fun _ => some []).spawn (.initial twoPending) recoverOneByOne) state →
        state.threads 0 = some recovery → (handedOverIds recovery.events).Pairwise (· < ·) := by
  intro claim
  have execution : ∃ (state : State) (recovery : SharedConnection.Thread Reply Event Call),
      (server fun _ => some []).system.run
          ((server fun _ => some []).spawn (.initial twoPending) recoverOneByOne) lostClaim =
          some state ∧
        state.threads 0 = some recovery ∧ handedOverIds recovery.events = [1, 2, 2] :=
    ⟨_, _, rfl, rfl, rfl⟩
  rcases execution with ⟨state, recovery, execution, born, handed⟩
  have admits : (server fun _ => some []).system.Admits StartsWorkers
      ((server fun _ => some []).spawn (.initial twoPending) recoverOneByOne) lostClaim := by
    decide
  have increasing := claim state recovery twoPending_wellFormed
    (TransitionSystem.reaches_of_run admits execution) born
  rw [handed] at increasing
  revert increasing
  decide

end Runs

end Service

end OnlineJudge
