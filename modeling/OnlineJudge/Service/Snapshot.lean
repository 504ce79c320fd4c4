import OnlineJudge.Service.Footprint

/-!
# The test cases that a task is judged on

A task reads the test cases of its problem without the mutex, so that the read may fall
into the transaction of an administrator and find what is not committed. Where no read
falls into a transaction that has already changed the test cases of the problem, every
task is judged on test cases that were committed while it ran.
-/

namespace OnlineJudge

namespace Service

open Judge Db Library Library.SharedConnection

/-- The answers to reads of test cases are as given. -/
def ReadsFrom (seen : ℤ → List TestcaseRow → Prop) : (Σ stmt, Reply stmt) → Prop
  | ⟨.testcases (.list problemId), records⟩ => seen problemId records
  | _ => True

/-- A judging is on test cases that are as given. -/
def JudgedOn (seen : ℤ → List TestcaseRow → Prop) : Event → Prop
  | .judging problemId records => seen problemId records
  | _ => True

theorem JudgedOn.mono {seen later : ℤ → List TestcaseRow → Prop} {event : Event}
    (weaker : ∀ problemId records, seen problemId records → later problemId records)
    (judged : JudgedOn seen event) : JudgedOn later event := by
  cases event with
  | judging problemId records => exact weaker problemId records judged
  | _ => trivial

section Programs

variable {seen : ℤ → List TestcaseRow → Prop} {dump : Dump} {judge : JudgeTask → JudgeResult}
  {now : Bytes}

private theorem relays_finish {answers : (Σ stmt, Reply stmt) → Prop} {event : Event}
    (judged : JudgedOn seen event) :
    Relays answers (JudgedOn seen) (Program.finish event) .idle :=
  ⟨judged, trivial⟩

/-- A task is judged on the test cases that it has read. -/
theorem submit_relays (task : SubmissionTask) :
    Relays (ReadsFrom seen) (JudgedOn seen) (submit dump judge now task) .idle := by
  refine ⟨?_, relays_finish trivial⟩
  rintro (_ | problem) -
  · have uses : Uses (fun _ => True) (fun _ => False) (JudgedOn seen)
        (settleInterrupted task.inFlightTaskId problemMissingReason
          (Program.finish problemNotFound)) .idle :=
      settleInterrupted_uses trivial (uses_finish trivial)
    exact uses.relays fun _ judged => judged
  dsimp only
  split
  · exact relays_finish trivial
  refine ⟨fun records read => ⟨read, ?_⟩, relays_finish trivial⟩
  split
  · exact relays_finish trivial
  · have uses (record : SubmissionRecord) (result : JudgeResult) :
        Uses (settlementInside task.inFlightTaskId) (fun _ => False) (JudgedOn seen)
          (settle task record result) .idle :=
      settle_uses (fun _ => trivial) record result
    exact (uses _ _).relays fun _ judged => judged

theorem rejudge_relays (submissionId : ℤ) :
    Relays (ReadsFrom seen) (JudgedOn seen) (rejudge dump judge submissionId) .idle := by
  refine ⟨?_, relays_finish trivial⟩
  rintro (_ | original) -
  · exact relays_finish trivial
  refine ⟨?_, relays_finish trivial⟩
  rintro (_ | problem) -
  · exact relays_finish trivial
  refine ⟨fun records read => ⟨read, ?_⟩, relays_finish trivial⟩
  split
  · exact relays_finish trivial
  split
  · exact relays_finish trivial
  · have uses (updated : SubmissionRecord) (result : JudgeResult) :
        Uses rejudgeInside (fun _ => False) (JudgedOn seen) (storeRejudge updated result) .idle :=
      storeRejudge_uses (fun _ => trivial) updated result
    exact (uses _ _).relays fun _ judged => judged

theorem call_relays (writer : ThreadId) (call : Call) :
    Relays (ReadsFrom seen) (JudgedOn seen) (call.body dump writer) .idle := by
  have quiet : (∀ problemId records, ¬call.emits (.judging problemId records)) →
      Relays (ReadsFrom seen) (JudgedOn seen) (call.body dump writer) .idle := by
    refine fun silent => (Call.uses dump writer call).relays fun event emits => ?_
    cases event with
    | judging problemId records => exact absurd emits (silent problemId records)
    | _ => trivial
  cases call with
  | handle task judge now =>
      simp only [Call.body, Service.handle]
      split
      · exact rejudge_relays _
      · exact submit_relays _
  | _ => exact quiet fun _ _ judges => judges

end Programs

section Reads

/-- The test cases of a problem were committed at some time since `startedAt`. -/
def CommittedSince (state : State) (startedAt : ℕ) (problemId : ℤ)
    (records : List TestcaseRow) : Prop :=
  ∃ db ∈ state.history.drop startedAt, db.testcases.ofProblem problemId = records

/-- The problem whose test cases the next call of the program lists. -/
def listing : Program → Option ℤ
  | .exec (.testcases (.list problemId)) _ => some problemId
  | _ => none

/-- Another thread's open transaction has changed the test cases of the problem. -/
def ChangedByOther (state : State) (id : ThreadId) (problemId : ℤ) : Prop :=
  ∃ transaction ∈ state.transaction, transaction.owner ≠ id ∧
    transaction.work.testcases.ofProblem problemId ≠
      state.committed.testcases.ofProblem problemId

instance (state : State) (id : ThreadId) (problemId : ℤ) :
    Decidable (ChangedByOther state id problemId) :=
  inferInstanceAs (Decidable
    (∃ transaction ∈ state.transaction, transaction.owner ≠ id ∧
      transaction.work.testcases.ofProblem problemId ≠
        state.committed.testcases.ofProblem problemId))

/-- No thread lists the test cases of a problem while another thread's open transaction has changed
them. A read that fails finds nothing. -/
def ListsUnchanged (state : State) : Label → Prop
  | .run id ok => ok = true → ∀ thread ∈ state.threads id, ∀ program ∈ thread.program,
      ∀ problemId ∈ listing program, ¬ChangedByOther state id problemId
  | .start _ | .crash => True

instance (state : State) : (label : Label) → Decidable (ListsUnchanged state label)
  | .run id ok => inferInstanceAs (Decidable
      (ok = true → ∀ thread ∈ state.threads id, ∀ program ∈ thread.program,
        ∀ problemId ∈ listing program, ¬ChangedByOther state id problemId))
  | .start _ | .crash => isTrue trivial

def hasEnded (thread : SharedConnection.Thread Reply Event Call) : Bool :=
  match thread.program with
  | none => true
  | some .done => true
  | _ => false

variable {state next : State} {startedAt : ℕ} {problemId : ℤ} {records : List TestcaseRow}

theorem CommittedSince.of_committed (last : state.history.getLast? = some state.committed)
    (started : startedAt < state.history.length)
    (current : state.committed.testcases.ofProblem problemId = records) :
    CommittedSince state startedAt problemId records := by
  rcases List.getLast?_eq_some_iff.mp last with ⟨before, history⟩
  refine ⟨state.committed, ?_, current⟩
  rw [history, List.length_append, List.length_singleton] at started
  rw [history, List.drop_append_of_le_length (by omega)]
  exact List.mem_append_right _ (List.mem_singleton_self _)

theorem CommittedSince.mono (history : state.history <+: next.history)
    (committed : CommittedSince state startedAt problemId records) :
    CommittedSince next startedAt problemId records := by
  rcases history with ⟨more, history⟩
  rcases committed with ⟨db, mem, current⟩
  refine ⟨db, ?_, current⟩
  rw [← history, List.drop_append]
  exact List.mem_append_left _ mem

/-- What a step of thread `id` leaves of the connection. -/
structure Keeps (state next : State) (id : ThreadId) : Prop where
  history : state.history <+: next.history
  last : next.history.getLast? = some next.committed
  owners : ∀ transaction, next.transaction = some transaction →
    transaction.owner = id ∨
      ∃ before, state.transaction = some before ∧ before.owner = transaction.owner

theorem Keeps.above {id : ThreadId} {seen : ℤ → List TestcaseRow → Prop}
    (keeps : Keeps state next id)
    (above : ∀ problemId records, CommittedSince next startedAt problemId records →
      seen problemId records)
    (problemId : ℤ) (records : List TestcaseRow)
    (committed : CommittedSince state startedAt problemId records) : seen problemId records :=
  above _ _ (committed.mono keeps.history)

theorem Keeps.refl (last : state.history.getLast? = some state.committed) (id : ThreadId) :
    Keeps state state id where
  history := List.prefix_rfl
  last := last
  owners := fun transaction is_open => .inr ⟨transaction, is_open, rfl⟩

/-- What a step does to threads and the mutex plays no part. -/
theorem Keeps.transfer {middle : State} {id : ThreadId} (keeps : Keeps state middle id)
    (history : next.history = middle.history) (committed : next.committed = middle.committed)
    (transaction : next.transaction = middle.transaction) : Keeps state next id where
  history := history ▸ keeps.history
  last := by
    rw [history, committed]
    exact keeps.last
  owners := by
    rw [transaction]
    exact keeps.owners

theorem Keeps.begins {id : ThreadId} (last : state.history.getLast? = some state.committed)
    (history : next.history = state.history) (committed : next.committed = state.committed)
    (opened : next.transaction = some { owner := id, work := state.committed, joined := [] }) :
    Keeps state next id where
  history := history ▸ List.prefix_rfl
  last := by
    rw [history, committed]
    exact last
  owners := by
    intro transaction is_open
    rw [opened] at is_open
    exact .inl (Option.some.inj is_open ▸ rfl)

/-- A step that closes the transaction. -/
theorem Keeps.closes {id : ThreadId} (history : state.history <+: next.history)
    (last : next.history.getLast? = some next.committed) (closed : next.transaction = none) :
    Keeps state next id where
  history := history
  last := last
  owners := by
    intro transaction is_open
    rw [closed] at is_open
    cases is_open

theorem Keeps.store {id : ThreadId} (last : state.history.getLast? = some state.committed)
    (answered : Σ stmt, Reply stmt) (after : Db) :
    Keeps state (state.store id answered after) id := by
  unfold State.store
  cases opened : state.transaction with
  | none =>
      refine ⟨List.prefix_append _ _, List.getLast?_concat .., ?_⟩
      intro transaction is_open
      simp at is_open
  | some transaction =>
      refine ⟨List.prefix_rfl, last, ?_⟩
      rintro _ ⟨⟩
      exact .inr ⟨transaction, opened, rfl⟩

/-- What is listed is committed, unless another thread has changed it. -/
theorem committed_of_view {id : ThreadId} (last : state.history.getLast? = some state.committed)
    (started : startedAt < state.history.length)
    (foreign : ∀ transaction, state.transaction = some transaction → transaction.owner ≠ id)
    (unchanged : ¬ChangedByOther state id problemId)
    (current : state.view.testcases.ofProblem problemId = records) :
    CommittedSince state startedAt problemId records := by
  refine .of_committed last started ?_
  rw [State.view] at current
  cases opened : state.transaction with
  | none =>
      rw [opened] at current
      exact current
  | some transaction =>
      rw [opened] at current
      by_contra differs
      refine unchanged ⟨transaction, opened, foreign transaction opened, ?_⟩
      rw [current]
      exact Ne.symm differs

/-- The answer to a statement outside of the transactions of a thread. -/
theorem readsFrom_of_executed {id : ThreadId} {stmt : Stmt} {reply : Reply stmt} {after : Db}
    {seen : ℤ → List TestcaseRow → Prop} {rest : Option (Reply stmt) → Program}
    (last : state.history.getLast? = some state.committed)
    (started : startedAt < state.history.length)
    (foreign : ∀ transaction, state.transaction = some transaction → transaction.owner ≠ id)
    (unchanged : ∀ problemId ∈ listing (.exec stmt rest), ¬ChangedByOther state id problemId)
    (executed : execute stmt state.view = some (reply, after))
    (above : ∀ problemId records, CommittedSince state startedAt problemId records →
      seen problemId records) :
    ReadsFrom seen ⟨stmt, reply⟩ := by
  cases stmt with
  | testcases own =>
      cases own with
      | list problemId =>
          rcases Prod.mk.inj (Option.some.inj executed) with ⟨current, rfl⟩
          exact above _ _ (committed_of_view last started foreign (unchanged problemId rfl) current)
      | _ => trivial
  | _ => trivial

end Reads

section Threads

variable {dump : Dump} {state next : State} {id : ThreadId}
  {thread : SharedConnection.Thread Reply Event Call}

/-- A thread owns no transaction outside of its transactions. -/
def OwnsNothing (state : State) (id : ThreadId) : Phase Unit → Prop
  | .active _ => True
  | _ => ∀ transaction, state.transaction = some transaction → transaction.owner ≠ id

theorem OwnsNothing.store {phase : Phase Unit} (owns : OwnsNothing state id phase)
    (answered : Σ stmt, Reply stmt) (after : Db) :
    OwnsNothing (state.store id answered after) id phase := by
  have kept (foreign : ∀ transaction, state.transaction = some transaction →
      transaction.owner ≠ id) :
      ∀ transaction, (state.store id answered after).transaction = some transaction →
        transaction.owner ≠ id := by
    unfold State.store
    cases opened : state.transaction with
    | none => simp
    | some transaction =>
        rintro _ ⟨⟩
        exact foreign transaction opened
  cases phase with
  | active work => trivial
  | idle | held => exact kept owns

/-- A thread goes on from a phase, whatever more will be committed. -/
def GoesOn (state : State) (startedAt : ℕ) (program : Program) (phase : Phase Unit) : Prop :=
  ∀ seen, (∀ problemId records, CommittedSince state startedAt problemId records →
      seen problemId records) → Relays (ReadsFrom seen) (JudgedOn seen) program phase

/-- What a thread has judged on was committed, and it will go on like this. -/
structure SnapshotSound (state : State) (id : ThreadId)
    (thread : SharedConnection.Thread Reply Event Call) : Prop where
  started : thread.startedAt < state.history.length
  judged : ∀ event ∈ thread.events, JudgedOn (CommittedSince state thread.startedAt) event
  running : ∀ program, thread.program = some program →
    ∃ phase, OwnsNothing state id phase ∧ GoesOn state thread.startedAt program phase

theorem SnapshotSound.frame {other : ThreadId} (keeps : Keeps state next id)
    (differs : other ≠ id) (sound : SnapshotSound state other thread) :
    SnapshotSound next other thread where
  started := sound.started.trans_le keeps.history.length_le
  judged := fun event mem =>
    (sound.judged event mem).mono fun _ _ committed => committed.mono keeps.history
  running := by
    intro program alive
    rcases sound.running program alive with ⟨phase, owns, goesOn⟩
    refine ⟨phase, ?_, fun seen above => goesOn seen (keeps.above above)⟩
    have elsewhere (foreign : ∀ transaction, state.transaction = some transaction →
        transaction.owner ≠ other) :
        ∀ transaction, next.transaction = some transaction → transaction.owner ≠ other := by
      intro transaction is_open
      rcases keeps.owners transaction is_open with owner | ⟨before, was_open, same⟩
      · exact owner ▸ differs.symm
      · exact same ▸ foreign before was_open
    cases phase with
    | active work => trivial
    | idle | held => exact elsewhere owns

/-- The thread of a step, when the step is no event. -/
theorem SnapshotSound.advances {rest : Program} (phase : Phase Unit)
    (keeps : Keeps state next id) (sound : SnapshotSound state id thread)
    (owns : OwnsNothing next id phase)
    (goesOn : GoesOn next thread.startedAt rest phase) :
    SnapshotSound next id { thread with program := some rest } where
  started := sound.started.trans_le keeps.history.length_le
  judged := fun event mem =>
    (sound.judged event mem).mono fun _ _ committed => committed.mono keeps.history
  running := by
    rintro _ ⟨⟩
    exact ⟨phase, owns, goesOn⟩

/-- What a thread leaves behind with a step. -/
def StepsSoundly (state next : State) (id : ThreadId) : Prop :=
  Keeps state next id ∧
    ∃ later, next.threads = Function.update state.threads id (some later) ∧
      SnapshotSound next id later

/-- A statement that fails changes nothing. -/
theorem SnapshotSound.fails {stmt : Stmt} {rest : Option (Reply stmt) → Program}
    (last : state.history.getLast? = some state.committed) (sound : SnapshotSound state id thread)
    (alive : thread.program = some (.exec stmt rest)) :
    StepsSoundly state (state.advance id thread (rest none)) id := by
  have keeps : Keeps state (state.advance id thread (rest none)) id :=
    (Keeps.refl last id).transfer rfl rfl rfl
  rcases sound.running _ alive with ⟨phase, owns, goesOn⟩
  refine ⟨keeps, _, rfl, ?_⟩
  cases phase with
  | idle =>
      exact sound.advances .idle keeps owns fun seen above => (goesOn seen (keeps.above above)).2
  | active work =>
      exact sound.advances (.active ()) keeps trivial fun seen above =>
        goesOn seen (keeps.above above) none
  | held =>
      have now := goesOn (CommittedSince state thread.startedAt) fun _ _ committed => committed
      exact now.elim

theorem SnapshotSound.steps {program : Program}
    (last : state.history.getLast? = some state.committed) (sound : SnapshotSound state id thread)
    (alive : thread.program = some program)
    (lists : (∀ problemId ∈ listing program, ¬ChangedByOther state id problemId) ∨
      ∀ stmt rest, program = .exec stmt rest → next = state.advance id thread (rest none))
    (advances : (server dump).Advances state id thread program next) :
    StepsSoundly state next id := by
  rcases sound.running program alive with ⟨phase, owns, goesOn⟩
  have now := goesOn (CommittedSince state thread.startedAt) fun _ _ committed => committed
  have same := Keeps.refl last id
  cases advances with
  | locks rest free =>
      have keeps : Keeps state (State.advance { state with mutex := some id } id thread rest) id :=
        same.transfer rfl rfl rfl
      cases phase with
      | idle =>
          exact ⟨keeps, _, rfl, sound.advances .held keeps owns fun seen above =>
            goesOn seen (keeps.above above)⟩
      | held | active work => exact now.elim
  | unlocks rest holds =>
      have keeps : Keeps state (State.advance { state with mutex := none } id thread rest) id :=
        same.transfer rfl rfl rfl
      cases phase with
      | held =>
          exact ⟨keeps, _, rfl, sound.advances .idle keeps owns fun seen above =>
            goesOn seen (keeps.above above)⟩
      | idle | active work => exact now.elim
  | begins rest free =>
      have keeps : Keeps state
          (State.advance
            { state with
              transaction := some { owner := id, work := state.committed, joined := [] } }
            id thread (rest true)) id := Keeps.begins last rfl rfl rfl
      cases phase with
      | held =>
          exact ⟨keeps, _, rfl, sound.advances (.active ()) keeps trivial fun seen above =>
            (goesOn seen (keeps.above above)).1⟩
      | idle | active work => exact now.elim
  | beginFails rest =>
      have keeps : Keeps state (state.advance id thread (rest false)) id :=
        same.transfer rfl rfl rfl
      cases phase with
      | held =>
          exact ⟨keeps, _, rfl, sound.advances .held keeps owns fun seen above =>
            (goesOn seen (keeps.above above)).2⟩
      | idle | active work => exact now.elim
  | commits rest transaction is_open =>
      have keeps : Keeps state
          (State.advance
            { state with
              committed := transaction.work
              history := state.history ++ [transaction.work]
              transaction := none }
            id thread (rest true)) id :=
        Keeps.closes (List.prefix_append _ _) (List.getLast?_concat ..) rfl
      cases phase with
      | active work =>
          exact ⟨keeps, _, rfl, sound.advances .held keeps nofun fun seen above =>
            (goesOn seen (keeps.above above)).1⟩
      | idle | held => exact now.elim
  | commitFails rest =>
      have keeps : Keeps state (state.advance id thread (rest false)) id :=
        same.transfer rfl rfl rfl
      cases phase with
      | active work =>
          exact ⟨keeps, _, rfl, sound.advances (.active ()) keeps trivial fun seen above =>
            (goesOn seen (keeps.above above)).2⟩
      | idle | held => exact now.elim
  | rollsBack rest =>
      have keeps : Keeps state (State.advance { state with transaction := none } id thread rest)
          id := Keeps.closes List.prefix_rfl last rfl
      cases phase with
      | active work =>
          exact ⟨keeps, _, rfl, sound.advances .held keeps nofun fun seen above =>
            goesOn seen (keeps.above above)⟩
      | idle | held => exact now.elim
  | executes stmt rest reply after executed =>
      rcases lists with unchanged | failed
      case inr =>
        rw [failed stmt rest rfl]
        exact sound.fails last alive
      have keeps : Keeps state
          ((state.store id ⟨stmt, reply⟩ after).advance id thread (rest (some reply))) id :=
        (Keeps.store last ⟨stmt, reply⟩ after).transfer rfl rfl rfl
      refine ⟨keeps, { thread with program := some (rest (some reply)) }, ?_, ?_⟩
      · rw [State.advance, (state.store_threads id ⟨stmt, reply⟩ after).1]
      · cases phase with
        | idle =>
            refine sound.advances .idle keeps (owns.store ⟨stmt, reply⟩ after) fun seen above => ?_
            refine (goesOn seen (keeps.above above)).1 reply ?_
            exact readsFrom_of_executed last sound.started owns unchanged executed
              (keeps.above above)
        | active work =>
            exact sound.advances (.active ()) keeps trivial fun seen above =>
              goesOn seen (keeps.above above) (some reply)
        | held => exact now.elim
  | execFails stmt rest => exact sound.fails last alive
  | emits event rest =>
      have keeps : Keeps state
          (state.advance id { thread with events := thread.events ++ [event] } rest) id :=
        same.transfer rfl rfl rfl
      refine ⟨keeps, _, rfl, sound.started, ?_, ?_⟩
      · intro other mem
        rcases List.mem_append.mp mem with mem | mem
        · exact sound.judged other mem
        · exact List.mem_singleton.mp mem ▸ now.1
      · rintro _ ⟨⟩
        exact ⟨phase, owns, fun seen above => (goesOn seen above).2⟩

end Threads

section System

variable {dump : Dump} {state next : State}

/-- Every thread is sound. -/
structure SnapshotsSound (state : State) : Prop where
  last : state.history.getLast? = some state.committed
  unborn : ∀ id, state.nextThread ≤ id → state.threads id = none
  owners : ∀ transaction, state.transaction = some transaction →
    transaction.owner < state.nextThread
  threads : ∀ id thread, state.threads id = some thread → SnapshotSound state id thread

theorem SnapshotsSound.initial {start : Db} : SnapshotsSound (.initial start) where
  last := rfl
  unborn := fun _ _ => rfl
  owners := by nofun
  threads := by
    intro id thread born
    cases born

theorem SnapshotsSound.starts (sound : SnapshotsSound state) (call : Call) :
    SnapshotsSound ((server dump).spawn state call) where
  last := sound.last
  unborn := by
    intro id later
    rw [SharedConnection.Service.spawn_of_ne _ _ _ (Nat.ne_of_gt later)]
    exact sound.unborn id (Nat.le_of_succ_le later)
  owners := fun transaction is_open => Nat.lt_succ_of_lt (sound.owners transaction is_open)
  threads := by
    intro id thread born
    by_cases isNew : id = state.nextThread
    · subst isNew
      rw [SharedConnection.Service.spawn_new] at born
      rcases Option.some.inj born with rfl
      refine ⟨?_, fun _ mem => absurd mem List.not_mem_nil, ?_⟩
      · have nonempty : state.history ≠ [] := by
          intro empty
          have last := sound.last
          rw [empty] at last
          cases last
        exact Nat.sub_lt (List.length_pos_iff.mpr nonempty) Nat.one_pos
      · rintro _ ⟨⟩
        exact ⟨.idle, fun transaction is_open => (sound.owners transaction is_open).ne,
          fun seen _ => call_relays _ _⟩
    · rw [SharedConnection.Service.spawn_of_ne _ _ _ isNew] at born
      have before := sound.threads id thread born
      exact ⟨before.started, before.judged, before.running⟩

theorem SnapshotsSound.crashes (sound : SnapshotsSound state) : SnapshotsSound state.crashed := by
  refine ⟨sound.last, fun id later => ?_, (fun transaction closed => by cases closed), ?_⟩
  · simp only [State.crashed, sound.unborn id later, Option.map_none]
  · intro id thread born
    simp only [State.crashed, Option.map_eq_some_iff] at born
    rcases born with ⟨before, born, rfl⟩
    have sound := sound.threads id before born
    split
    case h_1 finished =>
      refine ⟨sound.started, sound.judged, fun program alive => ?_⟩
      rw [finished] at alive
      rcases Option.some.inj alive with rfl
      exact ⟨.idle, (fun transaction closed => by cases closed), fun _ _ => trivial⟩
    case h_2 => exact ⟨sound.started, sound.judged, (fun program alive => by cases alive)⟩

theorem SnapshotsSound.step {label : Label} (sound : SnapshotsSound state)
    (lists : ListsUnchanged state label)
    (step : (server dump).system.step state label = some next) : SnapshotsSound next := by
  cases SharedConnection.Service.Transition.of_step step with
  | starts call => exact sound.starts call
  | crashes => exact sound.crashes
  | runs id ok thread program next born alive advances =>
      have fresh : id < state.nextThread := by
        by_contra later
        rw [sound.unborn id (Nat.le_of_not_lt later)] at born
        cases born
      have lists : (∀ problemId ∈ listing program, ¬ChangedByOther state id problemId) ∨
          ∀ stmt rest, program = .exec stmt rest → next = state.advance id thread (rest none) := by
        cases ok with
        | true => exact .inl (lists rfl thread born program alive)
        | false =>
            refine .inr fun stmt rest isExec => ?_
            simp only [SharedConnection.Service.system, SharedConnection.Service.step, born, alive,
              isExec, SharedConnection.Service.stepThread, Option.bind_some,
              Option.some.injEq] at step
            exact step.symm
      rcases (sound.threads id thread born).steps sound.last alive lists advances with
        ⟨keeps, later, threads, laterSound⟩
      have counter := advances.threads_eq.1
      have others {other : ThreadId} (differs : other ≠ id) :
          next.threads other = state.threads other := by
        rw [threads, Function.update_of_ne differs]
      have own : next.threads id = some later := by rw [threads, Function.update_self]
      refine ⟨keeps.last, ?_, ?_, ?_⟩
      · intro other unborn
        rw [counter] at unborn
        have differs : other ≠ id := Nat.ne_of_gt (fresh.trans_le unborn)
        rw [others differs]
        exact sound.unborn other unborn
      · intro transaction is_open
        rw [counter]
        rcases keeps.owners transaction is_open with owner | ⟨before, was_open, same⟩
        · exact owner ▸ fresh
        · exact same ▸ sound.owners before was_open
      · intro other otherThread otherBorn
        by_cases isOwn : other = id
        · rw [isOwn, own] at otherBorn
          exact isOwn ▸ Option.some.inj otherBorn ▸ laterSound
        · rw [others isOwn] at otherBorn
          exact (sound.threads other otherThread otherBorn).frame keeps isOwn

/-- In a run in which nobody lists the test cases of a problem while the open transaction of another
thread has changed them, every task is judged on test cases that have been committed at some time
since it began. -/
theorem judged_on_committed_testcases {start : Db}
    (reaches : (server dump).system.Reaches ListsUnchanged (.initial start) state)
    {id : ThreadId} {thread : SharedConnection.Thread Reply Event Call}
    (born : state.threads id = some thread) {problemId : ℤ} {records : List TestcaseRow}
    (judged : .judging problemId records ∈ thread.events) :
    CommittedSince state thread.startedAt problemId records := by
  have sound : SnapshotsSound state := by
    refine reaches.invariant SnapshotsSound.initial ?_
    exact fun before label next _ sound allowed step => sound.step allowed step
  exact (sound.threads id thread born).judged _ judged

end System

section Runs

/-- A problem with one sample. -/
def oneSample : Db where
  users :=
    { rows :=
        [{ id := 1, account := [97], nickname := [98], passwordHash := [1], role := .user
           resetPwdFlag := 0, createdAt := [50] }]
      nextId := 2 }
  problems :=
    { rows :=
        [{ id := 1, title := [97], description := [], difficulty := .easy, tags := []
           timeLimitMs := 1000, memoryLimitKb := 65536, visible := true
           createdAt := [50], updatedAt := [50] }]
      nextId := 2 }
  testcases :=
    { rows :=
        [{ id := 1, problemId := 1, ord := 0, isSample := true, input := [49], output := [50] }]
      nextId := 2 }

def oneSubmission : Call :=
  .handle { userId := 1, problemId := 1 } (fun _ => { status := .AC }) [50]

def replaceSample : Call :=
  .updateProblem 1 { samples := some [{ input := [51], output := [52] }] } [50]

/-- The task looks up its problem, and an administrator replaces the sample as far as given. -/
def readDuring (steps : ℕ) : List Label :=
  [.start oneSubmission, .run 0 true, .start replaceSample] ++
    List.replicate steps (.run 1 true) ++ List.replicate 2 (.run 0 true) ++
    List.replicate (9 - steps) (.run 1 true) ++ List.replicate 9 (.run 0 true)

/-- The task reads the old sample in the transaction that replaces it. -/
theorem judged_on_committed_testcases_early :
    ∃ (state : State) (thread : SharedConnection.Thread Reply Event Call),
      (server fun _ => some []).system.run (.initial oneSample) (readDuring 4) = some state ∧
        state.threads 0 = some thread ∧ hasEnded thread = true ∧
        (state.committed.testcases.ofProblem 1).map (·.input) = [[51]] ∧
        ∃ records, .judging 1 records ∈ thread.events ∧ records.map (·.input) = [[49]] ∧
          CommittedSince state thread.startedAt 1 records := by
  have execution : ∃ (state : State) (thread : SharedConnection.Thread Reply Event Call),
      (server fun _ => some []).system.run (.initial oneSample) (readDuring 4) = some state ∧
        state.threads 0 = some thread ∧ hasEnded thread = true ∧
        (state.committed.testcases.ofProblem 1).map (·.input) = [[51]] ∧
        ∃ records, .judging 1 records ∈ thread.events ∧ records.map (·.input) = [[49]] :=
    ⟨_, _, rfl, rfl, rfl, rfl, _, List.mem_cons_self, rfl⟩
  rcases execution with ⟨state, thread, execution, born, isEnded, replaced, records, judged, inputs⟩
  have admits : (server fun _ => some []).system.Admits ListsUnchanged
      (.initial oneSample) (readDuring 4) := by decide
  exact ⟨state, thread, execution, born, isEnded, replaced, records, judged, inputs,
    judged_on_committed_testcases (TransitionSystem.reaches_of_run admits execution) born judged⟩

/-- The task reads between the deletion of the old sample and the insertion of the new one, and is
judged on no test case at all. -/
theorem judged_on_replaced_testcases :
    ¬∀ (state : State) (id : ThreadId) (thread : SharedConnection.Thread Reply Event Call)
        (problemId : ℤ) (records : List TestcaseRow),
      (server fun _ => some []).system.Reaches TransitionSystem.Unrestricted
          (.initial oneSample) state →
        state.threads id = some thread → hasEnded thread = true →
          .judging problemId records ∈ thread.events →
            CommittedSince state thread.startedAt problemId records := by
  intro claim
  have execution : ∃ (state : State) (thread : SharedConnection.Thread Reply Event Call),
      (server fun _ => some []).system.run (.initial oneSample) (readDuring 5) = some state ∧
        state.threads 0 = some thread ∧ hasEnded thread = true ∧
        .judging 1 [] ∈ thread.events ∧
        state.history.all (fun db => decide (db.testcases.ofProblem 1 ≠ [])) = true :=
    ⟨_, _, rfl, rfl, rfl, List.mem_cons_self, rfl⟩
  rcases execution with ⟨state, thread, execution, born, isEnded, judged, neverEmpty⟩
  rcases claim state 0 thread 1 []
    (TransitionSystem.reaches_of_run (TransitionSystem.admits_unrestricted _ _) execution) born
    isEnded judged with ⟨db, mem, empty⟩
  have nonempty := List.all_eq_true.mp neverEmpty db (List.mem_of_mem_drop mem)
  simp [empty] at nonempty

end Runs

end Service

end OnlineJudge
