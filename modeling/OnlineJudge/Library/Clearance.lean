import OnlineJudge.Library.TransactionLogic

/-!
# Clearance

Threads on a shared connection that have to identify themselves before they may act. A
program starts with few rights; an answer of the database can clear it, and then it has
more. What clears a thread must be vouched for by the calls that there have been, so a
`Policy` can follow authority from thread to thread: whoever acts was let in by somebody
who was let in before. Its `Holds` is kept by every step of the system, whatever fails.
-/

namespace OnlineJudge.Library

variable {Db Stmt : Type} {Reply : Stmt → Type} {Event Event' Call : Type}

/-- Runs a service and goes on with the event that it returns; what it emits on its way is
passed on. -/
def Program.call (passes : Event → Event') (next : Event → Program Reply Event') :
    Program Reply Event → Program Reply Event'
  | .done => .done
  | .lock rest => .lock (Program.call passes next rest)
  | .unlock rest => .unlock (Program.call passes next rest)
  | .begin rest => .begin fun begun => Program.call passes next (rest begun)
  | .commit rest => .commit fun committed => Program.call passes next (rest committed)
  | .rollback rest => .rollback (Program.call passes next rest)
  | .exec stmt rest => .exec stmt fun answer => Program.call passes next (rest answer)
  | .emit event .done => next event
  | .emit event rest => .emit (passes event) (Program.call passes next rest)

namespace SharedConnection

/-- The statements that a thread may issue and the events that it may emit. -/
structure Rights (Stmt Event : Type) where
  issues : Stmt → Prop
  emits : Event → Prop

/-- The program keeps to its rights, as long as the database gives possible answers. -/
def Within (possible : (stmt : Stmt) → Reply stmt → Prop) (rights : Rights Stmt Event) :
    Program Reply Event → Prop
  | .done => True
  | .lock next | .unlock next | .rollback next => Within possible rights next
  | .begin next | .commit next => ∀ answer, Within possible rights (next answer)
  | .exec stmt next =>
      rights.issues stmt ∧ Within possible rights (next none) ∧
        ∀ reply, possible stmt reply → Within possible rights (next (some reply))
  | .emit event next => rights.emits event ∧ Within possible rights next

/-- The program keeps to the rights that it has, and takes those of a cleared thread only after
an answer that clears it. -/
def Guarded (possible clears : (stmt : Stmt) → Reply stmt → Prop)
    (rights : Bool → Rights Stmt Event) : Bool → Program Reply Event → Prop
  | _, .done => True
  | cleared, .lock next | cleared, .unlock next | cleared, .rollback next =>
      Guarded possible clears rights cleared next
  | cleared, .begin next | cleared, .commit next =>
      ∀ answer, Guarded possible clears rights cleared (next answer)
  | cleared, .exec stmt next =>
      (rights cleared).issues stmt ∧ Guarded possible clears rights cleared (next none) ∧
        ∀ reply, possible stmt reply →
          Guarded possible clears rights cleared (next (some reply)) ∨
            clears stmt reply ∧ Guarded possible clears rights true (next (some reply))
  | cleared, .emit event next =>
      (rights cleared).emits event ∧ Guarded possible clears rights cleared next

section Programs

variable {possible clears : (stmt : Stmt) → Reply stmt → Prop} {rights : Rights Stmt Event}
  {program : Program Reply Event}

/-- A program that uses only some statements and events is within any rights to them. -/
theorem Uses.within {inside outside : Stmt → Prop} {emitted : Event → Prop}
    (within : ∀ stmt, inside stmt → rights.issues stmt)
    (without : ∀ stmt, outside stmt → rights.issues stmt)
    (emits : ∀ event, emitted event → rights.emits event) {phase : Phase Unit}
    (uses : Uses inside outside emitted program phase) : Within possible rights program := by
  induction program generalizing phase with
  | done => trivial
  | lock next ih | unlock next ih | rollback next ih => cases phase <;> first
      | exact ih uses
      | exact uses.elim
  | begin next ih | commit next ih =>
      cases phase <;> first
        | exact uses.elim
        | intro answer
          cases answer
          · exact ih false uses.2
          · exact ih true uses.1
  | exec stmt next ih =>
      cases phase with
      | idle => exact ⟨without stmt uses.1, ih none (uses.2 none), fun reply _ => ih _ (uses.2 _)⟩
      | held => exact uses.elim
      | active => exact ⟨within stmt uses.1, ih none (uses.2 none), fun reply _ => ih _ (uses.2 _)⟩
  | emit event next ih => exact ⟨emits event uses.1, ih uses.2⟩

variable {passes : Event → Event'} {next : Event → Program Reply Event'}
  {granted : Bool → Rights Stmt Event'} {cleared : Bool}

/-- A service within its rights, called by a thread that has them, too. -/
theorem Within.call (within : Within possible rights program)
    (issues : ∀ stmt, rights.issues stmt → (granted cleared).issues stmt)
    (emits : ∀ event, rights.emits event → (granted cleared).emits (passes event))
    (continues : ∀ event, rights.emits event →
      Guarded possible clears granted cleared (next event)) :
    Guarded possible clears granted cleared (program.call passes next) := by
  induction program with
  | done => trivial
  | lock rest ih | unlock rest ih | rollback rest ih => exact ih within
  | begin rest ih | commit rest ih => exact fun answer => ih answer (within answer)
  | exec stmt rest ih =>
      refine ⟨issues stmt within.1, ih none within.2.1, fun reply isPossible => .inl ?_⟩
      exact ih (some reply) (within.2.2 reply isPossible)
  | emit event rest ih =>
      cases rest with
      | done => exact continues event within.1
      | _ => exact ⟨emits event within.1, ih within.2⟩

end Programs

namespace State

/-- The calls that have been started, by thread. -/
def births (state : State Db Reply Event Call) (id : ThreadId) : Option Call :=
  (state.threads id).map (·.call)

end State

/-- A thread goes on with the call that it was started for. -/
theorem Service.Advances.call_eq {service : Service Db Reply Event Call}
    {state next : State Db Reply Event Call} {id : ThreadId}
    {thread later : Thread Reply Event Call} {program : Program Reply Event}
    (advances : service.Advances state id thread program next)
    (threads : next.threads = Function.update state.threads id (some later)) :
    later.call = thread.call := by
  have atSelf : next.threads id = some later := by simp [threads]
  cases advances with
  | executes stmt rest reply after executed =>
      simp only [State.advance, Function.update_self, Option.some.injEq] at atSelf
      simp [← atSelf]
  | _ =>
      simp only [State.advance, Function.update_self, Option.some.injEq] at atSelf
      simp [← atSelf]

/-- What is true of every call that is started is true of every call there has been. -/
theorem births_of_reaches {service : Service Db Reply Event Call} {kind : Call → Prop}
    {allowed : State Db Reply Event Call → Label Call → Prop}
    {state next : State Db Reply Event Call}
    (reaches : service.system.Reaches allowed state next)
    (initially : ∀ id call, state.births id = some call → kind call)
    (starts : ∀ before call, allowed before (.start call) → kind call) :
    ∀ id call, next.births id = some call → kind call := by
  refine @TransitionSystem.Reaches.invariant _ _ _ _
    (fun state => ∀ id call, state.births id = some call → kind call) _ _ reaches initially ?_
  intro before label after _ inv isAllowed step id call born
  cases Service.Transition.of_step step with
  | starts started =>
      by_cases isNew : id = before.nextThread
      · subst isNew
        simp only [State.births, service.spawn_new, Option.map_some, Option.some.injEq] at born
        exact born ▸ starts before started isAllowed
      · simp only [State.births, service.spawn_of_ne before started isNew] at born
        exact inv id call born
  | runs runner ok thread program _ there alive advances =>
      rcases advances.threads_eq with ⟨-, later, threads⟩
      have sameCall := advances.call_eq threads
      by_cases isSelf : id = runner
      · subst isSelf
        simp only [State.births, threads, Function.update_self, Option.map_some,
          Option.some.injEq] at born
        apply inv id call
        simp [State.births, there, ← born, sameCall]
      · simp only [State.births, threads, Function.update_of_ne isSelf] at born
        exact inv id call born
  | crashes =>
      rcases Option.map_eq_some_iff.mp born with ⟨last, there, rfl⟩
      rcases Option.map_eq_some_iff.mp there with ⟨thread, threadThere, rfl⟩
      have same := inv id thread.call (by simp [State.births, threadThere])
      split <;> exact same

/-- Every thread that there was is still there. -/
def Extends (before after : ThreadId → Option Call) : Prop :=
  ∀ id call, before id = some call → after id = some call

theorem Extends.rfl {births : ThreadId → Option Call} : Extends births births :=
  fun _ _ born => born

/-- What threads may do, and what the contents of the database owe to it. -/
structure Policy (service : Service Db Reply Event Call) where
  possible : (stmt : Stmt) → Reply stmt → Prop
  clears : Call → (stmt : Stmt) → Reply stmt → Prop
  rights : ThreadId → Call → Bool → Rights Stmt Event
  /-- The calls that there have been vouch for the clearance of a call. -/
  Vouched : (ThreadId → Option Call) → Call → Prop
  Inv : (ThreadId → Option Call) → Db → Prop
  vouched_mono : ∀ {before after call}, Extends before after → Vouched before call →
    Vouched after call
  inv_mono : ∀ {before after db}, Extends before after → Inv before db → Inv after db
  possible_of_execute : ∀ {births stmt before reply after}, Inv births before →
    service.execute stmt before = some (reply, after) → possible stmt reply
  vouched_of_clears : ∀ {births call stmt before reply after}, Inv births before →
    service.execute stmt before = some (reply, after) → clears call stmt reply →
    Vouched births call
  keeps : ∀ {births id call cleared stmt before reply after}, Inv births before →
    births id = some call → (cleared = true → Vouched births call) →
    (rights id call cleared).issues stmt →
    service.execute stmt before = some (reply, after) → Inv births after

namespace Policy

variable {service : Service Db Reply Event Call} (policy : Policy service)

/-- Clearance, as far as a thread has it, is vouched for. -/
def Cleared (births : ThreadId → Option Call) (call : Call) (cleared : Bool) : Prop :=
  cleared = true → policy.Vouched births call

/-- A thread of which everything so far was within its rights, and everything to come will be. -/
structure Watched (births : ThreadId → Option Call) (id : ThreadId)
    (thread : Thread Reply Event Call) : Prop where
  program : ∀ program, thread.program = some program → ∃ cleared,
    policy.Cleared births thread.call cleared ∧
      Guarded policy.possible (policy.clears thread.call) (policy.rights id thread.call) cleared
        program
  events : ∀ event ∈ thread.events, ∃ cleared,
    policy.Cleared births thread.call cleared ∧
      (policy.rights id thread.call cleared).emits event

/-- A thread that starts a call is watched. -/
def Admitted (births : ThreadId → Option Call) (id : ThreadId) (call : Call) : Prop :=
  ∃ cleared, policy.Cleared births call cleared ∧
    Guarded policy.possible (policy.clears call) (policy.rights id call) cleared
      (service.body id call)

structure Holds (state : State Db Reply Event Call) : Prop where
  fresh : ∀ id, state.nextThread ≤ id → state.threads id = none
  committed : policy.Inv state.births state.committed
  working : ∀ transaction, state.transaction = some transaction →
    policy.Inv state.births transaction.work
  watched : ∀ id thread, state.threads id = some thread → policy.Watched state.births id thread

variable {policy}

theorem Cleared.mono {before after : ThreadId → Option Call} {call : Call} {cleared : Bool}
    (grown : Extends before after) (isCleared : policy.Cleared before call cleared) :
    policy.Cleared after call cleared :=
  fun isTrue => policy.vouched_mono grown (isCleared isTrue)

theorem Watched.mono {before after : ThreadId → Option Call} {id : ThreadId}
    {thread : Thread Reply Event Call} (grown : Extends before after)
    (watched : policy.Watched before id thread) : policy.Watched after id thread where
  program := by
    intro program runs
    rcases watched.program program runs with ⟨cleared, isCleared, guarded⟩
    exact ⟨cleared, isCleared.mono grown, guarded⟩
  events := by
    intro event mem
    rcases watched.events event mem with ⟨cleared, isCleared, emits⟩
    exact ⟨cleared, isCleared.mono grown, emits⟩

section Steps

variable {state next : State Db Reply Event Call}

theorem Holds.view (holds : policy.Holds state) : policy.Inv state.births state.view := by
  unfold State.view
  split
  case h_1 transaction isOpen => exact holds.working transaction isOpen
  case h_2 => exact holds.committed

theorem Holds.extends_spawn (holds : policy.Holds state) (call : Call) :
    Extends state.births (service.spawn state call).births := by
  intro id other born
  have differs : id ≠ state.nextThread := by
    rintro rfl
    simp [State.births, holds.fresh _ le_rfl] at born
  simpa [State.births, service.spawn_of_ne state call differs] using born

/-- A new thread leaves the others and the database as they are. -/
theorem Holds.spawn (holds : policy.Holds state) {call : Call}
    (admitted : policy.Admitted (service.spawn state call).births state.nextThread call) :
    policy.Holds (service.spawn state call) := by
  have grown := holds.extends_spawn call
  refine ⟨?_, policy.inv_mono grown holds.committed, ?_, ?_⟩
  · intro id above
    have below : state.nextThread < id := above
    rw [service.spawn_of_ne state call (Nat.ne_of_gt below)]
    exact holds.fresh id (Nat.le_of_lt below)
  · intro transaction isOpen
    exact policy.inv_mono grown (holds.working transaction isOpen)
  · intro id thread born
    by_cases isNew : id = state.nextThread
    · subst isNew
      rw [service.spawn_new] at born
      cases born
      refine ⟨?_, fun event mem => absurd mem List.not_mem_nil⟩
      rintro program ⟨⟩
      exact admitted
    · rw [service.spawn_of_ne state call isNew] at born
      exact (holds.watched id thread born).mono grown

/-- A crash ends threads; what they have been called for stays known. -/
theorem Holds.crashed (holds : policy.Holds state) : policy.Holds state.crashed := by
  have same : state.crashed.births = state.births := by
    funext id
    cases born : state.threads id with
    | none => simp [State.births, State.crashed, born]
    | some thread =>
        simp only [State.births, State.crashed, born, Option.map_some]
        split <;> rfl
  refine ⟨?_, same ▸ holds.committed, ?_, ?_⟩
  · intro id above
    simp [State.crashed, holds.fresh id above]
  · intro transaction isOpen
    simp [State.crashed] at isOpen
  · intro id later born
    rw [same]
    rcases Option.map_eq_some_iff.mp born with ⟨thread, there, rfl⟩
    have watched := holds.watched id thread there
    split
    · exact watched
    · refine ⟨?_, watched.events⟩
      intro program going
      simp at going

/-- One thread goes on: what it has become is watched again, and so is the database. -/
theorem Holds.update (holds : policy.Holds state) {id : ThreadId}
    {thread later : Thread Reply Event Call} (born : state.threads id = some thread)
    (watched : policy.Watched state.births id later) (sameCall : later.call = thread.call)
    (counter : next.nextThread = state.nextThread)
    (threads : next.threads = Function.update state.threads id (some later))
    (committed : policy.Inv state.births next.committed)
    (working : ∀ transaction, next.transaction = some transaction →
      policy.Inv state.births transaction.work) : policy.Holds next := by
  have same : next.births = state.births := by
    funext other
    by_cases isSelf : other = id
    · subst isSelf
      simp [State.births, threads, born, sameCall]
    · simp [State.births, threads, Function.update_of_ne isSelf]
  refine ⟨?_, same ▸ committed, same ▸ working, ?_⟩
  · intro other above
    rw [counter] at above
    have differs : other ≠ id := by
      rintro rfl
      simp [holds.fresh _ above] at born
    simp [threads, Function.update_of_ne differs, holds.fresh other above]
  · intro other last there
    rw [same]
    by_cases isSelf : other = id
    · subst isSelf
      simp only [threads, Function.update_self, Option.some.injEq] at there
      exact there ▸ watched
    · rw [threads, Function.update_of_ne isSelf] at there
      exact holds.watched other last there

/-- A statement that a thread may issue keeps the contents that it sees. -/
theorem Holds.store (holds : policy.Holds state) (id : ThreadId)
    (answered : Σ stmt, Reply stmt) {after : Db} (inv : policy.Inv state.births after) :
    policy.Inv state.births (state.store id answered after).committed ∧
      ∀ transaction, (state.store id answered after).transaction = some transaction →
        policy.Inv state.births transaction.work := by
  unfold State.store
  split
  case h_1 transaction isOpen =>
    refine ⟨holds.committed, ?_⟩
    rintro _ ⟨⟩
    exact inv
  case h_2 closed => exact ⟨inv, fun transaction isOpen => absurd (closed.symm.trans isOpen) nofun⟩

/-- The next connection call of a thread. -/
theorem Holds.advances (holds : policy.Holds state) {id : ThreadId}
    {thread : Thread Reply Event Call} {program : Program Reply Event}
    (born : state.threads id = some thread) (alive : thread.program = some program)
    (advances : service.Advances state id thread program next) : policy.Holds next := by
  have watched := holds.watched id thread born
  rcases watched.program program alive with ⟨cleared, isCleared, guarded⟩
  have goesOn (rest : Program Reply Event) {still : Bool}
      (isCleared : policy.Cleared state.births thread.call still)
      (guarded : Guarded policy.possible (policy.clears thread.call)
        (policy.rights id thread.call) still rest) :
      policy.Watched state.births id { thread with program := some rest } :=
    ⟨by rintro _ ⟨⟩; exact ⟨still, isCleared, guarded⟩, watched.events⟩
  cases advances with
  | locks rest | unlocks rest =>
      exact holds.update born (goesOn rest isCleared guarded) rfl rfl rfl holds.committed
        holds.working
  | begins rest =>
      refine holds.update born (goesOn _ isCleared (guarded true)) rfl rfl rfl holds.committed ?_
      rintro _ ⟨⟩
      exact holds.committed
  | beginFails rest | commitFails rest =>
      exact holds.update born (goesOn _ isCleared (guarded false)) rfl rfl rfl holds.committed
        holds.working
  | commits rest transaction isOpen =>
      exact holds.update born (goesOn _ isCleared (guarded true)) rfl rfl rfl
        (holds.working transaction isOpen) nofun
  | rollsBack rest =>
      exact holds.update born (goesOn rest isCleared guarded) rfl rfl rfl holds.committed nofun
  | executes stmt rest reply after executed =>
      rcases state.store_threads id ⟨stmt, reply⟩ after with ⟨threads, counter⟩
      have bornCall : state.births id = some thread.call := by simp [State.births, born]
      have inv : policy.Inv state.births after :=
        policy.keeps holds.view bornCall isCleared guarded.1 executed
      rcases holds.store id ⟨stmt, reply⟩ inv with ⟨committed, working⟩
      have later : policy.Watched state.births id
          { thread with program := some (rest (some reply)) } := by
        have isPossible := policy.possible_of_execute holds.view executed
        rcases guarded.2.2 reply isPossible with same | ⟨clears, more⟩
        · exact goesOn _ isCleared same
        · exact goesOn _ (fun _ => policy.vouched_of_clears holds.view executed clears) more
      refine holds.update born later rfl counter ?_ committed working
      simp [State.advance, threads]
  | execFails stmt rest =>
      exact holds.update born (goesOn _ isCleared guarded.2.1) rfl rfl rfl holds.committed
        holds.working
  | emits event rest =>
      have later : policy.Watched state.births id
          { thread with events := thread.events ++ [event], program := some rest } := by
        refine ⟨?_, ?_⟩
        · rintro _ ⟨⟩
          exact ⟨cleared, isCleared, guarded.2⟩
        · intro other mem
          rcases List.mem_append.mp mem with earlier | isLast
          · exact watched.events other earlier
          · cases List.mem_singleton.mp isLast
            exact ⟨cleared, isCleared, guarded.1⟩
      exact holds.update born later rfl rfl rfl holds.committed
        holds.working

end Steps

/-- Whatever the threads do in whatever order, and whatever fails: the policy holds, if every call
that is started is admitted. -/
theorem Holds.of_reaches {allowed : State Db Reply Event Call → Label Call → Prop}
    {state next : State Db Reply Event Call} (holds : policy.Holds state)
    (reaches : service.system.Reaches allowed state next)
    (admitted : ∀ before call, policy.Holds before → allowed before (.start call) →
      policy.Admitted (service.spawn before call).births before.nextThread call) :
    policy.Holds next := by
  refine reaches.invariant holds ?_
  intro before label after _ holds isAllowed step
  cases Service.Transition.of_step step with
  | starts call => exact holds.spawn (admitted before call holds isAllowed)
  | runs id ok thread program _ born alive advances => exact holds.advances born alive advances
  | crashes => exact holds.crashed

/-- An idle server holds the policy, if its contents do. -/
theorem holds_initial {db : Db} (inv : policy.Inv (fun _ => none) db) :
    policy.Holds (State.initial db) :=
  ⟨fun _ _ => rfl, inv, nofun, nofun⟩

end Policy

end SharedConnection

end OnlineJudge.Library
