import OnlineJudge.Library.SharedConnection

/-!
# Reasoning about transactions on a shared connection

A `Contract` says what holds of the committed contents (`Inv`), what every statement
keeps even in the middle of a transaction (`Basic`), how contents may grow, which
statements threads issue without holding the mutex (`Bare`), after which of those a
thread relies on what it saw (`Observed`), and what a thread promises with the events
it emits.

`Safe` follows one thread's program. It is checked for each program alone, against all
that the contract lets other threads do: outside a transaction the contents may have
grown, inside one the bare statements of others may have joined it. `Sound` collects
what then holds of the whole system, and `Sound.step` keeps it: a transaction commits
only contents that satisfy `Inv`, and a promise made outlives what others do.

What a thread observed may have been part of another thread's transaction. If that one
is rolled back, the thread relies on contents that never were committed. `Undoes` is
exactly that case, and the rule excludes it by a side condition on the step.
-/

namespace OnlineJudge.Library

namespace SharedConnection

variable {Db Stmt : Type} {Reply : Stmt → Type} {Event Call : Type}

/-- A statement of the given kind that another thread issued is part of the transaction. -/
def Relied (observed : (Σ stmt, Reply stmt) → Bool) (transaction : Transaction Db Reply) : Prop :=
  ∃ answered ∈ transaction.joined, observed answered

/-- The step ends the open transaction, if there is one, without committing it. -/
def State.abandons (state : State Db Reply Event Call) : Label Call → Bool
  | .start _ => false
  | .run id _ =>
      match (state.threads id).bind (·.program) with
      | some (.rollback _) => true
      | _ => false
  | .crash => true

/-- The step commits the open transaction. -/
def State.commits (state : State Db Reply Event Call) : Label Call → Bool
  | .run id true =>
      match (state.threads id).bind (·.program) with
      | some (.commit _) => true
      | _ => false
  | _ => false

/-- The step abandons a transaction that has such a statement. -/
def Undoes (observed : Db → (Σ stmt, Reply stmt) → Bool) (state : State Db Reply Event Call)
    (label : Label Call) : Prop :=
  state.abandons label = true ∧
    ∃ transaction ∈ state.transaction, Relied (observed state.committed) transaction

instance (observed : (Σ stmt, Reply stmt) → Bool)
    (transaction : Transaction Db Reply) : Decidable (Relied observed transaction) :=
  inferInstanceAs (Decidable (∃ answered ∈ transaction.joined, observed answered))

instance (observed : Db → (Σ stmt, Reply stmt) → Bool)
    (state : State Db Reply Event Call) (label : Label Call) :
    Decidable (Undoes observed state label) :=
  inferInstanceAs (Decidable
    (_ ∧ ∃ transaction ∈ state.transaction, Relied (observed state.committed) transaction))

structure Contract (service : Service Db Reply Event Call) where
  Inv : Db → Prop
  Basic : Db → Prop
  Grows : Db → Db → Prop
  Used : Stmt → Prop
  Bare : Stmt → Prop
  Observed : Db → (Σ stmt, Reply stmt) → Bool
  Promise : ThreadId → Call → List Event → Db → Prop
  grows_refl : ∀ db, Grows db db
  grows_trans : ∀ {first second third}, Grows first second → Grows second third →
    Grows first third
  bare_used : ∀ {stmt}, Bare stmt → Used stmt
  used_keeps : ∀ {stmt before reply after}, Used stmt → Basic before →
    service.execute stmt before = some (reply, after) → Basic after ∧ Grows before after
  bare_inv : ∀ {stmt before reply after}, Bare stmt → Basic before → Inv before →
    service.execute stmt before = some (reply, after) → Inv after
  promise_mono : ∀ {id call events before after}, Grows before after →
    Promise id call events before → Promise id call events after

/-- Where a thread stands: without the mutex, with it, or with a transaction of its own, whose
contents were `work` when it last looked. -/
inductive Phase (Db : Type) where
  | idle
  | held
  | active (work : Db)

/-- The program takes the mutex around its transactions, and the statements that it issues inside
and outside of them and the events that it emits are among the given ones. -/
def Uses (inside outside : Stmt → Prop) (emitted : Event → Prop) :
    Program Reply Event → Phase Unit → Prop
  | .done, .idle => True
  | .lock next, .idle => Uses inside outside emitted next .held
  | .unlock next, .held => Uses inside outside emitted next .idle
  | .begin next, .held =>
      Uses inside outside emitted (next true) (.active ()) ∧
        Uses inside outside emitted (next false) .held
  | .commit next, .active _ =>
      Uses inside outside emitted (next true) .held ∧
        Uses inside outside emitted (next false) (.active ())
  | .rollback next, .active _ => Uses inside outside emitted next .held
  | .exec stmt next, .idle =>
      outside stmt ∧ ∀ answer, Uses inside outside emitted (next answer) .idle
  | .exec stmt next, .active _ =>
      inside stmt ∧ ∀ answer, Uses inside outside emitted (next answer) (.active ())
  | .emit event next, phase => emitted event ∧ Uses inside outside emitted next phase
  | _, _ => False

theorem Uses.mono {inside inside' outside : Stmt → Prop} {emitted : Event → Prop}
    (weaker : ∀ stmt, inside stmt → inside' stmt) {program : Program Reply Event}
    {phase : Phase Unit} (uses : Uses inside outside emitted program phase) :
    Uses inside' outside emitted program phase := by
  induction program generalizing phase with
  | done => cases phase <;> exact uses
  | lock next ih =>
      cases phase with
      | idle => exact ih uses
      | held | active work => exact uses.elim
  | unlock next ih =>
      cases phase with
      | held => exact ih uses
      | idle | active work => exact uses.elim
  | begin next ih =>
      cases phase with
      | held => exact ⟨ih true uses.1, ih false uses.2⟩
      | idle | active work => exact uses.elim
  | commit next ih =>
      cases phase with
      | active work => exact ⟨ih true uses.1, ih false uses.2⟩
      | idle | held => exact uses.elim
  | rollback next ih =>
      cases phase with
      | active work => exact ih uses
      | idle | held => exact uses.elim
  | exec stmt next ih =>
      cases phase with
      | idle => exact ⟨uses.1, fun answer => ih answer (uses.2 answer)⟩
      | active work => exact ⟨weaker stmt uses.1, fun answer => ih answer (uses.2 answer)⟩
      | held => exact uses.elim
  | emit event next ih => exact ⟨uses.1, ih uses.2⟩

/-- The statements that the program can still issue, wherever it stands. -/
def Issues (allowed : Stmt → Prop) : Program Reply Event → Prop
  | .done => True
  | .lock next | .unlock next | .rollback next | .emit _ next => Issues allowed next
  | .begin next | .commit next => ∀ answer, Issues allowed (next answer)
  | .exec stmt next => allowed stmt ∧ ∀ answer, Issues allowed (next answer)

theorem Uses.issues {inside outside allowed : Stmt → Prop} {emitted : Event → Prop}
    (within : ∀ stmt, inside stmt → allowed stmt) (without : ∀ stmt, outside stmt → allowed stmt)
    {program : Program Reply Event} {phase : Phase Unit}
    (uses : Uses inside outside emitted program phase) : Issues allowed program := by
  induction program generalizing phase with
  | done => trivial
  | lock next ih =>
      cases phase with
      | idle => exact ih uses
      | held | active work => exact uses.elim
  | unlock next ih =>
      cases phase with
      | held => exact ih uses
      | idle | active work => exact uses.elim
  | begin next ih =>
      cases phase with
      | held =>
          rintro (_ | _)
          · exact ih false uses.2
          · exact ih true uses.1
      | idle | active work => exact uses.elim
  | commit next ih =>
      cases phase with
      | active work =>
          rintro (_ | _)
          · exact ih false uses.2
          · exact ih true uses.1
      | idle | held => exact uses.elim
  | rollback next ih =>
      cases phase with
      | active work => exact ih uses
      | idle | held => exact uses.elim
  | exec stmt next ih =>
      cases phase with
      | idle => exact ⟨without stmt uses.1, fun answer => ih answer (uses.2 answer)⟩
      | active work => exact ⟨within stmt uses.1, fun answer => ih answer (uses.2 answer)⟩
      | held => exact uses.elim
  | emit event next ih => exact ih uses.2

/-- A step of a thread changes no other thread, and leaves a program of the same statements. -/
theorem Issues.advances {service : Service Db Reply Event Call}
    {state next : State Db Reply Event Call} {id : ThreadId} {thread : Thread Reply Event Call}
    {allowed : Stmt → Prop} {program : Program Reply Event} (issues : Issues allowed program)
    (advances : service.Advances state id thread program next) :
    ∃ later, next.threads = Function.update state.threads id (some later) ∧
      ∀ rest, later.program = some rest → Issues allowed rest := by
  cases advances with
  | locks rest | unlocks rest | rollsBack rest | emits event rest =>
      exact ⟨_, rfl, by rintro _ ⟨⟩; exact issues⟩
  | begins rest | beginFails rest | commits rest | commitFails rest =>
      exact ⟨_, rfl, by rintro _ ⟨⟩; exact issues _⟩
  | executes stmt rest reply after executed =>
      refine ⟨{ thread with program := some (rest (some reply)) }, ?_,
        by rintro _ ⟨⟩; exact issues.2 _⟩
      unfold State.store
      split <;> rfl
  | execFails stmt rest => exact ⟨_, rfl, by rintro _ ⟨⟩; exact issues.2 _⟩

/-- The program takes the mutex around its transactions, and every event that it emits is backed,
if the answers are that it gets outside of its transactions. -/
def Relays (answers : (Σ stmt, Reply stmt) → Prop) (backed : Event → Prop) :
    Program Reply Event → Phase Unit → Prop
  | .done, .idle => True
  | .lock next, .idle => Relays answers backed next .held
  | .unlock next, .held => Relays answers backed next .idle
  | .begin next, .held =>
      Relays answers backed (next true) (.active ()) ∧ Relays answers backed (next false) .held
  | .commit next, .active _ =>
      Relays answers backed (next true) .held ∧ Relays answers backed (next false) (.active ())
  | .rollback next, .active _ => Relays answers backed next .held
  | .exec stmt next, .idle =>
      (∀ reply, answers ⟨stmt, reply⟩ → Relays answers backed (next (some reply)) .idle) ∧
        Relays answers backed (next none) .idle
  | .exec _ next, .active _ => ∀ answer, Relays answers backed (next answer) (.active ())
  | .emit event next, phase => backed event ∧ Relays answers backed next phase
  | _, _ => False

theorem Uses.relays {inside outside : Stmt → Prop} {answers : (Σ stmt, Reply stmt) → Prop}
    {emitted backed : Event → Prop} (quiet : ∀ event, emitted event → backed event)
    {program : Program Reply Event} {phase : Phase Unit}
    (uses : Uses inside outside emitted program phase) :
    Relays answers backed program phase := by
  induction program generalizing phase with
  | done => cases phase <;> exact uses
  | lock next ih =>
      cases phase with
      | idle => exact ih uses
      | held | active work => exact uses.elim
  | unlock next ih =>
      cases phase with
      | held => exact ih uses
      | idle | active work => exact uses.elim
  | begin next ih =>
      cases phase with
      | held => exact ⟨ih true uses.1, ih false uses.2⟩
      | idle | active work => exact uses.elim
  | commit next ih =>
      cases phase with
      | active work => exact ⟨ih true uses.1, ih false uses.2⟩
      | idle | held => exact uses.elim
  | rollback next ih =>
      cases phase with
      | active work => exact ih uses
      | idle | held => exact uses.elim
  | exec stmt next ih =>
      cases phase with
      | idle => exact ⟨fun reply _ => ih _ (uses.2 _), ih none (uses.2 none)⟩
      | active work => exact fun answer => ih answer (uses.2 answer)
      | held => exact uses.elim
  | emit event next ih => exact ⟨quiet event uses.1, ih uses.2⟩

namespace Contract

variable {service : Service Db Reply Event Call} (contract : Contract service)

/-- What bare statements of other threads may do to the contents of an open transaction. -/
def Interferes : Db → Db → Prop :=
  Relation.ReflTransGen fun before after =>
    ∃ stmt reply, contract.Bare stmt ∧ service.execute stmt before = some (reply, after)

/-- A bare statement was answered while `base` was committed. It saw `before`; the thread relied on
`seen` until then and relies on `known` from then on. -/
structure Answered (seen base before after known : Db) (answered : Σ stmt, Reply stmt) :
    Prop where
  basic : contract.Basic before
  base_grows : contract.Grows base before
  seen_grows : contract.Grows seen before
  executed : service.execute answered.1 before = some (answered.2, after)
  known_basic : contract.Basic known
  seen_known : contract.Grows seen known
  base_known : contract.Grows base known
  observed : contract.Observed base answered → known = after

/-- The program keeps the contract and makes only promises that hold, from a given phase on;
`seen` are contents that it relies on, `events` what it has emitted. -/
def Safe (promise : List Event → Db → Prop) :
    Program Reply Event → Phase Db → Db → List Event → Prop
  | .done, .idle, _, _ => True
  | .lock next, .idle, seen, events => Safe promise next .held seen events
  | .unlock next, .held, seen, events => Safe promise next .idle seen events
  | .begin next, .held, seen, events =>
      (∀ db, contract.Basic db → contract.Inv db → contract.Grows seen db →
        Safe promise (next true) (.active db) seen events) ∧
      Safe promise (next false) .held seen events
  | .commit next, .active work, seen, events =>
      (∀ later, contract.Basic later → contract.Grows seen later →
        contract.Interferes work later →
        contract.Inv later ∧ Safe promise (next true) .held later events) ∧
      Safe promise (next false) (.active work) seen events
  | .rollback next, .active _, seen, events => Safe promise next .held seen events
  | .exec stmt next, .idle, seen, events =>
      contract.Bare stmt ∧
      (∀ base before reply after known,
        contract.Answered seen base before after known ⟨stmt, reply⟩ →
        Safe promise (next (some reply)) .idle known events) ∧
      Safe promise (next none) .idle seen events
  | .exec stmt next, .active work, seen, events =>
      contract.Used stmt ∧
      (∀ later reply after, contract.Basic later → contract.Interferes work later →
        service.execute stmt later = some (reply, after) →
        Safe promise (next (some reply)) (.active after) seen events) ∧
      Safe promise (next none) (.active work) seen events
  | .emit event next, phase, seen, events =>
      promise (events ++ [event]) seen ∧ Safe promise next phase seen (events ++ [event])
  | _, _, _, _ => False

/-- Promises are about events only, so that no loss of contents can break one. -/
def Forgets : Prop :=
  ∀ id call events before after, contract.Promise id call events before →
    contract.Promise id call events after

/-- What a thread relies on has been committed, or is part of the open transaction. -/
def Known (seen : Db) (state : State Db Reply Event Call) : Prop :=
  contract.Grows seen state.committed ∨
    ∃ transaction, state.transaction = some transaction ∧
      Relied (contract.Observed state.committed) transaction ∧
      contract.Grows seen transaction.work

/-- The phase of a thread agrees with the mutex and the open transaction. -/
def PhaseAgrees (state : State Db Reply Event Call) (id : ThreadId) : Phase Db → Prop
  | .idle => state.mutex ≠ some id
  | .held => state.mutex = some id ∧ state.transaction = none
  | .active work => state.mutex = some id ∧
      ∃ transaction, state.transaction = some transaction ∧ transaction.owner = id ∧
        contract.Interferes work transaction.work

/-- A thread has kept its promises, and its remaining program will keep the contract. -/
def ThreadSound (state : State Db Reply Event Call) (id : ThreadId)
    (thread : Thread Reply Event Call) : Prop :=
  ∃ seen, contract.Known seen state ∧ contract.Promise id thread.call thread.events seen ∧
    ∀ program, thread.program = some program →
      ∃ phase, contract.PhaseAgrees state id phase ∧
        contract.Safe (contract.Promise id thread.call) program phase seen thread.events

/-- An open transaction belongs to the thread that holds the mutex. -/
def TransactionSound (state : State Db Reply Event Call)
    (transaction : Transaction Db Reply) : Prop :=
  state.mutex = some transaction.owner ∧ contract.Basic transaction.work ∧
    contract.Grows state.committed transaction.work

structure Sound (state : State Db Reply Event Call) : Prop where
  committed_basic : contract.Basic state.committed
  committed_inv : contract.Inv state.committed
  transactions : ∀ transaction, state.transaction = some transaction →
    contract.TransactionSound state transaction
  threads : ∀ id thread, state.threads id = some thread →
    contract.ThreadSound state id thread
  /-- The threads started so far are those below the counter. -/
  unborn : ∀ id, state.nextThread ≤ id → state.threads id = none
  holder_born : ∀ id, state.mutex = some id → id < state.nextThread

variable {contract}

theorem Interferes.basic_grows {before after : Db} (basic : contract.Basic before)
    (interferes : contract.Interferes before after) :
    contract.Basic after ∧ contract.Grows before after := by
  induction interferes with
  | refl => exact ⟨basic, contract.grows_refl _⟩
  | tail _ edge ih =>
      rcases edge with ⟨stmt, reply, bare, executed⟩
      have kept := contract.used_keeps (contract.bare_used bare) ih.1 executed
      exact ⟨kept.1, contract.grows_trans ih.2 kept.2⟩

theorem Known.view {seen : Db} {state : State Db Reply Event Call} (sound : contract.Sound state)
    (known : contract.Known seen state) :
    contract.Basic state.view ∧ contract.Grows seen state.view := by
  simp only [State.view]
  split
  case h_1 transaction is_open =>
    rcases sound.transactions transaction is_open with ⟨-, basic, grows⟩
    refine ⟨basic, ?_⟩
    rcases known with known | ⟨other, other_open, -, known⟩
    · exact contract.grows_trans known grows
    · rw [is_open, Option.some.injEq] at other_open
      exact other_open ▸ known
  case h_2 closed =>
    refine ⟨sound.committed_basic, ?_⟩
    rcases known with known | ⟨other, other_open, -, -⟩
    · exact known
    · rw [closed] at other_open
      cases other_open

/-- Nobody but the holder of the mutex is inside a transaction. -/
theorem PhaseAgrees.of_holder {state next : State Db Reply Event Call} {id other : ThreadId}
    {phase : Phase Db} (holds : state.mutex = some id) (differs : other ≠ id)
    (released : next.mutex ≠ some other) (agrees : contract.PhaseAgrees state other phase) :
    contract.PhaseAgrees next other phase := by
  have elsewhere : state.mutex ≠ some other := by
    rw [holds]
    exact fun same => differs (Option.some.inj same).symm
  cases phase with
  | idle => exact released
  | held => exact absurd agrees.1 elsewhere
  | active work => exact absurd agrees.1 elsewhere

theorem ThreadSound.frame {state next : State Db Reply Event Call} {id : ThreadId}
    {thread : Thread Reply Event Call}
    (known : ∀ seen, contract.Known seen state → contract.Known seen next)
    (phases : ∀ phase, contract.PhaseAgrees state id phase → contract.PhaseAgrees next id phase)
    (sound : contract.ThreadSound state id thread) : contract.ThreadSound next id thread := by
  rcases sound with ⟨seen, isKnown, promised, running⟩
  refine ⟨seen, known seen isKnown, promised, fun program alive => ?_⟩
  rcases running program alive with ⟨phase, agrees, safe⟩
  exact ⟨phase, phases phase agrees, safe⟩

/-- What a step of thread `id` has to show about the connection and the mutex after it. -/
structure Settled (contract : Contract service) (state middle : State Db Reply Event Call)
    (id : ThreadId) : Prop where
  threads : middle.threads = state.threads
  nextThread : middle.nextThread = state.nextThread
  committed_basic : contract.Basic middle.committed
  committed_inv : contract.Inv middle.committed
  transactions : ∀ transaction, middle.transaction = some transaction →
    contract.TransactionSound middle transaction
  known : ∀ seen, contract.Known seen state → contract.Known seen middle
  phases : ∀ other, other ≠ id → ∀ phase, contract.PhaseAgrees state other phase →
    contract.PhaseAgrees middle other phase
  holder : ∀ other, middle.mutex = some other → other = id ∨ state.mutex = some other

theorem Settled.refl {state : State Db Reply Event Call} (sound : contract.Sound state)
    (id : ThreadId) : Settled contract state state id where
  threads := rfl
  nextThread := rfl
  committed_basic := sound.committed_basic
  committed_inv := sound.committed_inv
  transactions := sound.transactions
  known := fun _ known => known
  phases := fun _ _ _ agrees => agrees
  holder := fun _ holds => Or.inr holds

theorem Sound.advance {state middle : State Db Reply Event Call} {id : ThreadId}
    {thread : Thread Reply Event Call} {next : Program Reply Event}
    (sound : contract.Sound state) (settled : Settled contract state middle id)
    (born : id < state.nextThread)
    (threadSound : contract.ThreadSound middle id { thread with program := some next }) :
    contract.Sound (middle.advance id thread next) where
  committed_basic := settled.committed_basic
  committed_inv := settled.committed_inv
  transactions := settled.transactions
  threads := by
    intro other otherThread otherBorn
    simp only [State.advance] at otherBorn
    by_cases same : other = id
    · subst same
      rw [Function.update_self, Option.some.injEq] at otherBorn
      exact otherBorn ▸ threadSound
    · rw [Function.update_of_ne same, settled.threads] at otherBorn
      exact (sound.threads other otherThread otherBorn).frame settled.known
        (settled.phases other same)
  unborn := by
    intro other later
    simp only [State.advance, settled.nextThread] at later ⊢
    rw [Function.update_of_ne (Nat.ne_of_gt (Nat.lt_of_lt_of_le born later)), settled.threads]
    exact sound.unborn other later
  holder_born := by
    intro other holds
    simp only [State.advance, settled.nextThread] at holds ⊢
    rcases settled.holder other holds with rfl | before
    · exact born
    · exact sound.holder_born other before

theorem Sound.born {state : State Db Reply Event Call} (sound : contract.Sound state)
    {id : ThreadId} {thread : Thread Reply Event Call}
    (born : state.threads id = some thread) : id < state.nextThread := by
  by_contra later
  have none := sound.unborn id (Nat.le_of_not_lt later)
  rw [born] at none
  cases none

/-- A step that leaves connection and mutex as they were. -/
theorem Sound.stays {state : State Db Reply Event Call} {id : ThreadId}
    {thread : Thread Reply Event Call} {program next : Program Reply Event}
    (sound : contract.Sound state) (born : state.threads id = some thread)
    (alive : thread.program = some program)
    (safe : ∀ phase seen, contract.Safe (contract.Promise id thread.call) program phase seen
        thread.events →
      contract.Safe (contract.Promise id thread.call) next phase seen thread.events) :
    contract.Sound (state.advance id thread next) := by
  rcases sound.threads id thread born with ⟨seen, known, promised, running⟩
  rcases running program alive with ⟨phase, agrees, before⟩
  refine sound.advance (Settled.refl sound id) (sound.born born) ⟨seen, known, promised, ?_⟩
  rintro _ ⟨⟩
  exact ⟨phase, agrees, safe phase seen before⟩

theorem Sound.locks {state : State Db Reply Event Call} {id : ThreadId}
    {thread : Thread Reply Event Call} {next : Program Reply Event}
    (sound : contract.Sound state) (born : state.threads id = some thread)
    (alive : thread.program = some (.lock next)) (free : state.mutex = none) :
    contract.Sound (State.advance { state with mutex := some id } id thread next) := by
  have closed : state.transaction = none := by
    by_contra isOpen
    rcases Option.ne_none_iff_exists'.mp isOpen with ⟨transaction, isOpen⟩
    have holds := (sound.transactions transaction isOpen).1
    rw [free] at holds
    cases holds
  rcases sound.threads id thread born with ⟨seen, known, promised, running⟩
  rcases running _ alive with ⟨phase, agrees, safe⟩
  cases phase with
  | idle =>
      refine sound.advance ?_ (sound.born born) ⟨seen, known, promised, ?_⟩
      · exact
          { Settled.refl sound id with
            transactions := fun transaction isOpen => by
              rw [closed] at isOpen
              cases isOpen
            phases := fun other differs phase agrees => by
              cases phase with
              | idle => exact fun same => differs (Option.some.inj same).symm
              | held => exact absurd agrees.1 (by rw [free]; nofun)
              | active work => exact absurd agrees.1 (by rw [free]; nofun)
            holder := fun other holds => Or.inl (Option.some.inj holds).symm }
      · rintro _ ⟨⟩
        exact ⟨.held, ⟨rfl, closed⟩, safe⟩
  | held => exact safe.elim
  | active work => exact safe.elim

theorem Sound.unlocks {state : State Db Reply Event Call} {id : ThreadId}
    {thread : Thread Reply Event Call} {next : Program Reply Event}
    (sound : contract.Sound state) (born : state.threads id = some thread)
    (alive : thread.program = some (.unlock next)) (holds : state.mutex = some id) :
    contract.Sound (State.advance { state with mutex := none } id thread next) := by
  rcases sound.threads id thread born with ⟨seen, known, promised, running⟩
  rcases running _ alive with ⟨phase, agrees, safe⟩
  cases phase with
  | held =>
      refine sound.advance ?_ (sound.born born) ⟨seen, known, promised, ?_⟩
      · exact
          { Settled.refl sound id with
            transactions := fun transaction isOpen => by
              rw [agrees.2] at isOpen
              cases isOpen
            phases := fun other differs phase agrees =>
              agrees.of_holder holds differs (by nofun)
            holder := by nofun }
      · rintro _ ⟨⟩
        exact ⟨.idle, by nofun, safe⟩
  | idle => exact safe.elim
  | active work => exact safe.elim

theorem Sound.begins {state : State Db Reply Event Call} {id : ThreadId}
    {thread : Thread Reply Event Call} {next : Bool → Program Reply Event}
    (sound : contract.Sound state) (born : state.threads id = some thread)
    (alive : thread.program = some (.begin next)) (closed : state.transaction = none) :
    contract.Sound (State.advance
      { state with transaction := some { owner := id, work := state.committed, joined := [] } }
      id thread (next true)) := by
  have committed : ∀ seen, contract.Known seen state → contract.Grows seen state.committed := by
    rintro seen (known | ⟨transaction, isOpen, -⟩)
    · exact known
    · rw [closed] at isOpen
      cases isOpen
  rcases sound.threads id thread born with ⟨seen, known, promised, running⟩
  rcases running _ alive with ⟨phase, agrees, safe⟩
  cases phase with
  | held =>
      refine sound.advance ?_ (sound.born born)
        ⟨seen, Or.inl (committed seen known), promised, ?_⟩
      · exact
          { Settled.refl sound id with
            transactions := by
              rintro _ ⟨⟩
              exact ⟨agrees.1, sound.committed_basic, contract.grows_refl _⟩
            known := fun seen known => Or.inl (committed seen known)
            phases := fun other differs phase otherAgrees =>
              otherAgrees.of_holder agrees.1 differs (by
                intro same
                rw [agrees.1] at same
                exact differs (Option.some.inj same).symm) }
      · rintro _ ⟨⟩
        refine ⟨.active state.committed, ⟨agrees.1, _, rfl, rfl, Relation.ReflTransGen.refl⟩, ?_⟩
        exact safe.1 state.committed sound.committed_basic sound.committed_inv
          (committed seen known)
  | idle => exact safe.elim
  | active work => exact safe.elim

theorem Sound.commits {state : State Db Reply Event Call} {id : ThreadId}
    {thread : Thread Reply Event Call} {next : Bool → Program Reply Event}
    {transaction : Transaction Db Reply}
    (sound : contract.Sound state) (born : state.threads id = some thread)
    (alive : thread.program = some (.commit next))
    (isOpen : state.transaction = some transaction) :
    contract.Sound (State.advance
      { state with
        committed := transaction.work
        history := state.history ++ [transaction.work]
        transaction := none }
      id thread (next true)) := by
  have becomes : ∀ seen, contract.Known seen state → contract.Grows seen transaction.work := by
    rintro seen (known | ⟨other, otherOpen, -, known⟩)
    · exact contract.grows_trans known (sound.transactions transaction isOpen).2.2
    · rw [isOpen, Option.some.injEq] at otherOpen
      exact otherOpen ▸ known
  rcases sound.threads id thread born with ⟨seen, known, promised, running⟩
  rcases running _ alive with ⟨phase, agrees, safe⟩
  cases phase with
  | active work =>
      rcases agrees with ⟨holds, own, ownOpen, ownerIs, interferes⟩
      rw [isOpen, Option.some.injEq] at ownOpen
      subst ownOpen
      have basic := (sound.transactions transaction isOpen).2.1
      rcases safe.1 transaction.work basic (becomes seen known) interferes with ⟨inv, safe⟩
      refine sound.advance ?_ (sound.born born)
        ⟨transaction.work, Or.inl (contract.grows_refl _),
          contract.promise_mono (becomes seen known) promised, ?_⟩
      · exact
          { threads := rfl
            nextThread := rfl
            committed_basic := basic
            committed_inv := inv
            transactions := by nofun
            known := fun seen known => Or.inl (becomes seen known)
            phases := fun other differs phase otherAgrees =>
              otherAgrees.of_holder holds differs (by
                intro same
                rw [holds] at same
                exact differs (Option.some.inj same).symm)
            holder := fun other otherHolds => Or.inr otherHolds }
      · rintro _ ⟨⟩
        exact ⟨.held, ⟨holds, rfl⟩, safe⟩
  | idle => exact safe.elim
  | held => exact safe.elim

theorem Sound.rollsBack {state : State Db Reply Event Call} {id : ThreadId}
    {thread : Thread Reply Event Call} {next : Program Reply Event}
    (sound : contract.Sound state) (born : state.threads id = some thread)
    (alive : thread.program = some (.rollback next))
    (kept : ∀ transaction, state.transaction = some transaction →
      ¬Relied (contract.Observed state.committed) transaction) :
    contract.Sound (State.advance { state with transaction := none } id thread next) := by
  have committed : ∀ seen, contract.Known seen state → contract.Grows seen state.committed := by
    rintro seen (known | ⟨transaction, isOpen, relied, -⟩)
    · exact known
    · exact absurd relied (kept transaction isOpen)
  rcases sound.threads id thread born with ⟨seen, known, promised, running⟩
  rcases running _ alive with ⟨phase, agrees, safe⟩
  cases phase with
  | active work =>
      refine sound.advance ?_ (sound.born born)
        ⟨seen, Or.inl (committed seen known), promised, ?_⟩
      · exact
          { Settled.refl sound id with
            transactions := by nofun
            known := fun seen known => Or.inl (committed seen known)
            phases := fun other differs phase otherAgrees =>
              otherAgrees.of_holder agrees.1 differs (by
                intro same
                rw [agrees.1] at same
                exact differs (Option.some.inj same).symm) }
      · rintro _ ⟨⟩
        exact ⟨.held, ⟨agrees.1, rfl⟩, safe⟩
  | idle => exact safe.elim
  | held => exact safe.elim

/-- A statement of the thread that owns the open transaction. -/
theorem Sound.executesOwn {state : State Db Reply Event Call} {id : ThreadId}
    {transaction : Transaction Db Reply} {stmt : Stmt} {reply : Reply stmt} {after : Db}
    (sound : contract.Sound state) (isOpen : state.transaction = some transaction)
    (own : transaction.owner = id) (used : contract.Used stmt)
    (executed : service.execute stmt transaction.work = some (reply, after)) :
    Settled contract state (state.store id ⟨stmt, reply⟩ after) id := by
  rcases sound.transactions transaction isOpen with ⟨holds, basic, grows⟩
  have kept := contract.used_keeps used basic executed
  have stored : state.store id ⟨stmt, reply⟩ after =
      { state with transaction := some { transaction with work := after } } := by
    simp [State.store, isOpen, own]
  rw [stored]
  exact
    { Settled.refl sound id with
      transactions := by
        rintro _ ⟨⟩
        exact ⟨holds, kept.1, contract.grows_trans grows kept.2⟩
      known := by
        rintro seen (known | ⟨other, otherOpen, relied, known⟩)
        · exact Or.inl known
        · rw [isOpen, Option.some.injEq] at otherOpen
          subst otherOpen
          exact Or.inr ⟨_, rfl, relied, contract.grows_trans known kept.2⟩
      phases := fun other differs phase agrees =>
        agrees.of_holder (own ▸ holds) differs (by
          intro same
          rw [show state.mutex = some id from own ▸ holds] at same
          exact differs (Option.some.inj same).symm) }

/-- A bare statement that becomes part of another thread's transaction. -/
theorem Sound.executesJoined {state : State Db Reply Event Call} {id : ThreadId}
    {transaction : Transaction Db Reply} {stmt : Stmt} {reply : Reply stmt} {after : Db}
    (sound : contract.Sound state) (isOpen : state.transaction = some transaction)
    (foreign : transaction.owner ≠ id) (bare : contract.Bare stmt)
    (executed : service.execute stmt transaction.work = some (reply, after)) :
    Settled contract state (state.store id ⟨stmt, reply⟩ after) id ∧
      (contract.Observed state.committed ⟨stmt, reply⟩ →
        contract.Known after (state.store id ⟨stmt, reply⟩ after)) := by
  rcases sound.transactions transaction isOpen with ⟨holds, basic, grows⟩
  have kept := contract.used_keeps (contract.bare_used bare) basic executed
  have stored : state.store id ⟨stmt, reply⟩ after =
      { state with
        transaction :=
          some
            { transaction with
              work := after
              joined := transaction.joined ++ [⟨stmt, reply⟩] } } := by
    simp [State.store, isOpen, foreign]
  rw [stored]
  refine ⟨?_, fun observed => Or.inr ⟨_, rfl, ⟨_, by simp, observed⟩, contract.grows_refl _⟩⟩
  exact
    { Settled.refl sound id with
      transactions := by
        rintro _ ⟨⟩
        exact ⟨holds, kept.1, contract.grows_trans grows kept.2⟩
      known := by
        rintro seen (known | ⟨other, otherOpen, ⟨earlier, mem, observed⟩, known⟩)
        · exact Or.inl known
        · rw [isOpen, Option.some.injEq] at otherOpen
          subst otherOpen
          exact Or.inr ⟨_, rfl, ⟨earlier, List.mem_append_left _ mem, observed⟩,
            contract.grows_trans known kept.2⟩
      phases := by
        intro other differs phase agrees
        cases phase with
        | idle => exact agrees
        | held =>
            have closed := agrees.2
            rw [isOpen] at closed
            cases closed
        | active work =>
            rcases agrees with ⟨otherHolds, own, ownOpen, ownerIs, interferes⟩
            rw [isOpen, Option.some.injEq] at ownOpen
            subst ownOpen
            exact ⟨otherHolds, _, rfl, ownerIs, interferes.tail ⟨stmt, reply, bare, executed⟩⟩ }

/-- A bare statement that is a transaction of its own. -/
theorem Sound.executesBare {state : State Db Reply Event Call} {id : ThreadId}
    {stmt : Stmt} {reply : Reply stmt} {after : Db}
    (sound : contract.Sound state) (closed : state.transaction = none)
    (bare : contract.Bare stmt)
    (executed : service.execute stmt state.committed = some (reply, after)) :
    Settled contract state (state.store id ⟨stmt, reply⟩ after) id ∧
      contract.Known after (state.store id ⟨stmt, reply⟩ after) := by
  have kept := contract.used_keeps (contract.bare_used bare) sound.committed_basic executed
  have stored : state.store id ⟨stmt, reply⟩ after =
      { state with committed := after, history := state.history ++ [after] } := by
    simp [State.store, closed]
  rw [stored]
  refine ⟨?_, Or.inl (contract.grows_refl _)⟩
  exact
    { Settled.refl sound id with
      committed_basic := kept.1
      committed_inv := contract.bare_inv bare sound.committed_basic sound.committed_inv executed
      transactions := by
        intro transaction isOpen
        rw [closed] at isOpen
        cases isOpen
      known := by
        rintro seen (known | ⟨transaction, isOpen, -⟩)
        · exact Or.inl (contract.grows_trans known kept.2)
        · rw [closed] at isOpen
          cases isOpen
      phases := by
        intro other differs phase agrees
        cases phase with
        | idle => exact agrees
        | held => exact agrees
        | active work =>
            rcases agrees with ⟨-, own, ownOpen, -⟩
            rw [closed] at ownOpen
            cases ownOpen }

/-- A thread can rely on the contents after a bare statement if the open transaction counts as
relied on from then on, and else on the committed ones. -/
theorem Sound.relies {state : State Db Reply Event Call} {id : ThreadId} {seen : Db}
    {stmt : Stmt} {reply : Reply stmt} {after : Db} (sound : contract.Sound state)
    (outside : state.mutex ≠ some id) (bare : contract.Bare stmt)
    (known : contract.Known seen state)
    (executed : service.execute stmt state.view = some (reply, after)) :
    Settled contract state (state.store id ⟨stmt, reply⟩ after) id ∧
      ∃ later, contract.Known later (state.store id ⟨stmt, reply⟩ after) ∧
        contract.Answered seen state.committed state.view after later ⟨stmt, reply⟩ := by
  rcases known.view sound with ⟨basic, grows⟩
  have kept := contract.used_keeps (contract.bare_used bare) basic executed
  have grown := contract.grows_trans grows kept.2
  cases isOpen : state.transaction with
  | none =>
      have viewIs : state.view = state.committed := by simp [State.view, isOpen]
      rw [viewIs] at executed basic grows kept ⊢
      rcases sound.executesBare isOpen bare executed with ⟨settled, knows⟩
      exact ⟨settled, after, knows, basic, contract.grows_refl _, grows, executed, kept.1, grown,
        kept.2, fun _ => rfl⟩
  | some transaction =>
      have viewIs : state.view = transaction.work := by simp [State.view, isOpen]
      rw [viewIs] at executed basic grows kept ⊢
      have base := (sound.transactions transaction isOpen).2.2
      have foreign : transaction.owner ≠ id := fun own =>
        outside (own ▸ (sound.transactions transaction isOpen).1)
      rcases sound.executesJoined isOpen foreign bare executed with ⟨settled, knows⟩
      refine ⟨settled, ?_⟩
      by_cases observed : contract.Observed state.committed ⟨stmt, reply⟩
      · exact ⟨after, knows observed, basic, base, grows, executed, kept.1, grown,
          contract.grows_trans base kept.2, fun _ => rfl⟩
      rcases known with known | ⟨other, otherOpen, relied, -⟩
      · exact ⟨state.committed, settled.known _ (Or.inl (contract.grows_refl _)), basic, base,
          grows, executed, sound.committed_basic, known, contract.grows_refl _,
          fun isObserved => absurd isObserved observed⟩
      · rw [isOpen, Option.some.injEq] at otherOpen
        subst otherOpen
        exact ⟨transaction.work,
          settled.known _ (Or.inr ⟨transaction, isOpen, relied, contract.grows_refl _⟩), basic,
          base, grows, executed, basic, grows, base,
          fun isObserved => absurd isObserved observed⟩

theorem Sound.executes {state : State Db Reply Event Call} {id : ThreadId}
    {thread : Thread Reply Event Call} {stmt : Stmt}
    {next : Option (Reply stmt) → Program Reply Event} {reply : Reply stmt} {after : Db}
    (sound : contract.Sound state) (born : state.threads id = some thread)
    (alive : thread.program = some (.exec stmt next))
    (executed : service.execute stmt state.view = some (reply, after)) :
    contract.Sound
      ((state.store id ⟨stmt, reply⟩ after).advance id thread (next (some reply))) := by
  rcases sound.threads id thread born with ⟨seen, known, promised, running⟩
  rcases running _ alive with ⟨phase, agrees, safe⟩
  rcases known.view sound with ⟨viewBasic, viewGrows⟩
  cases phase with
  | held => exact safe.elim
  | active work =>
      rcases agrees with ⟨holds, transaction, isOpen, own, interferes⟩
      have viewIs : state.view = transaction.work := by simp [State.view, isOpen]
      rw [viewIs] at executed viewBasic
      have settled := sound.executesOwn isOpen own safe.1 executed
      refine sound.advance settled (sound.born born)
        ⟨seen, settled.known seen known, promised, ?_⟩
      rintro _ ⟨⟩
      refine ⟨.active after, ⟨?_, ?_⟩,
        safe.2.1 transaction.work reply after viewBasic interferes executed⟩
      · simp [State.store, isOpen, holds]
      · exact ⟨{ transaction with work := after }, by simp [State.store, isOpen, own], own,
          Relation.ReflTransGen.refl⟩
  | idle =>
      rcases sound.relies agrees safe.1 known executed with ⟨settled, later, knows, answered⟩
      refine sound.advance settled (sound.born born)
        ⟨later, knows, contract.promise_mono answered.seen_known promised, ?_⟩
      rintro _ ⟨⟩
      refine ⟨.idle, ?_, safe.2.1 _ _ reply after later answered⟩
      simp only [PhaseAgrees, State.store]
      split <;> exact agrees

theorem Sound.emits {state : State Db Reply Event Call} {id : ThreadId}
    {thread : Thread Reply Event Call} {event : Event} {next : Program Reply Event}
    (sound : contract.Sound state) (born : state.threads id = some thread)
    (alive : thread.program = some (.emit event next)) :
    contract.Sound
      (state.advance id { thread with events := thread.events ++ [event] } next) := by
  rcases sound.threads id thread born with ⟨seen, known, promised, running⟩
  rcases running _ alive with ⟨phase, agrees, safe⟩
  rw [Safe] at safe
  refine sound.advance (Settled.refl sound id) (sound.born born) ⟨seen, known, safe.1, ?_⟩
  rintro _ ⟨⟩
  exact ⟨phase, agrees, safe.2⟩

/-- The thread of a call keeps the contract from the start. -/
def Serves (contract : Contract service) (id : ThreadId) (call : Call) : Prop :=
  ∀ db, contract.Basic db → contract.Inv db →
    contract.Promise id call [] db ∧
      contract.Safe (contract.Promise id call) (service.body id call) .idle db []

theorem Sound.starts {state : State Db Reply Event Call} {call : Call}
    (sound : contract.Sound state) (serves : contract.Serves state.nextThread call) :
    contract.Sound (service.spawn state call) where
  committed_basic := sound.committed_basic
  committed_inv := sound.committed_inv
  transactions := sound.transactions
  threads := by
    intro id thread born
    simp only [Service.spawn] at born
    by_cases same : id = state.nextThread
    · subst same
      rw [Function.update_self, Option.some.injEq] at born
      subst born
      rcases serves state.committed sound.committed_basic sound.committed_inv with
        ⟨promised, safe⟩
      refine ⟨state.committed, Or.inl (contract.grows_refl _), promised, ?_⟩
      rintro _ ⟨⟩
      refine ⟨.idle, fun holds => ?_, safe⟩
      exact Nat.lt_irrefl _ (sound.holder_born _ holds)
    · rw [Function.update_of_ne same] at born
      exact (sound.threads id thread born).frame (fun _ known => known) fun phase agrees => agrees
  unborn := by
    intro id later
    simp only [Service.spawn] at later ⊢
    rw [Function.update_of_ne (Nat.ne_of_gt later)]
    exact sound.unborn id (Nat.le_of_lt later)
  holder_born := fun id holds => Nat.lt_succ_of_lt (sound.holder_born id holds)

theorem Sound.crashes {state : State Db Reply Event Call} (sound : contract.Sound state)
    (kept : Undoes contract.Observed state .crash → contract.Forgets) :
    contract.Sound state.crashed where
  committed_basic := sound.committed_basic
  committed_inv := sound.committed_inv
  transactions := by nofun
  threads := by
    intro id thread born
    simp only [State.crashed, Option.map_eq_some_iff] at born
    rcases born with ⟨before, born, rfl⟩
    rcases sound.threads id before born with ⟨seen, known, promised, running⟩
    have knows : ∃ seen, contract.Known seen state.crashed ∧
        contract.Promise id before.call before.events seen := by
      by_cases forgets : contract.Forgets
      · exact ⟨state.committed, Or.inl (contract.grows_refl _), forgets _ _ _ _ _ promised⟩
      · rcases known with known | ⟨transaction, isOpen, relied, -⟩
        · exact ⟨seen, Or.inl known, promised⟩
        · exact absurd (kept ⟨rfl, transaction, isOpen, relied⟩) forgets
    rcases knows with ⟨later, knows, promised⟩
    refine ⟨later, knows, ?_, fun program alive => ?_⟩
    · split <;> exact promised
    · split at alive
      case h_1 finished =>
        rw [finished, Option.some.injEq] at alive
        subst alive
        exact ⟨.idle, nofun, trivial⟩
      case h_2 => cases alive
  unborn := by
    intro id later
    simp only [State.crashed, sound.unborn id later, Option.map_none]
  holder_born := by nofun

/-- One step keeps soundness, if it does not undo what another thread relies on. -/
theorem Sound.step {state next : State Db Reply Event Call} {label : Label Call}
    (sound : contract.Sound state)
    (serves : ∀ call, label = .start call → contract.Serves state.nextThread call)
    (kept : Undoes contract.Observed state label → label = .crash ∧ contract.Forgets)
    (step : service.system.step state label = some next) : contract.Sound next := by
  cases Service.Transition.of_step step with
  | starts call => exact sound.starts (serves call rfl)
  | crashes => exact sound.crashes fun undoes => (kept undoes).2
  | runs id ok thread program next born alive advances =>
      cases advances with
      | locks rest free => exact sound.locks born alive free
      | unlocks rest holds => exact sound.unlocks born alive holds
      | begins rest closed => exact sound.begins born alive closed
      | commits rest transaction isOpen => exact sound.commits born alive isOpen
      | executes stmt rest reply after executed => exact sound.executes born alive executed
      | emits event rest => exact sound.emits born alive
      | rollsBack rest =>
          refine sound.rollsBack born alive fun transaction isOpen relied => ?_
          have abandons : state.abandons (.run id ok) = true := by
            simp [State.abandons, born, alive]
          cases (kept ⟨abandons, transaction, isOpen, relied⟩).1
      | beginFails rest =>
          refine sound.stays born alive fun phase seen safe => ?_
          cases phase with
          | held => exact safe.2
          | idle => exact safe.elim
          | active work => exact safe.elim
      | commitFails rest =>
          refine sound.stays born alive fun phase seen safe => ?_
          cases phase with
          | active work => exact safe.2
          | idle => exact safe.elim
          | held => exact safe.elim
      | execFails stmt rest =>
          refine sound.stays born alive fun phase seen safe => ?_
          cases phase with
          | idle => exact safe.2.2
          | active work => exact safe.2.2
          | held => exact safe.elim

/-- In a run whose steps start only served calls and undo nothing relied on, every state is
sound. -/
theorem Sound.of_reaches {allowed : State Db Reply Event Call → Label Call → Prop}
    {start state : State Db Reply Event Call}
    (reaches : service.system.Reaches allowed start state) (initially : contract.Sound start)
    (serves : ∀ state call, allowed state (.start call) →
      contract.Serves state.nextThread call)
    (kept : ∀ state label, allowed state label → Undoes contract.Observed state label →
      label = .crash ∧ contract.Forgets) :
    contract.Sound state := by
  refine reaches.invariant initially fun before label next _ sound labelAllowed step => ?_
  exact sound.step (fun call isStart => serves before call (isStart ▸ labelAllowed))
    (kept before label labelAllowed) step

theorem Sound.initial {db : Db} (basic : contract.Basic db) (inv : contract.Inv db) :
    contract.Sound (State.initial db : State Db Reply Event Call) where
  committed_basic := basic
  committed_inv := inv
  transactions := by nofun
  threads := by nofun
  unborn := fun _ _ => rfl
  holder_born := by nofun

theorem Interferes.inv {before after : Db} (basic : contract.Basic before)
    (inv : contract.Inv before) (interferes : contract.Interferes before after) :
    contract.Inv after := by
  induction interferes with
  | refl => exact inv
  | tail earlier edge ih =>
      rcases edge with ⟨stmt, reply, bare, executed⟩
      exact contract.bare_inv bare (Interferes.basic_grows basic earlier).1 ih executed

/-- The contents of a phase satisfy what is required of committed contents. -/
def PhaseKeeps (contract : Contract service) : Phase Db → Prop
  | .idle => True
  | .held => True
  | .active work => contract.Basic work ∧ contract.Inv work

def forget : Phase Db → Phase Unit
  | .idle => .idle
  | .held => .held
  | .active _ => .active ()

/-- A program is safe when each of its statements keeps `Inv` and none of its events promises
anything. -/
theorem Uses.safe {inside outside : Stmt → Prop} {emitted : Event → Prop} {id : ThreadId}
    {call : Call}
    (transactional : ∀ stmt, inside stmt → contract.Used stmt ∧
      ∀ before reply after, contract.Basic before → contract.Inv before →
        service.execute stmt before = some (reply, after) → contract.Inv after)
    (bare : ∀ stmt, outside stmt → contract.Bare stmt)
    (quiet : ∀ event events db, emitted event → contract.Promise id call events db →
      contract.Promise id call (events ++ [event]) db)
    {program : Program Reply Event} (phase : Phase Db) {seen : Db} {events : List Event}
    (uses : Uses inside outside emitted program (forget phase))
    (keeps : PhaseKeeps contract phase) (promised : contract.Promise id call events seen) :
    contract.Safe (contract.Promise id call) program phase seen events := by
  induction program generalizing phase seen events with
  | done =>
      cases phase with
      | idle => trivial
      | held => exact uses.elim
      | active work => exact uses.elim
  | lock next ih =>
      cases phase with
      | idle => exact ih .held uses trivial promised
      | held => exact uses.elim
      | active work => exact uses.elim
  | unlock next ih =>
      cases phase with
      | held => exact ih .idle uses trivial promised
      | idle => exact uses.elim
      | active work => exact uses.elim
  | begin next ih =>
      cases phase with
      | held =>
          refine ⟨fun db basic inv _ => ?_, ih false .held uses.2 trivial promised⟩
          exact ih true (.active db) uses.1 ⟨basic, inv⟩ promised
      | idle => exact uses.elim
      | active work => exact uses.elim
  | commit next ih =>
      cases phase with
      | active work =>
          refine ⟨fun later _ grown interferes => ⟨interferes.inv keeps.1 keeps.2, ?_⟩,
            ih false (.active work) uses.2 keeps promised⟩
          exact ih true .held uses.1 trivial (contract.promise_mono grown promised)
      | idle => exact uses.elim
      | held => exact uses.elim
  | rollback next ih =>
      cases phase with
      | active work => exact ih .held uses trivial promised
      | idle => exact uses.elim
      | held => exact uses.elim
  | exec stmt next ih =>
      cases phase with
      | held => exact uses.elim
      | idle =>
          refine ⟨bare stmt uses.1, fun base before reply after known answered => ?_,
            ih none .idle (uses.2 none) trivial promised⟩
          exact ih (some reply) .idle (uses.2 (some reply)) trivial
            (contract.promise_mono answered.seen_known promised)
      | active work =>
          refine ⟨(transactional stmt uses.1).1,
            fun later reply after basic interferes executed => ?_,
            ih none (.active work) (uses.2 none) keeps promised⟩
          have kept := contract.used_keeps (transactional stmt uses.1).1 basic executed
          refine ih (some reply) (.active after) (uses.2 (some reply)) ⟨kept.1, ?_⟩
            promised
          exact (transactional stmt uses.1).2 later reply after basic
            (interferes.inv keeps.1 keeps.2) executed
  | emit event next ih =>
      refine ⟨quiet event events seen uses.1 promised, ?_⟩
      exact ih phase uses.2 keeps (quiet event events seen uses.1 promised)

/-- A call whose statements all keep `Inv` and whose events promise nothing. -/
theorem Uses.serves {inside outside : Stmt → Prop} {emitted : Event → Prop} {id : ThreadId}
    {call : Call} (uses : Uses inside outside emitted (service.body id call) .idle)
    (transactional : ∀ stmt, inside stmt → contract.Used stmt ∧
      ∀ before reply after, contract.Basic before → contract.Inv before →
        service.execute stmt before = some (reply, after) → contract.Inv after)
    (bare : ∀ stmt, outside stmt → contract.Bare stmt)
    (quiet : ∀ event events db, emitted event → contract.Promise id call events db →
      contract.Promise id call (events ++ [event]) db)
    (nothing : ∀ db, contract.Promise id call [] db) : contract.Serves id call :=
  fun db _ _ => ⟨nothing db, Uses.safe transactional bare quiet .idle uses trivial (nothing db)⟩

/-- A promise holds of the committed contents unless an open transaction is relied on. -/
theorem Sound.promised {state : State Db Reply Event Call} (sound : contract.Sound state)
    {id : ThreadId} {thread : Thread Reply Event Call} (born : state.threads id = some thread)
    (settled : ∀ transaction, state.transaction = some transaction →
      ¬Relied (contract.Observed state.committed) transaction) :
    contract.Promise id thread.call thread.events state.committed := by
  rcases sound.threads id thread born with ⟨seen, known, promised, -⟩
  rcases known with known | ⟨transaction, isOpen, relied, -⟩
  · exact contract.promise_mono known promised
  · exact absurd relied (settled transaction isOpen)

end Contract

end SharedConnection

end OnlineJudge.Library
