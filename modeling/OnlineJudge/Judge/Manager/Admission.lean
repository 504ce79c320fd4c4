import Mathlib.Algebra.Order.BigOperators.Group.Finset
import OnlineJudge.Judge.Manager.Lifecycle

/-!
# The admission bound

A slot is taken by `reserve` and given back by `release` or `commit`. `Slots` says that the
counter is the number of callers that hold a slot, so that it never underflows, and that
queued items and reserved slots together fit the capacity. With the places of the items this
bounds the tasks that wait for their result, and with them the threads of the server that
wait for a task.
-/

namespace OnlineJudge.Judge

namespace JudgeManager

open Library Library.TransitionSystem

variable {config : Config} {callerCount : ℕ} {Outcome : Type} {errors : Errors Outcome}

/-- The caller is between a successful `reserve` and the end of its `commit` or `release`. -/
def Caller.HoldsReservation : Caller → Prop
  | .reserved _ | .committing _ _ => True
  | _ => False

instance : DecidablePred Caller.HoldsReservation := fun caller => by
  cases caller <;> simp only [Caller.HoldsReservation] <;> infer_instance

/-- The slots in use. -/
structure Slots (state : State config callerCount Outcome) : Prop where
  counted : state.reserved = countWhere Caller.HoldsReservation state.callers
  bounded : state.queue.length + state.reserved ≤ config.queueCapacity

namespace Slots

variable {state next : State config callerCount Outcome}
  {label : Label config callerCount Outcome}

/-- A holder of a reservation finds its slot in the counter. -/
theorem reserved_pos (inv : Slots state) {caller : Fin callerCount}
    (holds : (state.callers caller).HoldsReservation) : 0 < state.reserved := by
  rw [inv.counted, Nat.pos_iff_ne_zero]
  intro none
  exact countWhere_eq_zero_iff.mp none caller holds

/-- What a caller's step does to the number of holders. -/
theorem counted_update {caller : Fin callerCount} {pc : Caller}
    (callers : next.callers = Function.update state.callers caller pc) :
    countWhere Caller.HoldsReservation next.callers +
        (if (state.callers caller).HoldsReservation then 1 else 0) =
      countWhere Caller.HoldsReservation state.callers +
        (if pc.HoldsReservation then 1 else 0) := by
  rw [callers]
  exact countWhere_update _ _ _ _

/-- The caller neither takes nor gives back a slot, and the queue does not grow. -/
theorem stay (inv : Slots state) {caller : Fin callerCount} {pc : Caller}
    (callers : next.callers = Function.update state.callers caller pc)
    (before : ¬(state.callers caller).HoldsReservation) (after : ¬pc.HoldsReservation)
    (reserved : next.reserved = state.reserved)
    (queue : next.queue.length + next.reserved ≤ config.queueCapacity) : Slots next where
  counted := by
    have counted := counted_update callers
    rw [if_neg before, if_neg after] at counted
    rw [reserved, inv.counted]
    omega
  bounded := queue

/-- The caller takes a slot. -/
theorem take (inv : Slots state) {caller : Fin callerCount} {pc : Caller}
    (callers : next.callers = Function.update state.callers caller pc)
    (before : ¬(state.callers caller).HoldsReservation) (after : pc.HoldsReservation)
    (reserved : next.reserved = state.reserved + 1)
    (queue : next.queue.length + next.reserved ≤ config.queueCapacity) : Slots next where
  counted := by
    have counted := counted_update callers
    rw [if_neg before, if_pos after] at counted
    rw [reserved, inv.counted]
    omega
  bounded := queue

/-- The caller keeps its slot. -/
theorem keep (inv : Slots state) {caller : Fin callerCount} {pc : Caller}
    (callers : next.callers = Function.update state.callers caller pc)
    (before : (state.callers caller).HoldsReservation) (after : pc.HoldsReservation)
    (reserved : next.reserved = state.reserved) (queue : next.queue = state.queue) :
    Slots next where
  counted := by
    have counted := counted_update callers
    rw [if_pos before, if_pos after] at counted
    rw [reserved, inv.counted]
    omega
  bounded := by
    rw [queue, reserved]
    exact inv.bounded

/-- The caller gives its slot back. -/
theorem leave (inv : Slots state) {caller : Fin callerCount} {pc : Caller}
    (callers : next.callers = Function.update state.callers caller pc)
    (before : (state.callers caller).HoldsReservation) (after : ¬pc.HoldsReservation)
    (reserved : next.reserved = state.reserved - 1)
    (queue : next.queue.length ≤ state.queue.length + 1) : Slots next where
  counted := by
    have counted := counted_update callers
    rw [if_pos before, if_neg after] at counted
    rw [reserved, inv.counted]
    omega
  bounded := by
    have positive := inv.reserved_pos before
    have bounded := inv.bounded
    omega

end Slots

theorem afterPublishing_holds (purpose : Purpose) (item : ItemId) :
    ¬(State.afterPublishing purpose item).HoldsReservation := by
  cases purpose <;> exact id

theorem Slots.step {state next : State config callerCount Outcome}
    {label : Label config callerCount Outcome} (inv : Slots state)
    (transition : Transition errors state label next) : Slots next := by
  have bounded := inv.bounded
  cases transition with
  | submitBegins caller task pc | submitRefused caller item status pc
  | receives caller item pc | shutdownBegins caller pc | shutdownCancels caller pc
  | shutdownStops caller pc | shutdownJoins caller pc | shutdownLoads caller pc
  | shutdownReturns caller accepted pc =>
      exact inv.stay rfl (by rw [pc]; exact id) id rfl bounded
  | submitAccepted caller item pc running room =>
      refine inv.stay rfl (by rw [pc]; exact id) id rfl ?_
      unfold State.HasRoom at room
      simp only [State.setCaller, State.enqueue, State.modifyItem, List.length_append,
        List.length_singleton]
      omega
  | publishes caller purpose item pc =>
      exact inv.stay rfl (by rw [pc]; exact id) (afterPublishing_holds _ _) rfl bounded
  | reserves caller purpose pc room =>
      refine inv.take rfl (by rw [pc]; exact id) trivial rfl ?_
      unfold State.HasRoom at room
      simp only [State.setCaller]
      omega
  | releases caller outcome task purpose pc =>
      rw [releaseSlot_eq]
      exact inv.leave rfl (by rw [pc]; trivial) id rfl (Nat.le_succ _)
  | commitBegins caller outcome task purpose pc =>
      exact inv.keep rfl (by rw [pc]; trivial) trivial rfl rfl
  | commitReclaimed caller purpose item pc =>
      rw [releaseSlot_eq]
      exact inv.leave rfl (by rw [pc]; trivial) (afterPublishing_holds _ _) rfl (Nat.le_succ _)
  | commitCancelled caller purpose item pc | commitQueued caller purpose item pc =>
      rw [releaseSlot_eq]
      refine inv.leave rfl (by rw [pc]; trivial) id rfl ?_
      simp
  | pops worker result item rest pc nonempty =>
      refine ⟨inv.counted, ?_⟩
      rw [nonempty, List.length_cons] at bounded
      simp only [State.setWorker, State.modifyItem]
      omega
  | _ => exact ⟨inv.counted, bounded⟩

theorem Slots.initial : Slots (State.initial config callerCount Outcome) where
  counted := by
    rw [eq_comm, State.initial, countWhere_eq_zero_iff]
    exact fun _ => id
  bounded := Nat.zero_le _

theorem Slots.of_reaches
    {allowed : State config callerCount Outcome → Label config callerCount Outcome → Prop}
    {state : State config callerCount Outcome}
    (reaches : (system config callerCount errors).Reaches allowed
      (State.initial config callerCount Outcome) state) : Slots state :=
  invariant_of_transition reaches .initial fun _ _ _ _ inv _ => inv.step

/-! ## Tasks and threads that wait -/

variable {state : State config callerCount Outcome}

/-- The items that workers hold. -/
def State.heldItems (state : State config callerCount Outcome) : Finset ItemId :=
  Finset.univ.biUnion fun worker => (state.workers worker).item?.toFinset

theorem card_heldItems_le (state : State config callerCount Outcome) :
    state.heldItems.card ≤ config.workerCount := by
  have each : ∀ worker ∈ (Finset.univ : Finset (Fin config.workerCount)),
      (state.workers worker).item?.toFinset.card ≤ 1 := by
    intro worker _
    cases (state.workers worker).item? <;> simp
  have bound := Finset.card_biUnion_le_card_mul Finset.univ _ 1 each
  simpa [State.heldItems] using bound

/-- An accepted item whose promise is not set is queued or held by a worker. -/
theorem Lifecycle.waiting_mem (inv : Lifecycle errors state) {item : ItemId}
    (accepted : (state.items item).stage.Accepted) (unset : (state.items item).promise = []) :
    item ∈ state.queue.toFinset ∪ state.heldItems := by
  have consistent := inv.item_consistent item
  rw [Finset.mem_union, List.mem_toFinset]
  cases stage : (state.items item).stage with
  | unborn | built | refused =>
      rw [stage] at accepted
      exact accepted.elim
  | queued => exact .inl ((inv.mem_queue item).mpr stage)
  | held worker =>
      right
      rw [State.heldItems, Finset.mem_biUnion]
      refine ⟨worker, Finset.mem_univ _, ?_⟩
      rw [(inv.held worker item).mpr stage]
      exact Finset.mem_singleton_self _
  | delivered =>
      rw [Item.Consistent, stage] at consistent
      rcases consistent with ⟨_, _, _, promise⟩
      simp [unset] at promise
  | reclaimed =>
      rw [Item.Consistent, stage] at consistent
      simp [unset] at consistent

/-- Different accepted tasks without a result number at most a full queue and a task for each
worker. -/
theorem card_waiting_le (inv : Lifecycle errors state) (slots : Slots state)
    {tasks : Finset ItemId} (waiting : ∀ item ∈ tasks,
      (state.items item).stage.Accepted ∧ (state.items item).promise = []) :
    tasks.card ≤ config.queueCapacity + config.workerCount := by
  have places : tasks ⊆ state.queue.toFinset ∪ state.heldItems := by
    intro item mem
    exact inv.waiting_mem (waiting item mem).1 (waiting item mem).2
  calc
    tasks.card ≤ (state.queue.toFinset ∪ state.heldItems).card := Finset.card_le_card places
    _ ≤ state.queue.toFinset.card + state.heldItems.card := Finset.card_union_le _ _
    _ ≤ state.queue.length + config.workerCount :=
        Nat.add_le_add (List.toFinset_card_le _) (card_heldItems_le state)
    _ ≤ config.queueCapacity + config.workerCount := by
        have bounded := slots.bounded
        omega

/-- The caller is at `future.get` and its result is not there yet. -/
def State.blocked (state : State config callerCount Outcome) (caller : Fin callerCount) : Bool :=
  match state.callers caller with
  | .awaiting item => (state.items item).promise.isEmpty
  | _ => false

def State.blockedCallers (state : State config callerCount Outcome) : Finset (Fin callerCount) :=
  Finset.univ.filter fun caller => state.blocked caller

theorem mem_blockedCallers {caller : Fin callerCount} :
    caller ∈ state.blockedCallers ↔
      ∃ item, state.callers caller = .awaiting item ∧ (state.items item).promise = [] := by
  rw [State.blockedCallers, Finset.mem_filter, State.blocked]
  cases pc : state.callers caller <;> simp

theorem card_blockedCallers_le (inv : Lifecycle errors state) (slots : Slots state) :
    state.blockedCallers.card ≤ config.queueCapacity + config.workerCount := by
  have placed : ∀ caller ∈ state.blockedCallers, ∃ item,
      (state.callers caller).placed? = some item ∧ (state.items item).promise = [] := by
    intro caller mem
    rcases mem_blockedCallers.mp mem with ⟨item, pc, unset⟩
    exact ⟨item, by rw [pc]; rfl, unset⟩
  choose! awaited isPlaced unset using placed
  have distinct : Set.InjOn awaited state.blockedCallers := by
    intro first firstMem second secondMem same
    have firstPlaced := isPlaced first firstMem
    rw [same] at firstPlaced
    exact inv.placed_unique first second _ firstPlaced (isPlaced second secondMem)
  rw [← Finset.card_image_of_injOn distinct]
  refine card_waiting_le inv slots fun item mem => ?_
  rcases Finset.mem_image.mp mem with ⟨caller, blocked, rfl⟩
  exact ⟨inv.placed caller _ (isPlaced caller blocked), unset caller blocked⟩

/-- The queue and the reserved slots fit the capacity; the counter of the slots is the number of
callers between `reserve` and the end of `commit` or `release`; the accepted tasks without a
result are bounded; and enough threads of the server stay free. -/
theorem admission_bound (reachable : Reachable errors state) :
    state.queue.length + state.reserved ≤ config.queueCapacity ∧
    state.reserved = countWhere Caller.HoldsReservation state.callers ∧
    (∀ caller, (state.callers caller).HoldsReservation → 0 < state.reserved) ∧
    (∀ tasks : Finset ItemId, (∀ item ∈ tasks,
      (state.items item).stage.Accepted ∧ (state.items item).promise = []) →
      tasks.card ≤ config.queueCapacity + config.workerCount) ∧
    state.blockedCallers.card ≤ config.workerCount + config.queueCapacity ∧
    httpReserveThreads ≤ config.httpThreadCount - state.blockedCallers.card := by
  have inv := Lifecycle.of_reaches reachable
  have slots := Slots.of_reaches reachable
  have blocked := card_blockedCallers_le inv slots
  refine ⟨slots.bounded, slots.counted, fun _ => slots.reserved_pos,
    fun _ => card_waiting_le inv slots, ?_, ?_⟩
  · omega
  · rw [Config.httpThreadCount]
    omega

/-- One caller waits for a task that the worker has taken, another holds the only slot. -/
def busySchedule : List (Label Config.smallest 2 String) :=
  [.submit ⟨0, Nat.two_pos⟩ State.emptyTask, .caller ⟨0, Nat.two_pos⟩,
    .caller ⟨0, Nat.two_pos⟩, .worker ⟨0, Nat.one_pos⟩ (.threw none),
    .reserve ⟨1, Nat.one_lt_two⟩ .handleSubmit]

theorem admission_bound_busy :
    ∃ state : State Config.smallest 2 String, Reachable ⟨id⟩ state ∧ state.reserved = 1 ∧
      0 ∈ state.blockedCallers ∧ state.queue.length + state.reserved ≤ 1 ∧
        state.blockedCallers.card ≤ 2 := by
  have execution : (system Config.smallest 2 ⟨id⟩).run (State.initial Config.smallest 2 String)
      busySchedule = some _ := rfl
  have reachable : Reachable ⟨id⟩ _ := reaches_of_run (admits_unrestricted _ _) execution
  rcases admission_bound reachable with ⟨bounded, _, _, _, blocked, _⟩
  exact ⟨_, reachable, rfl, mem_blockedCallers.mpr ⟨0, rfl, rfl⟩, bounded, blocked⟩

end JudgeManager

end OnlineJudge.Judge
