import OnlineJudge.Judge.Manager.Shutdown

/-!
# Cancellation reaches every task

`cancel_all` sweeps the queue and `active_items_` in one critical section. It misses nothing
because `active_items_` is exactly the set of items between `pop_front` and the end of the
handler, and it need not be repeated because `commit` sets the token of a late arrival itself.
-/

namespace OnlineJudge.Judge

namespace JudgeManager

open Library Library.TransitionSystem

variable {config : Config} {callerCount : ℕ} {Outcome : Type} {errors : Errors Outcome}

/-- The item that a worker has popped and not yet erased from `active_items_`. -/
def Worker.executing? : Worker Outcome → Option ItemId
  | .popped item | .starting item | .running item => some item
  | .returned item _ | .completed item _ => some item
  | .erased _ _ | .waiting | .delivered | .exited => none

theorem Worker.item?_of_executing? {worker : Worker Outcome} {item : ItemId}
    (executing : worker.executing? = some item) : worker.item? = some item := by
  cases worker with
  | erased | waiting | delivered | exited => cases executing
  | _ => exact executing

/-- The item is where `cancel_all` looks for it. -/
def State.InReach (state : State config callerCount Outcome) (item : ItemId) : Prop :=
  item ∈ state.queue ∨ item ∈ state.activeItems

/-- `active_items_` holds what the workers execute. -/
def State.ActiveExact (state : State config callerCount Outcome) : Prop :=
  ∀ item, item ∈ state.activeItems ↔ ∃ worker, (state.workers worker).executing? = some item

/-- What `cancel_all` relies on and achieves. -/
structure Swept (state : State config callerCount Outcome) : Prop where
  active : state.ActiveExact
  swept : state.stopped = true → ∀ item, state.InReach item →
    (state.items item).cancelled = true

namespace Swept

variable {state next : State config callerCount Outcome}
  {label : Label config callerCount Outcome}

theorem cancelled_mono (transition : Transition errors state label next) {item : ItemId}
    (old : item ≠ state.nextItem) (cancelled : (state.items item).cancelled = true) :
    (next.items item).cancelled = true := by
  rcases transition.item_cases item with ⟨new, -⟩ | move
  · exact absurd new old
  · exact move.cancelled cancelled

/-- A worker step that leaves `active_items_` alone leaves what the worker executes alone. -/
theorem active_same (inv : Swept state) {worker : Fin config.workerCount} {pc : Worker Outcome}
    (workers : next.workers = Function.update state.workers worker pc)
    (activeItems : next.activeItems = state.activeItems)
    (same : pc.executing? = (state.workers worker).executing?) : next.ActiveExact := by
  intro item
  have executing : ∀ other, (next.workers other).executing? =
      (state.workers other).executing? := by
    intro other
    rw [workers, Function.update_apply]
    split
    case isTrue isWorker => rw [isWorker, same]
    case isFalse => rfl
  rw [activeItems, inv.active]
  simp only [executing]

theorem active_step (inv : Swept state) (lifecycle : Lifecycle errors state)
    (transition : Transition errors state label next) : next.ActiveExact := by
  cases transition with
  | pops worker result moved rest pc nonempty =>
      intro item
      have before := inv.active item
      simp only [State.setWorker, State.modifyItem, Finset.mem_insert, before]
      constructor
      · rintro (rfl | ⟨other, executing⟩)
        · exact ⟨worker, by rw [Function.update_self]; rfl⟩
        · refine ⟨other, ?_⟩
          rw [Function.update_of_ne]
          · exact executing
          · rintro rfl
            rw [pc] at executing
            cases executing
      · rintro ⟨other, executing⟩
        rw [Function.update_apply] at executing
        split at executing
        · exact .inl (Option.some.inj executing).symm
        · exact .inr ⟨other, executing⟩
  | erases worker result moved outcome pc =>
      have holds : (state.workers worker).item? = some moved := by
        rw [pc]
        rfl
      intro item
      have before := inv.active item
      simp only [State.setWorker, Finset.mem_erase, before]
      constructor
      · rintro ⟨notMoved, other, executing⟩
        refine ⟨other, ?_⟩
        rw [Function.update_of_ne]
        · exact executing
        · rintro rfl
          rw [pc] at executing
          exact notMoved (Option.some.inj executing).symm
      · rintro ⟨other, executing⟩
        rw [Function.update_apply] at executing
        split at executing
        · cases executing
        case isFalse isOther =>
          refine ⟨?_, other, executing⟩
          -- a second worker on the same item would share its stage
          rintro rfl
          have first := (lifecycle.held worker item).mp holds
          have second := (lifecycle.held other item).mp (Worker.item?_of_executing? executing)
          rw [first] at second
          cases second
          exact isOther rfl
  | exits worker result pc | activates worker result moved pc | starts worker result moved pc
  | handlerEnds worker result moved pc | completes worker result moved outcome pc
  | delivers worker result moved outcome pc | deactivates worker result pc =>
      refine inv.active_same rfl rfl ?_
      rw [pc]
      rfl
  | releases | commitReclaimed | commitCancelled | commitQueued =>
      rw [releaseSlot_eq]
      exact inv.active
  | _ => exact inv.active

/-- What is in reach was so before, or enters the queue before the stop or with its token set. -/
theorem inReach_step (transition : Transition errors state label next) {item : ItemId}
    (inReach : next.InReach item) :
    state.InReach item ∨ (next.items item).cancelled = true ∨ state.stopped = false := by
  cases transition with
  | submitAccepted caller moved pc running | commitQueued caller purpose moved pc _ running =>
      exact .inr (.inr running)
  | commitCancelled caller purpose moved pc =>
      rw [releaseSlot_eq] at inReach ⊢
      rcases inReach with queued | active
      · rcases List.mem_append.mp queued with mem | mem
        · exact .inl (.inl mem)
        · rw [List.mem_singleton] at mem
          subst mem
          right
          left
          simp
      · exact .inl (.inr active)
  | pops worker result moved rest pc nonempty =>
      left
      rcases inReach with queued | active
      · exact .inl (nonempty ▸ List.mem_cons_of_mem _ queued)
      · rcases Finset.mem_insert.mp active with rfl | active
        · exact .inl (nonempty ▸ List.mem_cons_self)
        · exact .inr active
  | erases worker result moved outcome pc =>
      left
      rcases inReach with queued | active
      · exact .inl queued
      · exact .inr (Finset.mem_of_mem_erase active)
  | releases | commitReclaimed =>
      rw [releaseSlot_eq] at inReach
      exact .inl inReach
  | _ => exact .inl inReach

/-- An item in reach was built before. -/
theorem inReach_old (inv : Swept state) (lifecycle : Lifecycle errors state) {item : ItemId}
    (inReach : state.InReach item) : item ≠ state.nextItem := by
  rintro rfl
  have unborn := lifecycle.fresh state.nextItem (Nat.le_refl _)
  rcases inReach with queued | active
  · rw [lifecycle.mem_queue, unborn] at queued
    cases queued
  · rcases (inv.active _).mp active with ⟨worker, executing⟩
    have isHeld := (lifecycle.held _ _).mp (Worker.item?_of_executing? executing)
    rw [unborn] at isHeld
    cases isHeld

theorem swept_step (inv : Swept state) (lifecycle : Lifecycle errors state)
    (transition : Transition errors state label next) (stopped : next.stopped = true)
    (item : ItemId) (inReach : next.InReach item) : (next.items item).cancelled = true := by
  by_cases before : state.stopped = true
  · rcases inReach_step transition inReach with old | cancelled | running
    · exact cancelled_mono transition (inv.inReach_old lifecycle old)
        (inv.swept before item old)
    · exact cancelled
    · rw [before] at running
      cases running
  -- this is the sweep
  · cases transition with
    | cancels | shutdownCancels =>
        have sweeps : item ∈ state.queue ∨ item ∈ state.activeItems := inReach
        simp [sweeps]
    | _ => simp_all [releaseSlot_eq]

theorem step (inv : Swept state) (lifecycle : Lifecycle errors state)
    (transition : Transition errors state label next) : Swept next where
  active := inv.active_step lifecycle transition
  swept := inv.swept_step lifecycle transition

theorem initial : Swept (State.initial config callerCount Outcome) where
  active _ := by simp [State.initial, Worker.executing?]
  swept stopped := nomatch stopped

theorem of_reaches
    {allowed : State config callerCount Outcome → Label config callerCount Outcome → Prop}
    (reaches : (system config callerCount errors).Reaches allowed
      (State.initial config callerCount Outcome) state) : Swept state :=
  invariant_of_transition reaches .initial fun _ _ _ before inv _ =>
    inv.step (Lifecycle.of_reaches before)

end Swept

/-- From `pop_front` to the end of its handler a task is in `active_items_`. Once `stopped_` is
set it stays set, every task in the queue or in `active_items_` has its token set, so has every
task that a worker starts or executes, and every `commit` from an earlier reservation sets the
token of its task. -/
theorem cancellation_reaches_everything {state : State config callerCount Outcome}
    (reachable : Reachable errors state) :
    (∀ worker item, (state.workers worker).executing? = some item →
      item ∈ state.activeItems) ∧
    (state.stopped = true →
      (∀ item ∈ state.queue, (state.items item).cancelled = true) ∧
      (∀ item ∈ state.activeItems, (state.items item).cancelled = true) ∧
      (∀ worker item, (state.workers worker).executing? = some item →
        (state.items item).cancelled = true) ∧
      (∀ caller purpose item next, state.callers caller = .committing purpose item →
        step errors state (.caller caller) = some next →
        (next.items item).stage.Accepted ∧ (next.items item).cancelled = true) ∧
      ∀ label next, step errors state label = some next →
        next.stopped = true ∧ ∀ item, (state.items item).stage ≠ .unborn →
          (state.items item).cancelled = true → (next.items item).cancelled = true) := by
  have inv := Swept.of_reaches reachable
  have lifecycle := Lifecycle.of_reaches reachable
  have executing : ∀ worker item, (state.workers worker).executing? = some item →
      item ∈ state.activeItems := fun worker item holds => (inv.active item).mpr ⟨worker, holds⟩
  refine ⟨executing, fun stopped => ⟨?_, ?_, ?_, ?_, ?_⟩⟩
  · exact fun item queued => inv.swept stopped item (.inl queued)
  · exact fun item active => inv.swept stopped item (.inr active)
  · exact fun worker item holds => inv.swept stopped item (.inr (executing worker item holds))
  · intro caller purpose item next pc enabled
    have transition : Transition errors state (.caller caller) next := .of_step enabled
    cases transition with
    | commitReclaimed _ _ moved pc' | commitCancelled _ _ moved pc' =>
        rw [pc] at pc'
        cases pc'
        rw [releaseSlot_eq]
        simp [Stage.Accepted]
    | commitQueued _ _ moved pc' _ running =>
        rw [stopped] at running
        cases running
    | _ => simp_all
  · intro label next enabled
    have transition : Transition errors state label next := .of_step enabled
    refine ⟨StopOrder.stopped_mono transition stopped, fun item born cancelled => ?_⟩
    refine Swept.cancelled_mono transition ?_ cancelled
    rintro rfl
    exact born (lifecycle.fresh _ (Nat.le_refl _))

/-- The worker has taken a task and a reservation is granted when the scheduler is stopped. -/
def lateCommitSchedule : List (Label Config.smallest 2 String) :=
  [.submit ⟨0, Nat.two_pos⟩ State.emptyTask, .caller ⟨0, Nat.two_pos⟩,
    .worker ⟨0, Nat.one_pos⟩ (.threw none), .reserve ⟨1, Nat.one_lt_two⟩ .handleSubmit,
    .cancelAll, .resume ⟨1, Nat.one_lt_two⟩ .persisted State.emptyTask]

theorem cancellation_reaches_everything_lateCommit :
    ∃ state next : State Config.smallest 2 String, Reachable ⟨id⟩ state ∧
      step ⟨id⟩ state (.caller 1) = some next ∧ state.activeItems = {0} ∧
        (state.items 0).cancelled = true ∧ (next.items 1).cancelled = true := by
  have execution : (system Config.smallest 2 ⟨id⟩).run (State.initial Config.smallest 2 String)
      lateCommitSchedule = some _ := rfl
  have reachable : Reachable ⟨id⟩ _ := reaches_of_run (admits_unrestricted _ _) execution
  rcases cancellation_reaches_everything reachable with ⟨_, reaches⟩
  rcases reaches rfl with ⟨_, active, _, committed, _⟩
  refine ⟨_, _, reachable, rfl, rfl, active 0 ?_, (committed 1 .handleSubmit 1 _ rfl rfl).2⟩
  exact Finset.mem_singleton_self 0

end JudgeManager

end OnlineJudge.Judge
