import Mathlib.Algebra.Order.BigOperators.Group.Finset
import OnlineJudge.Judge.Manager.Shutdown

/-!
# The counters that `shutdown` compares

`accepted_` is incremented after the lock that published the task is released, `completed_`
by the worker when the handler has returned. Nothing orders the two increments. What holds in
every run is a balance: a task that is counted in `completed_`, or will be, is counted in
`accepted_`, or will be. The comparison itself is exact in the runs in which no task is counted
as completed before it is counted as accepted and `shutdown` does not read `accepted_` too early.
-/

namespace OnlineJudge.Judge

namespace JudgeManager

open Library Library.TransitionSystem

variable {config : Config} {callerCount : ℕ} {Outcome : Type} {errors : Errors Outcome}

/-- The item that a caller has put in the queue and not yet counted in `accepted_`. -/
def Caller.publishing? : Caller → Option ItemId
  | .publishing _ item => some item
  | _ => none

/-- The item that a worker has taken and not yet counted in `completed_`. -/
def Worker.uncounted? : Worker Outcome → Option ItemId
  | .popped item | .starting item | .running item | .returned item _ => some item
  | _ => none

/-- The tasks that will still be counted in `accepted_`. -/
def State.publishing (state : State config callerCount Outcome) : ℕ :=
  countWhere (fun caller => caller.publishing?.isSome = true) state.callers

/-- The tasks that will still be counted in `completed_`. -/
def State.uncounted (state : State config callerCount Outcome) : ℕ :=
  state.queue.length + countWhere (fun worker => worker.uncounted?.isSome = true) state.workers

/-- The balance of the two counters. -/
def State.Balanced (state : State config callerCount Outcome) : Prop :=
  state.accepted + state.publishing = state.completed + state.uncounted

variable {state next : State config callerCount Outcome}
  {label : Label config callerCount Outcome}

/-- Only a caller's program counter and what it enters or counts change. -/
theorem State.Balanced.caller (balanced : state.Balanced) {caller : Fin callerCount} {pc : Caller}
    (callers : next.callers = Function.update state.callers caller pc)
    (workers : next.workers = state.workers) (completed : next.completed = state.completed)
    (entered : next.queue.length + state.accepted +
        (if (state.callers caller).publishing?.isSome = true then 1 else 0) =
      state.queue.length + next.accepted + if pc.publishing?.isSome = true then 1 else 0) :
    next.Balanced := by
  have moved := countWhere_update (fun caller : Caller => caller.publishing?.isSome = true)
    state.callers caller pc
  simp only [State.Balanced, State.publishing, State.uncounted, callers, workers, completed]
    at balanced ⊢
  omega

/-- Only a worker's program counter and what it takes or counts change. -/
theorem State.Balanced.worker (balanced : state.Balanced) {worker : Fin config.workerCount}
    {pc : Worker Outcome}
    (workers : next.workers = Function.update state.workers worker pc)
    (callers : next.callers = state.callers) (accepted : next.accepted = state.accepted)
    (taken : next.completed + next.queue.length +
        (if pc.uncounted?.isSome = true then 1 else 0) =
      state.completed + state.queue.length +
        if (state.workers worker).uncounted?.isSome = true then 1 else 0) :
    next.Balanced := by
  have moved := countWhere_update (fun worker : Worker Outcome => worker.uncounted?.isSome = true)
    state.workers worker pc
  simp only [State.Balanced, State.publishing, State.uncounted, callers, workers, accepted]
    at balanced ⊢
  omega

theorem afterPublishing_publishing? (purpose : Purpose) (item : ItemId) :
    (State.afterPublishing purpose item).publishing? = none := by
  cases purpose <;> rfl

theorem State.Balanced.step (balanced : state.Balanced)
    (transition : Transition errors state label next) : next.Balanced := by
  cases transition with
  | submitBegins caller task pc | submitRefused caller item status pc | reserves caller purpose pc
  | commitBegins caller outcome task purpose pc | receives caller item pc
  | shutdownBegins caller pc | shutdownCancels caller pc | shutdownStops caller pc
  | shutdownJoins caller pc | shutdownLoads caller pc | shutdownReturns caller accepted pc =>
      refine balanced.caller rfl rfl rfl ?_
      rw [pc]
      rfl
  | submitAccepted caller item pc =>
      refine balanced.caller rfl rfl rfl ?_
      simp [pc, Caller.publishing?]
      omega
  | releases caller outcome task purpose pc =>
      rw [releaseSlot_eq]
      refine balanced.caller rfl rfl rfl ?_
      rw [pc]
      rfl
  | commitReclaimed caller purpose item pc =>
      rw [releaseSlot_eq]
      refine balanced.caller rfl rfl rfl ?_
      rw [pc, afterPublishing_publishing?]
      rfl
  | commitCancelled caller purpose item pc | commitQueued caller purpose item pc =>
      rw [releaseSlot_eq]
      refine balanced.caller rfl rfl rfl ?_
      simp [pc, Caller.publishing?]
      omega
  | publishes caller purpose item pc =>
      refine balanced.caller rfl rfl rfl ?_
      rw [pc, afterPublishing_publishing?]
      simp [Caller.publishing?]
      omega
  | reserveDenied | commitDenied | shutdownAgain | cancels => exact balanced
  | pops worker result item rest pc nonempty =>
      refine balanced.worker rfl rfl rfl ?_
      simp [pc, Worker.uncounted?, nonempty]
      omega
  | exits worker result pc | activates worker result item pc | starts worker result item pc
  | handlerEnds worker result item pc | erases worker result item outcome pc
  | delivers worker result item outcome pc | deactivates worker result pc =>
      refine balanced.worker rfl rfl rfl ?_
      rw [pc]
      rfl
  | completes worker result item outcome pc =>
      refine balanced.worker rfl rfl rfl ?_
      simp [pc, Worker.uncounted?]
      omega

/-- In every run, with no condition, the two counters balance. -/
theorem State.Balanced.of_reaches
    {allowed : State config callerCount Outcome → Label config callerCount Outcome → Prop}
    (reaches : (system config callerCount errors).Reaches allowed
      (State.initial config callerCount Outcome) state) : state.Balanced := by
  refine invariant_of_transition reaches ?_ fun _ _ _ _ balanced _ => balanced.step
  simp [State.Balanced, State.publishing, State.uncounted, State.initial, countWhere, total,
    Caller.publishing?, Worker.uncounted?]

/-! ## Runs that count in order -/

/-- The item that a worker counts in `completed_` with its next step. -/
def Worker.counting? : Worker Outcome → Option ItemId
  | .returned item _ => some item
  | _ => none

/-- No worker counts a task as completed before the call that accepted it has counted it, and
`shutdown` does not read `accepted_` while such a call still has to. -/
def CountsInOrder (state : State config callerCount Outcome) :
    Label config callerCount Outcome → Prop
  | .worker worker _ => ∀ item ∈ (state.workers worker).counting?,
      ∀ caller, (state.callers caller).publishing? ≠ some item
  | .caller caller => state.callers caller = .shutdownJoined →
      ∀ other, (state.callers other).publishing? = none
  | _ => True

instance CountsInOrder.decidable (state : State config callerCount Outcome) :
    (label : Label config callerCount Outcome) → Decidable (CountsInOrder state label)
  | .worker worker _ => inferInstanceAs (Decidable (∀ item ∈ (state.workers worker).counting?,
      ∀ caller, (state.callers caller).publishing? ≠ some item))
  | .caller caller => inferInstanceAs (Decidable (state.callers caller = .shutdownJoined →
      ∀ other, (state.callers other).publishing? = none))
  | .submit _ _ | .reserve _ _ | .resume _ _ _ | .commitRefused _ _ | .cancelAll | .shutdown _ =>
      isTrue trivial

/-- The item will still be counted as completed. -/
def State.InFlight (state : State config callerCount Outcome) (item : ItemId) : Prop :=
  item ∈ state.queue ∨ ∃ worker, (state.workers worker).uncounted? = some item

theorem inFlight_worker {worker : Fin config.workerCount} {pc : Worker Outcome} {item : ItemId}
    (inFlight : state.InFlight item)
    (workers : next.workers = Function.update state.workers worker pc)
    (queue : next.queue = state.queue)
    (same : (state.workers worker).uncounted? = some item → pc.uncounted? = some item) :
    next.InFlight item := by
  rcases inFlight with queued | ⟨other, uncounted⟩
  · left
    rwa [queue]
  · right
    refine ⟨other, ?_⟩
    rw [workers, Function.update_apply]
    split
    case isTrue isWorker => exact same (isWorker ▸ uncounted)
    case isFalse => exact uncounted

/-- An item stops being in flight only when a worker counts it. -/
theorem inFlight_step (transition : Transition errors state label next) {item : ItemId}
    (notCounted : ∀ worker result outcome, label = .worker worker result →
      state.workers worker ≠ .returned item outcome)
    (inFlight : state.InFlight item) : next.InFlight item := by
  cases transition with
  | submitAccepted => exact inFlight.imp_left (List.mem_append_left _)
  | commitCancelled | commitQueued =>
      rw [releaseSlot_eq]
      exact inFlight.imp_left (List.mem_append_left _)
  | releases | commitReclaimed =>
      rw [releaseSlot_eq]
      exact inFlight
  | pops worker result moved rest pc nonempty =>
      rcases inFlight with queued | ⟨other, uncounted⟩
      · rw [nonempty] at queued
        rcases List.mem_cons.mp queued with rfl | later
        · right
          refine ⟨worker, ?_⟩
          simp only [State.setWorker, Function.update_self, Worker.uncounted?]
        · exact .inl later
      · right
        refine ⟨other, ?_⟩
        simp only [State.setWorker]
        rw [Function.update_of_ne]
        · exact uncounted
        · rintro rfl
          rw [pc] at uncounted
          cases uncounted
  | completes worker result moved outcome pc =>
      refine inFlight_worker inFlight rfl rfl ?_
      intro uncounted
      rw [pc] at uncounted
      cases uncounted
      exact absurd pc (notCounted worker result outcome rfl)
  | exits worker result pc | activates worker result moved pc | starts worker result moved pc
  | handlerEnds worker result moved pc | erases worker result moved outcome pc
  | delivers worker result moved outcome pc | deactivates worker result pc =>
      refine inFlight_worker inFlight rfl rfl ?_
      rw [pc]
      exact id
  | _ => exact inFlight

/-- A call that still has to count its item has just put it in the queue, or had to before. -/
theorem publishing_step (transition : Transition errors state label next)
    {caller : Fin callerCount} {item : ItemId}
    (publishing : (next.callers caller).publishing? = some item) :
    (state.callers caller).publishing? = some item ∨ item ∈ next.queue := by
  cases transition with
  | submitAccepted moved other pc | commitCancelled moved purpose other pc
  | commitQueued moved purpose other pc =>
      simp only [State.setCaller, Function.update_apply] at publishing
      split at publishing
      · right
        rcases Option.some.inj publishing
        exact List.mem_append_right _ (List.mem_singleton_self _)
      · left
        simpa [releaseSlot_eq] using publishing
  | commitReclaimed moved purpose other pc | publishes moved purpose other pc =>
      left
      simp only [State.setCaller, Function.update_apply] at publishing
      split at publishing
      · rw [afterPublishing_publishing?] at publishing
        cases publishing
      · simpa [releaseSlot_eq] using publishing
  | submitBegins moved | submitRefused moved | reserves moved | releases moved
  | commitBegins moved | receives moved | shutdownBegins moved | shutdownCancels moved
  | shutdownStops moved | shutdownJoins moved | shutdownLoads moved | shutdownReturns moved =>
      left
      simp only [State.setCaller, Function.update_apply] at publishing
      split at publishing
      · cases publishing
      · simpa [releaseSlot_eq] using publishing
  | _ => exact .inl publishing

/-- Every call that still has to count its item finds it in flight. -/
def State.PublishesInFlight (state : State config callerCount Outcome) : Prop :=
  ∀ caller item, (state.callers caller).publishing? = some item → state.InFlight item

theorem Caller.eq_publishing {caller : Caller} {item : ItemId}
    (publishing : caller.publishing? = some item) :
    ∃ purpose, caller = .publishing purpose item := by
  cases caller with
  | publishing purpose other =>
      cases publishing
      exact ⟨purpose, rfl⟩
  | _ => cases publishing

theorem State.PublishesInFlight.of_reaches
    (reaches : (system config callerCount errors).Reaches CountsInOrder
      (State.initial config callerCount Outcome) state) : state.PublishesInFlight := by
  refine invariant_of_transition reaches ?_ fun state label next _ inv inOrder transition => ?_
  · intro caller item publishing
    cases publishing
  intro caller item publishing
  rcases publishing_step transition publishing with before | queued
  · refine inFlight_step transition ?_ (inv caller item before)
    rintro worker result outcome rfl pc
    refine inOrder item ?_ caller before
    rw [pc]
    rfl
  · exact .inl queued

/-- The items that workers have taken and not yet counted. -/
def State.uncountedItems (state : State config callerCount Outcome) : Finset ItemId :=
  Finset.univ.biUnion fun worker => (state.workers worker).uncounted?.toFinset

theorem card_uncountedItems_le (state : State config callerCount Outcome) :
    state.uncountedItems.card ≤
      countWhere (fun worker => worker.uncounted?.isSome = true) state.workers := by
  refine Finset.card_biUnion_le.trans (Finset.sum_le_sum fun worker _ => ?_)
  cases uncounted : (state.workers worker).uncounted? <;> simp [uncounted]

/-- As many calls as still have to count their item, so many items are still in flight. -/
theorem State.PublishesInFlight.publishing_le (inFlight : state.PublishesInFlight)
    (lifecycle : Lifecycle errors state) : state.publishing ≤ state.uncounted := by
  have each : ∀ caller ∈ Finset.univ.filter
      (fun caller => (state.callers caller).publishing?.isSome = true),
      ∃ item, (state.callers caller).publishing? = some item := by
    intro caller mem
    exact Option.isSome_iff_exists.mp (Finset.mem_filter.mp mem).2
  choose! itemOf isPublishing using each
  have distinct : Set.InjOn itemOf (Finset.univ.filter
      (fun caller => (state.callers caller).publishing?.isSome = true)) := by
    intro first firstMem second secondMem same
    have placed : ∀ caller item, (state.callers caller).publishing? = some item →
        (state.callers caller).placed? = some item := by
      intro caller item publishing
      rcases Caller.eq_publishing publishing with ⟨purpose, pc⟩
      rw [pc]
      rfl
    have firstPlaced := placed first _ (isPublishing first firstMem)
    rw [same] at firstPlaced
    exact lifecycle.placed_unique first second _ firstPlaced
      (placed second _ (isPublishing second secondMem))
  rw [State.publishing, countWhere_eq_card, ← Finset.card_image_of_injOn distinct]
  have places : (Finset.univ.filter
      (fun caller => (state.callers caller).publishing?.isSome = true)).image itemOf ⊆
        state.queue.toFinset ∪ state.uncountedItems := by
    intro item mem
    rcases Finset.mem_image.mp mem with ⟨caller, isCaller, rfl⟩
    rw [Finset.mem_union, List.mem_toFinset]
    rcases inFlight caller _ (isPublishing caller isCaller) with queued | ⟨worker, uncounted⟩
    · exact .inl queued
    · right
      refine Finset.mem_biUnion.mpr ⟨worker, Finset.mem_univ _, ?_⟩
      rw [uncounted]
      exact Finset.mem_singleton_self _
  calc
    _ ≤ (state.queue.toFinset ∪ state.uncountedItems).card := Finset.card_le_card places
    _ ≤ state.queue.toFinset.card + state.uncountedItems.card := Finset.card_union_le _ _
    _ ≤ state.uncounted :=
        Nat.add_le_add (List.toFinset_card_le _) (card_uncountedItems_le state)

/-- Once the workers are joined, only a call that has not counted its item is missing. -/
theorem accepted_eq_completed (balanced : state.Balanced) (order : StopOrder state)
    (joined : state.workersJoined = true)
    (allCounted : ∀ caller, (state.callers caller).publishing? = none) :
    state.accepted = state.completed := by
  have exited := order.joined joined
  have empty := (order.exited _ (exited ⟨0, config.workerCount_pos⟩)).2
  have publishing : state.publishing = 0 := by
    refine countWhere_eq_zero_iff.mpr fun caller => ?_
    simp [allCounted]
  have uncounted : state.uncounted = 0 := by
    rw [State.uncounted, empty, List.length_nil, Nat.zero_add]
    refine countWhere_eq_zero_iff.mpr fun worker => ?_
    simp [exited, Worker.uncounted?]
  rw [State.Balanced, publishing, uncounted] at balanced
  exact balanced

/-- What `shutdown` has read is what it compares with, and what it compared was equal. -/
structure Reports (state : State config callerCount Outcome) : Prop where
  loaded : ∀ caller accepted, state.callers caller = .shutdownLoaded accepted →
    accepted = state.completed
  reported : ∀ report ∈ state.shutdownReports, report.1 = report.2

theorem completed_step (order : StopOrder state) (joined : state.workersJoined = true)
    (transition : Transition errors state label next) : next.completed = state.completed := by
  cases transition with
  | completes worker result item outcome pc =>
      rw [order.joined joined] at pc
      cases pc
  | releases | commitReclaimed | commitCancelled | commitQueued => simp [releaseSlot_eq]
  | _ => rfl

/-- Only the step that reads `accepted_` arrives behind it. -/
theorem shutdownLoaded_step (transition : Transition errors state label next)
    {caller : Fin callerCount} {accepted : ℕ}
    (pc : next.callers caller = .shutdownLoaded accepted) :
    state.callers caller = .shutdownLoaded accepted ∨
      (label = .caller caller ∧ state.callers caller = .shutdownJoined ∧
        accepted = state.accepted ∧ next.completed = state.completed) := by
  rcases transition.caller_cases caller with same | move
  · exact .inl (same ▸ pc)
  · rw [pc] at move
    cases move with
    | outside outside => cases outside
    | loaded own before completed => exact .inr ⟨own, before, rfl, completed⟩

theorem Reports.step (inv : Reports state) (balanced : state.Balanced) (order : StopOrder state)
    (inOrder : CountsInOrder state label) (transition : Transition errors state label next) :
    Reports next where
  loaded caller accepted pc := by
    rcases shutdownLoaded_step transition pc with before | ⟨rfl, before, rfl, completed⟩
    · have joined := order.loaded caller (.inr ⟨accepted, before⟩)
      rw [completed_step order joined transition]
      exact inv.loaded caller accepted before
    · rw [completed]
      exact accepted_eq_completed balanced order (order.loaded caller (.inl before))
        (inOrder before)
  reported := by
    cases transition with
    | shutdownReturns caller accepted pc =>
        intro report mem
        rcases List.mem_append.mp mem with old | new
        · exact inv.reported report old
        · rw [List.mem_singleton] at new
          rw [new]
          exact inv.loaded caller accepted pc
    | releases | commitReclaimed | commitCancelled | commitQueued =>
        simpa [releaseSlot_eq] using inv.reported
    | _ => exact inv.reported

/-- The task was put in the queue. -/
def Stage.Enqueued {workerCount : ℕ} : Stage workerCount → Prop
  | .queued | .held _ | .delivered => True
  | .unborn | .built | .refused _ | .reclaimed => False

/-- The accounting that `shutdown` relies on. -/
def AccountingExact (state : State config callerCount Outcome) : Prop :=
  state.completed ≤ state.accepted ∧
    ∀ caller accepted, state.callers caller = .shutdownLoaded accepted →
      (∀ item, (state.items item).stage.Enqueued → (state.items item).results ≠ []) →
      accepted = state.completed

/-- In every run that counts in order the accounting is exact in every state, and every
comparison that `shutdown` makes finds equal numbers. -/
theorem accounting_exact_of_countsInOrder
    (reaches : (system config callerCount errors).Reaches CountsInOrder
      (State.initial config callerCount Outcome) state) :
    AccountingExact state ∧ ∀ report ∈ state.shutdownReports, report.1 = report.2 := by
  have balanced : state.Balanced := .of_reaches reaches
  have publishing_le := (State.PublishesInFlight.of_reaches reaches).publishing_le
    (.of_reaches reaches)
  have reports : Reports state := by
    refine invariant_of_transition reaches ⟨?_, ?_⟩ ?_
    · intro caller accepted pc
      cases pc
    · intro report mem
      cases mem
    · intro state label next before inv inOrder
      exact inv.step (.of_reaches before) (.of_reaches before) inOrder
  refine ⟨⟨?_, fun caller accepted pc _ => reports.loaded caller accepted pc⟩, reports.reported⟩
  unfold State.Balanced at balanced
  omega

theorem accounting_exact_of_countsInOrder_oneTask :
    ∃ state : State Config.smallest 1 String, (system Config.smallest 1 ⟨id⟩).Reaches
      CountsInOrder (State.initial Config.smallest 1 String) state ∧
        state.completed = 1 ∧ state.shutdownReports.length = 1 ∧ AccountingExact state := by
  have execution : (system Config.smallest 1 ⟨id⟩).run (State.initial Config.smallest 1 String)
      (oneTaskSchedule ++ [.caller 0]) = some _ := rfl
  have reaches : (system Config.smallest 1 ⟨id⟩).Reaches CountsInOrder _ _ :=
    reaches_of_run (by decide) execution
  exact ⟨_, reaches, rfl, rfl, (accounting_exact_of_countsInOrder reaches).1⟩

/-- The worker runs a task to its end and `shutdown` reads both counters before the call that
queued the task increments `accepted_`. -/
def overtakenSchedule : List (Label Config.smallest 2 String) :=
  [.submit ⟨0, Nat.two_pos⟩ State.emptyTask, .caller ⟨0, Nat.two_pos⟩] ++
    List.replicate 8 (.worker ⟨0, Nat.one_pos⟩ (.returned "AC")) ++
    [.shutdown ⟨1, Nat.one_lt_two⟩, .caller ⟨1, Nat.one_lt_two⟩, .caller ⟨1, Nat.one_lt_two⟩,
      .worker ⟨0, Nat.one_pos⟩ (.threw none), .caller ⟨1, Nat.one_lt_two⟩,
      .caller ⟨1, Nat.one_lt_two⟩]

/-- The accounting is not exact in every reachable state: a task may be counted as completed
first, and `shutdown` may find unequal numbers although every handler has returned. -/
theorem accounting_inexact :
    ∃ state : State Config.smallest 2 String, Reachable ⟨id⟩ state ∧ ¬AccountingExact state ∧
      state.accepted < state.completed ∧
      ∃ caller accepted, state.callers caller = .shutdownLoaded accepted ∧
        (∀ item, (state.items item).stage.Enqueued → (state.items item).results ≠ []) ∧
          accepted ≠ state.completed := by
  have execution : ∃ state, (system Config.smallest 2 ⟨id⟩).run
      (State.initial Config.smallest 2 String) overtakenSchedule = some state ∧
        state.accepted = 0 ∧ state.completed = 1 ∧ state.callers 1 = .shutdownLoaded 0 ∧
          state.nextItem = 1 ∧ (state.items 0).results = [.returned "AC"] :=
    ⟨_, rfl, rfl, rfl, rfl, rfl, rfl⟩
  rcases execution with ⟨state, execution, accepted, completed, pc, nextItem, results⟩
  have reachable : Reachable ⟨id⟩ state := reaches_of_run (admits_unrestricted _ _) execution
  refine ⟨state, reachable, ?_, ?_, 1, 0, pc, fun item enqueued => ?_, ?_⟩
  · rintro ⟨bounded, _⟩
    omega
  · omega
  · -- only item 0 was ever built
    rcases Nat.eq_zero_or_pos item with rfl | isFresh
    · simp [results]
    · rw [(Lifecycle.of_reaches reachable).fresh item (nextItem ▸ isFresh)] at enqueued
      exact enqueued.elim
  · omega

end JudgeManager

end OnlineJudge.Judge
