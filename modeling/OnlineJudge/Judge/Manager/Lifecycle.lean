import Mathlib.Data.List.Nodup
import Mathlib.Tactic.Common
import OnlineJudge.Judge.Manager.Transition

/-!
# The life of an item

Every item that was built is in exactly one place: with the caller that built it, in the
queue, with one worker, or done. `Lifecycle` says where, and what has happened to its
handler and its promise by then.

A branch of the source moves at most one item. The lemmas named after the moves show that
the invariant is kept when one item moves and everything else stays; `Lifecycle.step` then
only says which move a branch makes.
-/

namespace OnlineJudge.Judge

namespace JudgeManager

variable {config : Config} {callerCount : ℕ} {Outcome : Type} {errors : Errors Outcome}

/-- The item that a worker holds and whose promise it still has to set. -/
def Worker.item? : Worker Outcome → Option ItemId
  | .popped item | .starting item | .running item => some item
  | .returned item _ | .completed item _ | .erased item _ => some item
  | .waiting | .delivered | .exited => none

/-- The item that a caller has built and not yet offered to the queue. -/
def Caller.building? : Caller → Option ItemId
  | .submitting item | .committing _ item => some item
  | _ => none

/-- The item whose acceptance a caller has yet to count, or whose result it waits for. -/
def Caller.placed? : Caller → Option ItemId
  | .publishing _ item | .awaiting item => some item
  | _ => none

theorem afterPublishing_building (purpose : Purpose) (item : ItemId) :
    (State.afterPublishing purpose item).building? = none := by
  cases purpose <;> rfl

theorem afterPublishing_placed {purpose : Purpose} {item other : ItemId}
    (placed : (State.afterPublishing purpose item).placed? = some other) : other = item := by
  cases purpose with
  | handleSubmit | handleAdminRejudge => exact (Option.some.inj placed).symm
  | recovery => cases placed

/-- What has happened to an item's handler and promise, by the stage it is in. -/
def Item.Consistent (errors : Errors Outcome) (item : Item config.workerCount Outcome) : Prop :=
  match item.stage with
  | .unborn | .built | .refused _ | .queued =>
      item.promise = [] ∧ item.started = 0 ∧ item.results = []
  | .held _ => item.promise = []
  | .delivered =>
      item.started = 1 ∧
        ∃ result, item.results = [result] ∧ item.promise = [errors.outcomeOf result]
  | .reclaimed =>
      item.promise = [errors.reclaimedOutcome] ∧ item.started = 0 ∧ item.results = []

/-- What a worker knows about the item it holds. -/
def Worker.Consistent (errors : Errors Outcome) (items : ItemId → Item config.workerCount Outcome) :
    Worker Outcome → Prop
  | .popped item | .starting item => (items item).started = 0 ∧ (items item).results = []
  | .running item => (items item).started = 1 ∧ (items item).results = []
  | .returned item outcome | .completed item outcome | .erased item outcome =>
      (items item).started = 1 ∧
        ∃ result, (items item).results = [result] ∧ outcome = errors.outcomeOf result
  | .waiting | .delivered | .exited => True

/-- Where every item is, and what has happened to it. -/
structure Lifecycle (errors : Errors Outcome) (state : State config callerCount Outcome) :
    Prop where
  fresh : ∀ item, state.nextItem ≤ item → (state.items item).stage = .unborn
  queue_nodup : state.queue.Nodup
  mem_queue : ∀ item, item ∈ state.queue ↔ (state.items item).stage = .queued
  held : ∀ worker item,
    (state.workers worker).item? = some item ↔ (state.items item).stage = .held worker
  building : ∀ caller item, (state.callers caller).building? = some item →
    (state.items item).stage = .built
  building_unique : ∀ caller other item, (state.callers caller).building? = some item →
    (state.callers other).building? = some item → caller = other
  placed : ∀ caller item, (state.callers caller).placed? = some item →
    (state.items item).stage.Accepted
  placed_unique : ∀ caller other item, (state.callers caller).placed? = some item →
    (state.callers other).placed? = some item → caller = other
  item_consistent : ∀ item, (state.items item).Consistent errors
  worker_consistent : ∀ worker, (state.workers worker).Consistent errors state.items

namespace Lifecycle

variable {state next : State config callerCount Outcome}

/-- A worker knows the same about its item when the item's history is the same. -/
theorem worker_consistent_congr {worker : Worker Outcome}
    {items items' : ItemId → Item config.workerCount Outcome}
    (consistent : worker.Consistent errors items)
    (same : ∀ item, worker.item? = some item →
      (items' item).started = (items item).started ∧ (items' item).results = (items item).results) :
    worker.Consistent errors items' := by
  cases worker with
  | waiting | delivered | exited => trivial
  | popped item | starting item | running item | returned item | completed item | erased item =>
      rcases same item rfl with ⟨started, results⟩
      simpa only [Worker.Consistent, started, results] using consistent

theorem worker_consistent_of_free {worker : Worker Outcome}
    {items : ItemId → Item config.workerCount Outcome} (free : worker.item? = none) :
    worker.Consistent errors items := by
  cases worker with
  | waiting | delivered | exited => trivial
  | popped | starting | running | returned | completed | erased => cases free

/-- No item moves: callers may forget items, and cancellation tokens may be set. -/
theorem stay (inv : Lifecycle errors state)
    (queue : next.queue = state.queue) (nextItem : next.nextItem = state.nextItem)
    (items : ∀ item, next.items item = state.items item ∨
      next.items item = State.cancelItem (state.items item))
    (workers : ∀ worker, next.workers worker = state.workers worker ∨
      (state.workers worker).item? = none ∧ (next.workers worker).item? = none)
    (callers : ∀ caller, next.callers caller = state.callers caller ∨
      (next.callers caller).building? = none ∧ ∀ item,
        (next.callers caller).placed? = some item → (state.callers caller).placed? = some item) :
    Lifecycle errors next := by
  have stage : ∀ item, (next.items item).stage = (state.items item).stage := by
    intro item
    rcases items item with same | cancelled
    · rw [same]
    · rw [cancelled]
      rfl
  have building : ∀ caller item, (next.callers caller).building? = some item →
      (state.callers caller).building? = some item := by
    intro caller item isBuilding
    rcases callers caller with same | ⟨none, _⟩
    · rwa [same] at isBuilding
    · rw [none] at isBuilding
      cases isBuilding
  have placed : ∀ caller item, (next.callers caller).placed? = some item →
      (state.callers caller).placed? = some item := by
    intro caller item isPlaced
    rcases callers caller with same | ⟨_, shrinks⟩
    · rwa [same] at isPlaced
    · exact shrinks item isPlaced
  refine ⟨?_, ?_, ?_, ?_, ?_, ?_, ?_, ?_, ?_, ?_⟩
  · intro item old
    rw [stage]
    exact inv.fresh item (nextItem ▸ old)
  · rw [queue]
    exact inv.queue_nodup
  · intro item
    rw [queue, stage]
    exact inv.mem_queue item
  · intro worker item
    rw [stage, ← inv.held worker item]
    rcases workers worker with same | ⟨before, after⟩
    · rw [same]
    · rw [before, after]
  · intro caller item isBuilding
    rw [stage]
    exact inv.building caller item (building caller item isBuilding)
  · intro caller other item first second
    exact inv.building_unique caller other item (building caller item first)
      (building other item second)
  · intro caller item isPlaced
    rw [stage]
    exact inv.placed caller item (placed caller item isPlaced)
  · intro caller other item first second
    exact inv.placed_unique caller other item (placed caller item first) (placed other item second)
  · intro item
    have before := inv.item_consistent item
    rcases items item with same | cancelled
    · rwa [same]
    · rw [cancelled]
      exact before
  · intro worker
    rcases workers worker with same | ⟨_, after⟩
    · rw [same]
      refine worker_consistent_congr (inv.worker_consistent worker) fun item _ => ?_
      rcases items item with same | cancelled
      · rw [same]
        exact ⟨rfl, rfl⟩
      · rw [cancelled]
        exact ⟨rfl, rfl⟩
    · exact worker_consistent_of_free after

theorem build (inv : Lifecycle errors state) {caller : Fin callerCount} {pc : Caller}
    {record : Item config.workerCount Outcome}
    (queue : next.queue = state.queue) (nextItem : next.nextItem = state.nextItem + 1)
    (items : next.items = Function.update state.items state.nextItem record)
    (workers : next.workers = state.workers)
    (callers : next.callers = Function.update state.callers caller pc)
    (built : record.stage = .built) (consistent : record.Consistent errors)
    (isBuilding : pc.building? = some state.nextItem) (notPlaced : pc.placed? = none) :
    Lifecycle errors next := by
  have unborn : (state.items state.nextItem).stage = .unborn := inv.fresh _ (Nat.le_refl _)
  -- nothing points at the new identity yet
  have old : ∀ item, (state.items item).stage ≠ .unborn → next.items item = state.items item := by
    intro item isOld
    rw [items, Function.update_of_ne]
    intro isNew
    exact isOld (isNew ▸ unborn)
  have new : next.items state.nextItem = record := by rw [items, Function.update_self]
  refine ⟨?_, ?_, ?_, ?_, ?_, ?_, ?_, ?_, ?_, ?_⟩
  · intro item isFresh
    rw [nextItem] at isFresh
    rw [items, Function.update_of_ne (Nat.ne_of_gt isFresh)]
    exact inv.fresh item (Nat.le_of_succ_le isFresh)
  · rw [queue]
    exact inv.queue_nodup
  · intro item
    rw [queue, inv.mem_queue, items]
    by_cases isNew : item = state.nextItem
    · subst isNew
      simp [unborn, built]
    · rw [Function.update_of_ne isNew]
  · intro worker item
    rw [workers, inv.held, items]
    by_cases isNew : item = state.nextItem
    · subst isNew
      simp [unborn, built]
    · rw [Function.update_of_ne isNew]
  · intro other item otherBuilding
    rw [callers] at otherBuilding
    by_cases isCaller : other = caller
    · subst isCaller
      rw [Function.update_self, isBuilding] at otherBuilding
      cases otherBuilding
      rw [new, built]
    · rw [Function.update_of_ne isCaller] at otherBuilding
      have before := inv.building other item otherBuilding
      rw [old item (by simp [before]), before]
  · have notNew : ∀ other, (state.callers other).building? ≠ some state.nextItem := by
      intro other otherBuilding
      have before := inv.building other _ otherBuilding
      rw [unborn] at before
      cases before
    intro first second item firstBuilding secondBuilding
    rw [callers, Function.update_apply] at firstBuilding secondBuilding
    split at firstBuilding <;> split at secondBuilding
    · simp_all
    · rw [isBuilding, ← secondBuilding] at firstBuilding
      exact absurd firstBuilding.symm (notNew second)
    · rw [isBuilding, ← firstBuilding] at secondBuilding
      exact absurd secondBuilding.symm (notNew first)
    · exact inv.building_unique first second item firstBuilding secondBuilding
  · intro other item isPlaced
    rw [callers, Function.update_apply] at isPlaced
    split at isPlaced
    · rw [notPlaced] at isPlaced
      cases isPlaced
    · have before := inv.placed other item isPlaced
      rw [old item (by rintro isUnborn; simp [isUnborn, Stage.Accepted] at before)]
      exact before
  · intro first second item firstPlaced secondPlaced
    rw [callers, Function.update_apply] at firstPlaced secondPlaced
    split at firstPlaced <;> split at secondPlaced
    · simp_all
    · simp_all
    · simp_all
    · exact inv.placed_unique first second item firstPlaced secondPlaced
  · intro item
    rw [items, Function.update_apply]
    split
    · exact consistent
    · exact inv.item_consistent item
  · intro worker
    rw [workers]
    refine worker_consistent_congr (inv.worker_consistent worker) fun item holds => ?_
    rw [old item (by simp [(inv.held worker item).mp holds])]
    exact ⟨rfl, rfl⟩

/-- Nothing has happened yet to an item that is with its builder. -/
theorem untouched (inv : Lifecycle errors state) {caller : Fin callerCount} {item : ItemId}
    (isBuilding : (state.callers caller).building? = some item) :
    (state.items item).promise = [] ∧ (state.items item).started = 0 ∧
      (state.items item).results = [] := by
  have history := inv.item_consistent item
  rwa [Item.Consistent, inv.building caller item isBuilding] at history

/-- The item that a caller built enters the queue, or is settled on the spot. -/
theorem leave (inv : Lifecycle errors state) {caller : Fin callerCount} {item : ItemId}
    {pc : Caller} {record : Item config.workerCount Outcome}
    (isBuilding : (state.callers caller).building? = some item)
    (nextItem : next.nextItem = state.nextItem)
    (items : next.items = Function.update state.items item record)
    (workers : next.workers = state.workers)
    (callers : next.callers = Function.update state.callers caller pc)
    (consistent : record.Consistent errors) (notBuilding : pc.building? = none)
    (placed : ∀ other, pc.placed? = some other → other = item ∧ record.stage.Accepted)
    (place : next.queue = state.queue ++ [item] ∧ record.stage = .queued ∨
      next.queue = state.queue ∧
        (record.stage = .reclaimed ∨ ∃ status, record.stage = .refused status)) :
    Lifecycle errors next := by
  have built : (state.items item).stage = .built := inv.building caller item isBuilding
  have other_item : ∀ other, other ≠ item → next.items other = state.items other := by
    intro other isOther
    rw [items, Function.update_of_ne isOther]
  have this_item : next.items item = record := by rw [items, Function.update_self]
  have notQueued : item ∉ state.queue := by
    rw [inv.mem_queue, built]
    simp
  have otherBuilding : ∀ other moved, (next.callers other).building? = some moved →
      other ≠ caller ∧ moved ≠ item ∧ (state.callers other).building? = some moved := by
    intro other moved isMoved
    rw [callers, Function.update_apply] at isMoved
    split at isMoved
    · rw [notBuilding] at isMoved
      cases isMoved
    case isFalse isOther =>
      refine ⟨isOther, ?_, isMoved⟩
      rintro rfl
      exact isOther (inv.building_unique other caller moved isMoved isBuilding)
  refine ⟨?_, ?_, ?_, ?_, ?_, ?_, ?_, ?_, ?_, ?_⟩
  · intro other isFresh
    rw [nextItem] at isFresh
    have unborn := inv.fresh other isFresh
    rw [other_item other (by rintro rfl; simp [built] at unborn)]
    exact unborn
  · rcases place with ⟨queue, _⟩ | ⟨queue, _⟩
    · rw [queue, ← List.concat_eq_append]
      exact inv.queue_nodup.concat notQueued
    · rw [queue]
      exact inv.queue_nodup
  · intro other
    by_cases isItem : other = item
    · subst isItem
      rw [this_item]
      rcases place with ⟨queue, stage⟩ | ⟨queue, stage | ⟨status, stage⟩⟩
      all_goals simp [queue, stage, notQueued]
    · rw [other_item other isItem, ← inv.mem_queue other]
      rcases place with ⟨queue, _⟩ | ⟨queue, _⟩
      all_goals simp [queue, isItem]
  · intro worker other
    rw [workers, inv.held]
    by_cases isItem : other = item
    · subst isItem
      rw [this_item, built]
      rcases place with ⟨_, stage⟩ | ⟨_, stage | ⟨status, stage⟩⟩
      all_goals simp [stage]
    · rw [other_item other isItem]
  · intro other moved isMoved
    rcases otherBuilding other moved isMoved with ⟨_, notItem, before⟩
    rw [other_item moved notItem]
    exact inv.building other moved before
  · intro first second moved firstBuilding secondBuilding
    exact inv.building_unique first second moved (otherBuilding first moved firstBuilding).2.2
      (otherBuilding second moved secondBuilding).2.2
  · intro other moved isPlaced
    rw [callers, Function.update_apply] at isPlaced
    split at isPlaced
    · rcases placed moved isPlaced with ⟨rfl, accepted⟩
      rw [this_item]
      exact accepted
    · have before := inv.placed other moved isPlaced
      rw [other_item moved (by rintro rfl; simp [built, Stage.Accepted] at before)]
      exact before
  · have notPlaced : ∀ other, (state.callers other).placed? ≠ some item := by
      intro other isPlaced
      have before := inv.placed other item isPlaced
      rw [built] at before
      exact before
    intro first second moved firstPlaced secondPlaced
    rw [callers, Function.update_apply] at firstPlaced secondPlaced
    split at firstPlaced <;> split at secondPlaced
    case isTrue.isTrue isFirst isSecond => rw [isFirst, isSecond]
    · rcases placed moved firstPlaced with ⟨rfl, _⟩
      exact absurd secondPlaced (notPlaced second)
    · rcases placed moved secondPlaced with ⟨rfl, _⟩
      exact absurd firstPlaced (notPlaced first)
    · exact inv.placed_unique first second moved firstPlaced secondPlaced
  · intro other
    rw [items, Function.update_apply]
    split
    · exact consistent
    · exact inv.item_consistent other
  · intro worker
    rw [workers]
    refine worker_consistent_congr (inv.worker_consistent worker) fun other holds => ?_
    have isHeld := (inv.held worker other).mp holds
    rw [other_item other (by rintro rfl; simp [built] at isHeld)]
    exact ⟨rfl, rfl⟩

theorem erase_held (inv : Lifecycle errors state) {worker : Fin config.workerCount}
    {item : ItemId} (isHeld : (state.items item).stage = .held worker) :
    state.queue.erase item = state.queue := by
  refine List.erase_of_not_mem ?_
  rw [inv.mem_queue, isHeld]
  nofun

theorem held_unique (inv : Lifecycle errors state) {worker other : Fin config.workerCount}
    {item : ItemId} (isHeld : (state.items item).stage = .held worker)
    (holds : (state.workers other).item? = some item) : other = worker := by
  rw [inv.held, isHeld] at holds
  exact (Stage.held.inj holds).symm

/-- One item moves to a worker, stays with it or leaves it; nobody else points at that item. -/
theorem moves (inv : Lifecycle errors state) {worker : Fin config.workerCount} {item : ItemId}
    {pc : Worker Outcome} {record : Item config.workerCount Outcome}
    (queue : next.queue = state.queue.erase item) (nextItem : next.nextItem = state.nextItem)
    (items : next.items = Function.update state.items item record)
    (workers : next.workers = Function.update state.workers worker pc)
    (callers : next.callers = state.callers) (accepted : (state.items item).stage.Accepted)
    (before : ∀ other, (state.workers other).item? = some item → other = worker)
    (own : ∀ other, (state.workers worker).item? = some other → other = item)
    (after : pc.item? = some item ∧ record.stage = .held worker ∨
      pc.item? = none ∧ record.stage = .delivered)
    (consistent : record.Consistent errors) (knows : pc.Consistent errors next.items) :
    Lifecycle errors next := by
  have other_item : ∀ other, other ≠ item → next.items other = state.items other := by
    intro other isOther
    rw [items, Function.update_of_ne isOther]
  have this_item : next.items item = record := by rw [items, Function.update_self]
  have mem_queue : ∀ other, other ∈ next.queue ↔ other ≠ item ∧ other ∈ state.queue := by
    intro other
    rw [queue, inv.queue_nodup.mem_erase_iff]
  have notQueued : record.stage ≠ .queued := by
    rcases after with ⟨_, stage⟩ | ⟨_, stage⟩ <;> simp [stage]
  refine ⟨?_, ?_, ?_, ?_, ?_, ?_, ?_, ?_, ?_, ?_⟩
  · intro other isFresh
    have unborn := inv.fresh other (nextItem ▸ isFresh)
    rw [other_item other (by rintro rfl; simp [unborn, Stage.Accepted] at accepted)]
    exact unborn
  · rw [queue]
    exact inv.queue_nodup.erase item
  · intro other
    by_cases isItem : other = item
    · subst isItem
      simp [mem_queue, this_item, notQueued]
    · rw [mem_queue, other_item other isItem, inv.mem_queue]
      simp [isItem]
  · intro other moved
    rw [workers, Function.update_apply]
    by_cases isItem : moved = item
    · subst isItem
      rw [this_item]
      split
      case isTrue isWorker =>
        rcases after with ⟨holds, stage⟩ | ⟨free, stage⟩
        · simp [holds, stage, isWorker]
        · simp [free, stage]
      case isFalse isOther =>
        refine iff_of_false (fun holds => isOther (before other holds)) ?_
        rcases after with ⟨_, stage⟩ | ⟨_, stage⟩
        · simpa [stage] using Ne.symm isOther
        · simp [stage]
    · rw [other_item moved isItem, ← inv.held]
      split
      case isTrue isWorker =>
        subst isWorker
        refine iff_of_false ?_ fun holds => isItem (own moved holds)
        rcases after with ⟨holds, _⟩ | ⟨free, _⟩
        · simpa [holds] using Ne.symm isItem
        · simp [free]
      case isFalse => rfl
  · intro caller moved isBuilding
    have built := inv.building caller moved (callers ▸ isBuilding)
    rw [other_item moved (by rintro rfl; simp [built, Stage.Accepted] at accepted)]
    exact built
  · rw [callers]
    exact inv.building_unique
  · intro caller moved isPlaced
    by_cases isItem : moved = item
    · subst isItem
      rw [this_item]
      rcases after with ⟨_, stage⟩ | ⟨_, stage⟩ <;> simp [stage, Stage.Accepted]
    · rw [other_item moved isItem]
      exact inv.placed caller moved (callers ▸ isPlaced)
  · rw [callers]
    exact inv.placed_unique
  · intro other
    by_cases isItem : other = item
    · subst isItem
      rw [this_item]
      exact consistent
    · rw [other_item other isItem]
      exact inv.item_consistent other
  · intro other
    rw [workers, Function.update_apply]
    split
    · exact knows
    case isFalse isOther =>
      refine worker_consistent_congr (inv.worker_consistent other) fun moved holds => ?_
      rw [other_item moved (by rintro rfl; exact isOther (before other holds))]
      exact ⟨rfl, rfl⟩

/-- A worker takes the front of the queue. -/
theorem take (inv : Lifecycle errors state) {worker : Fin config.workerCount} {item : ItemId}
    (front : state.queue = item :: next.queue)
    (nextItem : next.nextItem = state.nextItem)
    (items : next.items = Function.update state.items item
      { state.items item with stage := .held worker })
    (workers : next.workers = Function.update state.workers worker (.popped item))
    (callers : next.callers = state.callers)
    (free : (state.workers worker).item? = none) :
    Lifecycle errors next := by
  have queued : (state.items item).stage = .queued := by
    rw [← inv.mem_queue, front]
    exact List.mem_cons_self
  have history := inv.item_consistent item
  rw [Item.Consistent, queued] at history
  refine inv.moves ?_ nextItem items workers callers ?_ ?_ ?_ (.inl ⟨rfl, rfl⟩) history.1 ?_
  · rw [front, List.erase_cons_head]
  · rw [queued]
    trivial
  · intro other holds
    rw [inv.held, queued] at holds
    cases holds
  · rw [free]
    nofun
  · simp [Worker.Consistent, items, history.2]

/-- A worker goes on with its item, which stays with it. -/
theorem progress (inv : Lifecycle errors state) {worker : Fin config.workerCount} {item : ItemId}
    {pc : Worker Outcome} {record : Item config.workerCount Outcome}
    (holds : (state.workers worker).item? = some item)
    (queue : next.queue = state.queue) (nextItem : next.nextItem = state.nextItem)
    (items : next.items = Function.update state.items item record)
    (workers : next.workers = Function.update state.workers worker pc)
    (callers : next.callers = state.callers) (sameItem : pc.item? = some item)
    (sameStage : record.stage = (state.items item).stage)
    (samePromise : record.promise = (state.items item).promise)
    (consistent : pc.Consistent errors next.items) :
    Lifecycle errors next := by
  have isHeld : (state.items item).stage = .held worker := (inv.held worker item).mp holds
  have promise := inv.item_consistent item
  rw [Item.Consistent, isHeld] at promise
  refine inv.moves (queue.trans (inv.erase_held isHeld).symm) nextItem items workers callers ?_
    (fun _ => inv.held_unique isHeld) ?_ (.inl ⟨sameItem, sameStage.trans isHeld⟩) ?_ consistent
  · rw [isHeld]
    trivial
  · intro other otherHolds
    exact Option.some.inj (otherHolds.symm.trans holds)
  · rw [Item.Consistent, sameStage, isHeld]
    exact samePromise.trans promise

/-- A worker sets the promise of its item and lets the item go. -/
theorem deliver (inv : Lifecycle errors state) {worker : Fin config.workerCount} {item : ItemId}
    {outcome : Outcome} (pc : state.workers worker = .erased item outcome)
    (queue : next.queue = state.queue) (nextItem : next.nextItem = state.nextItem)
    (items : next.items = Function.update state.items item
      { state.items item with
        promise := (state.items item).promise ++ [outcome]
        stage := .delivered })
    (workers : next.workers = Function.update state.workers worker .delivered)
    (callers : next.callers = state.callers) :
    Lifecycle errors next := by
  have isHeld : (state.items item).stage = .held worker := by
    rw [← inv.held, pc]
    rfl
  have promise := inv.item_consistent item
  rw [Item.Consistent, isHeld] at promise
  have history := inv.worker_consistent worker
  rw [pc] at history
  rcases history with ⟨started, result, results, isOutcome⟩
  refine inv.moves (queue.trans (inv.erase_held isHeld).symm) nextItem items workers callers ?_
    (fun _ => inv.held_unique isHeld) ?_ (.inr ⟨rfl, rfl⟩) ⟨started, result, results, ?_⟩ trivial
  · rw [isHeld]
    trivial
  · intro other otherHolds
    rw [pc] at otherHolds
    exact (Option.some.inj otherHolds).symm
  · simp [promise, isOutcome]

/-- Only a caller's program counter changes, and it points at no new item. -/
theorem stay_caller (inv : Lifecycle errors state) {caller : Fin callerCount} {pc : Caller}
    (queue : next.queue = state.queue) (nextItem : next.nextItem = state.nextItem)
    (items : ∀ item, next.items item = state.items item ∨
      next.items item = State.cancelItem (state.items item))
    (workers : next.workers = state.workers)
    (callers : next.callers = Function.update state.callers caller pc)
    (notBuilding : pc.building? = none)
    (placed : ∀ item, pc.placed? = some item → (state.callers caller).placed? = some item) :
    Lifecycle errors next := by
  refine inv.stay queue nextItem items (fun worker => .inl (by rw [workers])) fun other => ?_
  rw [callers, Function.update_apply]
  split
  case isTrue isCaller => exact .inr ⟨notBuilding, isCaller ▸ placed⟩
  case isFalse => exact .inl rfl

/-- Only the program counter of a worker without an item changes. -/
theorem stay_worker (inv : Lifecycle errors state) {worker : Fin config.workerCount}
    {pc : Worker Outcome} (queue : next.queue = state.queue)
    (nextItem : next.nextItem = state.nextItem) (items : next.items = state.items)
    (workers : next.workers = Function.update state.workers worker pc)
    (callers : next.callers = state.callers) (before : (state.workers worker).item? = none)
    (after : pc.item? = none) : Lifecycle errors next := by
  refine inv.stay queue nextItem (fun item => .inl (by rw [items])) (fun other => ?_)
    fun caller => .inl (by rw [callers])
  rw [workers, Function.update_apply]
  split
  case isTrue isWorker => exact .inr ⟨isWorker ▸ before, after⟩
  case isFalse => exact .inl rfl

end Lifecycle

/-- Every branch of the source keeps the life of every item in order. -/
theorem Lifecycle.step {state next : State config callerCount Outcome}
    {label : Label config callerCount Outcome} (inv : Lifecycle errors state)
    (transition : Transition errors state label next) : Lifecycle errors next := by
  have keep : ∀ item, state.items item = state.items item ∨
      state.items item = State.cancelItem (state.items item) := fun _ => .inl rfl
  have sweep : ∀ item, state.cancelAll.items item = state.items item ∨
      state.cancelAll.items item = State.cancelItem (state.items item) := by
    intro item
    simp only [State.cancelAll]
    split
    · exact .inr rfl
    · exact .inl rfl
  cases transition with
  | submitBegins caller task pc | commitBegins caller outcome task purpose pc =>
      exact inv.build rfl rfl rfl rfl rfl rfl ⟨rfl, rfl, rfl⟩ rfl rfl
  | submitRefused caller item status pc notAccepted =>
      have isBuilding : (state.callers caller).building? = some item := by rw [pc]; rfl
      have before := inv.untouched isBuilding
      exact inv.leave isBuilding rfl rfl rfl rfl before rfl (fun _ placed => nomatch placed)
        (.inr ⟨rfl, .inr ⟨status, rfl⟩⟩)
  | submitAccepted caller item pc running room =>
      have isBuilding : (state.callers caller).building? = some item := by rw [pc]; rfl
      have before := inv.untouched isBuilding
      exact inv.leave isBuilding rfl rfl rfl rfl before rfl
        (fun _ placed => ⟨(Option.some.inj placed).symm, trivial⟩) (.inl ⟨rfl, rfl⟩)
  | reserveDenied | commitDenied | shutdownAgain => exact inv
  | reserves caller purpose pc room =>
      exact inv.stay_caller rfl rfl keep rfl rfl rfl fun _ placed => nomatch placed
  | releases caller outcome task purpose pc =>
      rw [releaseSlot_eq]
      exact inv.stay_caller rfl rfl keep rfl rfl rfl fun _ placed => nomatch placed
  | commitReclaimed caller purpose item pc recycled =>
      have isBuilding : (state.callers caller).building? = some item := by rw [pc]; rfl
      have before := inv.untouched isBuilding
      rw [releaseSlot_eq]
      refine inv.leave isBuilding rfl rfl rfl rfl ⟨?_, before.2⟩ (afterPublishing_building _ _)
        (fun _ placed => ⟨afterPublishing_placed placed, trivial⟩) (.inr ⟨rfl, .inl rfl⟩)
      simp [before.1]
  | commitCancelled caller purpose item pc open_ stopping =>
      have isBuilding : (state.callers caller).building? = some item := by rw [pc]; rfl
      have before := inv.untouched isBuilding
      rw [releaseSlot_eq]
      refine inv.leave isBuilding rfl (Function.update_idem _ _ _) rfl rfl ?_ rfl
        (fun _ placed => ⟨(Option.some.inj placed).symm, ?_⟩) (.inl ⟨rfl, rfl⟩)
      · simpa [Item.Consistent] using before
      · trivial
  | commitQueued caller purpose item pc open_ running =>
      have isBuilding : (state.callers caller).building? = some item := by rw [pc]; rfl
      have before := inv.untouched isBuilding
      rw [releaseSlot_eq]
      exact inv.leave isBuilding rfl rfl rfl rfl before rfl
        (fun _ placed => ⟨(Option.some.inj placed).symm, trivial⟩) (.inl ⟨rfl, rfl⟩)
  | publishes caller purpose item pc =>
      refine inv.stay_caller rfl rfl keep rfl rfl (afterPublishing_building _ _) ?_
      intro other placed
      rw [pc, afterPublishing_placed placed]
      rfl
  | receives caller item pc ready =>
      exact inv.stay_caller rfl rfl keep rfl rfl rfl fun _ placed => nomatch placed
  | cancels => exact inv.stay rfl rfl sweep (fun _ => .inl rfl) fun _ => .inl rfl
  | shutdownCancels caller pc =>
      exact inv.stay_caller rfl rfl sweep rfl rfl rfl fun _ placed => nomatch placed
  | shutdownBegins caller | shutdownStops caller | shutdownJoins caller
  | shutdownLoads caller | shutdownReturns caller =>
      exact inv.stay_caller rfl rfl keep rfl rfl rfl fun _ placed => nomatch placed
  | pops worker result item rest pc nonempty =>
      exact inv.take nonempty rfl rfl rfl rfl (by rw [pc]; rfl)
  | exits worker result pc empty stopping =>
      exact inv.stay_worker rfl rfl rfl rfl rfl (by rw [pc]; rfl) rfl
  | activates worker result item pc =>
      have before := inv.worker_consistent worker
      rw [pc] at before
      exact inv.progress (by rw [pc]; rfl) rfl rfl (Function.update_eq_self _ _).symm rfl rfl rfl
        rfl rfl before
  | starts worker result item pc =>
      have before := inv.worker_consistent worker
      rw [pc] at before
      refine inv.progress (by rw [pc]; rfl) rfl rfl rfl rfl rfl rfl rfl rfl ?_
      simpa [Worker.Consistent] using before
  | handlerEnds worker result item pc =>
      have before := inv.worker_consistent worker
      rw [pc] at before
      refine inv.progress (by rw [pc]; rfl) rfl rfl rfl rfl rfl rfl rfl rfl ?_
      have history : (state.items item).started = 1 ∧ (state.items item).results = [] := before
      simp [Worker.Consistent, history]
  | completes worker result item outcome pc =>
      have before := inv.worker_consistent worker
      rw [pc] at before
      exact inv.progress (by rw [pc]; rfl) rfl rfl (Function.update_eq_self _ _).symm rfl rfl rfl
        rfl rfl before
  | erases worker result item outcome pc =>
      have before := inv.worker_consistent worker
      rw [pc] at before
      exact inv.progress (by rw [pc]; rfl) rfl rfl (Function.update_eq_self _ _).symm rfl rfl rfl
        rfl rfl before
  | delivers worker result item outcome pc => exact inv.deliver pc rfl rfl rfl rfl rfl
  | deactivates worker result pc =>
      exact inv.stay_worker rfl rfl rfl rfl rfl (by rw [pc]; rfl) rfl

theorem Lifecycle.initial : Lifecycle errors (State.initial config callerCount Outcome) where
  fresh _ _ := rfl
  queue_nodup := List.nodup_nil
  mem_queue _ := by simp [State.initial]
  held _ _ := by simp [State.initial, Worker.item?]
  building _ _ isBuilding := nomatch isBuilding
  building_unique _ _ _ isBuilding := nomatch isBuilding
  placed _ _ placed := nomatch placed
  placed_unique _ _ _ placed := nomatch placed
  item_consistent _ := ⟨rfl, rfl, rfl⟩
  worker_consistent _ := trivial

theorem Lifecycle.of_reaches
    {allowed : State config callerCount Outcome → Label config callerCount Outcome → Prop}
    {state : State config callerCount Outcome}
    (reaches : (system config callerCount errors).Reaches allowed
      (State.initial config callerCount Outcome) state) : Lifecycle errors state :=
  invariant_of_transition reaches .initial fun _ _ _ _ inv _ => inv.step

end JudgeManager

end OnlineJudge.Judge
