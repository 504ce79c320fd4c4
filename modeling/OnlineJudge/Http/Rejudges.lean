import OnlineJudge.Db.Submissions
import OnlineJudge.Judge.Manager.Shutdown

/-!
# Rejudging a submission once at a time

`handle_admin_rejudge` remembers the submissions that are being rejudged in
`rejudge_in_flight_`. A guard with the lifetime of the request takes the identifier out
again, while the work is done by a worker of the scheduler. The model puts the threads
of this handler on top of the scheduler: a thread of the handler is a caller of it, and
every critical section of either component is one step.
-/

namespace OnlineJudge.Http

open Judge Judge.JudgeManager Db

namespace Rejudges

/-- Where a thread stands in `handle_admin_rejudge`. -/
inductive Handler where
  /-- Elsewhere: before the submission was found, after the return, or in another handler. -/
  | away
  /-- The submission was found; the critical section of `rejudge_mutex_` is next. -/
  | found (submissionId : ℤ) (record : SubmissionRecord) (now : Bytes)
  /-- Has created the guard; the call of `submit` is next. -/
  | guarded (submissionId : ℤ) (record : SubmissionRecord) (now : Bytes)
  /-- In `submit`, or waiting for the result. -/
  | waiting (submissionId : ℤ)
  /-- The response is composed; the destructor of the guard is next. -/
  | leaving (submissionId : ℤ)

/-- The identifier that the guard of a thread protects. -/
def Handler.guards? : Handler → Option ℤ
  | .guarded submissionId _ _ | .waiting submissionId | .leaving submissionId =>
      some submissionId
  | .away | .found _ _ _ => none

/-- The handler after the scheduler has advanced its call; `idle` tells that the call is over. -/
def Handler.afterCall (idle : Bool) : Handler → Handler
  | .waiting submissionId => if idle then .leaving submissionId else .waiting submissionId
  | handler => handler

@[simp]
theorem Handler.guards?_afterCall (handler : Handler) (idle : Bool) :
    (handler.afterCall idle).guards? = handler.guards? := by
  cases handler with
  | waiting submissionId => cases idle <;> rfl
  | _ => rfl

def rejudgeTask (submissionId : ℤ) (record : SubmissionRecord) (now : Bytes) :
    SubmissionTask where
  userId := record.userId
  problemId := record.problemId
  language := record.language
  sourceCode := record.sourceCode
  viewerIsAdmin := true
  submittedAt := now
  rejudgeSubmissionId := submissionId

structure State (config : Config) (callerCount : ℕ) (Outcome : Type) where
  manager : JudgeManager.State config callerCount Outcome
  rejudgeInFlight : Finset ℤ
  handlers : Fin callerCount → Handler

inductive Label (config : Config) (callerCount : ℕ) (Outcome : Type) where
  /-- A request has passed its checks: an administrator asks for a submission that exists. -/
  | find (caller : Fin callerCount) (submissionId : ℤ) (record : SubmissionRecord) (now : Bytes)
  | enter (caller : Fin callerCount)
  | submit (caller : Fin callerCount)
  /-- Everything else that the scheduler and its callers do. -/
  | manager (label : JudgeManager.Label config callerCount Outcome)
  | release (caller : Fin callerCount)

variable {config : Config} {callerCount : ℕ} {Outcome : Type} (errors : Errors Outcome)

namespace State

def initial (config : Config) (callerCount : ℕ) (Outcome : Type) :
    State config callerCount Outcome where
  manager := .initial config callerCount Outcome
  rejudgeInFlight := ∅
  handlers := fun _ => .away

def setHandler (state : State config callerCount Outcome) (caller : Fin callerCount)
    (handler : Handler) : State config callerCount Outcome :=
  { state with handlers := Function.update state.handlers caller handler }

/-- Whether a thread is free to make other calls. -/
def isAway (state : State config callerCount Outcome) (caller : Fin callerCount) : Bool :=
  match state.handlers caller with
  | .away => true
  | _ => false

/-- What the other users of the scheduler do: a thread inside the handler makes no other call,
nobody else calls `submit`, and only this handler makes tasks that rejudge. -/
def permits (state : State config callerCount Outcome) :
    JudgeManager.Label config callerCount Outcome → Bool
  | .submit _ _ => false
  | .reserve caller _ | .commitRefused caller _ | .shutdown caller => state.isAway caller
  | .resume caller _ task => state.isAway caller && task.rejudgeSubmissionId = 0
  | .caller _ | .cancelAll | .worker _ _ => true

/-- A thread of the handler whose call of the scheduler is over goes on to its end. -/
def afterManager (state : State config callerCount Outcome)
    (label : JudgeManager.Label config callerCount Outcome)
    (manager : JudgeManager.State config callerCount Outcome) :
    State config callerCount Outcome :=
  match label with
  | .caller caller =>
      setHandler { state with manager := manager } caller
        ((state.handlers caller).afterCall (manager.callers caller = .idle))
  | _ => { state with manager := manager }

end State

/-- One step of the handler's threads, the scheduler and its other users. -/
def step (state : State config callerCount Outcome) :
    Label config callerCount Outcome → Option (State config callerCount Outcome)
  | .find caller submissionId record now =>
      match state.handlers caller, state.manager.callers caller with
      | .away, .idle =>
          if 0 < submissionId then
            some (state.setHandler caller (.found submissionId record now))
          else none
      | _, _ => none
  | .enter caller =>
      match state.handlers caller with
      | .found submissionId record now =>
          if submissionId ∈ state.rejudgeInFlight then some (state.setHandler caller .away)
          else
            some (State.setHandler
              { state with rejudgeInFlight := insert submissionId state.rejudgeInFlight } caller
              (.guarded submissionId record now))
      | _ => none
  | .submit caller =>
      match state.handlers caller with
      | .guarded submissionId record now =>
          (JudgeManager.step errors state.manager
            (.submit caller (rejudgeTask submissionId record now))).map fun manager =>
              State.setHandler { state with manager := manager } caller (.waiting submissionId)
      | _ => none
  | .manager label =>
      if state.permits label then
        (JudgeManager.step errors state.manager label).map (state.afterManager label)
      else none
  | .release caller =>
      match state.handlers caller with
      | .leaving submissionId =>
          some (State.setHandler
            { state with rejudgeInFlight := state.rejudgeInFlight.erase submissionId } caller
            .away)
      | _ => none

def system (config : Config) (callerCount : ℕ) (errors : Errors Outcome) :
    Library.TransitionSystem (State config callerCount Outcome)
      (Label config callerCount Outcome) where
  step := step errors

/-- The states of every interleaving of requests, workers and a shutdown. -/
def Reachable (errors : Errors Outcome) (state : State config callerCount Outcome) : Prop :=
  (system config callerCount errors).Reaches Library.TransitionSystem.Unrestricted
    (.initial config callerCount Outcome) state

section Items

variable {manager next : JudgeManager.State config callerCount Outcome}
  {label : JudgeManager.Label config callerCount Outcome} {errors : Errors Outcome}

/-- The task was built, and its handler has not been called to the end. -/
def Unfinished {workerCount : ℕ} : Stage workerCount → Prop
  | .built | .queued | .held _ => True
  | .unborn | .refused _ | .delivered | .reclaimed => False

/-- The item that a call of `submit`, up to its result, is about. -/
def about? : Caller → Option ItemId
  | .submitting item | .publishing .handleAdminRejudge item | .awaiting item => some item
  | _ => none

def callerOf : JudgeManager.Label config callerCount Outcome → Option (Fin callerCount)
  | .submit caller _ | .reserve caller _ | .resume caller _ _ | .commitRefused caller _
  | .caller caller | .shutdown caller => some caller
  | .cancelAll | .worker _ _ => none

theorem callers_of_transition (transition : Transition errors manager label next)
    {caller : Fin callerCount} (other : callerOf label ≠ some caller) :
    next.callers caller = manager.callers caller := by
  have update (caller' : Fin callerCount) (isCaller : callerOf label = some caller')
      (pc : Caller) :
      Function.update manager.callers caller' pc caller = manager.callers caller := by
    refine Function.update_of_ne ?_ _ _
    rintro rfl
    exact other isCaller
  cases transition with
  | releases | commitReclaimed | commitCancelled | commitQueued =>
      rw [releaseSlot_eq]
      exact update _ rfl _
  | _ => first | rfl | exact update _ rfl _

/-- Replacing one item by one with the same task that is unfinished only if it was so before. -/
theorem unfinished_update {items : ItemId → Item config.workerCount Outcome} {item moved : ItemId}
    {changed : Item config.workerCount Outcome}
    (unfinished : Unfinished (Function.update items moved changed item).stage)
    (task : changed.task = (items moved).task)
    (kept : Unfinished changed.stage → Unfinished (items moved).stage) :
    Unfinished (items item).stage ∧
      (Function.update items moved changed item).task = (items item).task := by
  rw [Function.update_apply] at unfinished ⊢
  split at unfinished
  case isTrue isMoved =>
    rw [if_pos isMoved, isMoved]
    exact ⟨kept unfinished, task⟩
  case isFalse isOther =>
    rw [if_neg isOther]
    exact ⟨unfinished, rfl⟩

theorem unfinished_cancelAll {item : ItemId}
    (unfinished : Unfinished (manager.cancelAll.items item).stage) :
    Unfinished (manager.items item).stage ∧
      (manager.cancelAll.items item).task = (manager.items item).task := by
  simp only [State.cancelAll] at unfinished ⊢
  split at unfinished
  case isTrue inReach =>
    rw [if_pos inReach]
    exact ⟨unfinished, rfl⟩
  case isFalse isOther =>
    rw [if_neg isOther]
    exact ⟨unfinished, rfl⟩

/-- An unfinished item was unfinished before, with the same task, or has just been built. -/
theorem unfinished_of_transition (lifecycle : Lifecycle errors manager)
    (transition : Transition errors manager label next) {item : ItemId}
    (unfinished : Unfinished (next.items item).stage) :
    (Unfinished (manager.items item).stage ∧ (next.items item).task = (manager.items item).task) ∨
      item = manager.nextItem ∧ ∃ caller task,
        (next.items item).task.rejudgeSubmissionId = task.rejudgeSubmissionId ∧
        (label = .submit caller task ∨ ∃ outcome, label = .resume caller outcome task) := by
  cases transition with
  | submitBegins caller task pc =>
      by_cases new : item = manager.nextItem
      · refine .inr ⟨new, caller, task, ?_, .inl rfl⟩
        subst new
        simp only [State.setCaller, State.buildItem, Function.update_self]
        split <;> rfl
      · left
        simpa [State.setCaller, State.buildItem, new] using unfinished
  | commitBegins caller outcome task purpose pc =>
      by_cases new : item = manager.nextItem
      · refine .inr ⟨new, caller, task, ?_, .inr ⟨outcome, rfl⟩⟩
        subst new
        simp only [State.setCaller, State.buildItem, Function.update_self]
        split <;> rfl
      · left
        simpa [State.setCaller, State.buildItem, new] using unfinished
  | submitRefused caller moved status pc | delivers worker result moved outcome pc =>
      exact .inl (unfinished_update unfinished rfl fun impossible => impossible.elim)
  | commitReclaimed caller purpose moved pc =>
      rw [releaseSlot_eq] at unfinished ⊢
      exact .inl (unfinished_update unfinished rfl fun impossible => impossible.elim)
  | submitAccepted caller moved pc =>
      refine .inl (unfinished_update unfinished rfl fun _ => ?_)
      rw [lifecycle.building caller moved (by rw [pc]; rfl)]
      trivial
  | commitQueued caller purpose moved pc =>
      rw [releaseSlot_eq] at unfinished ⊢
      refine .inl (unfinished_update unfinished rfl fun _ => ?_)
      rw [lifecycle.building caller moved (by rw [pc]; rfl)]
      trivial
  | commitCancelled caller purpose moved pc =>
      left
      simp only [releaseSlot_eq, State.setCaller, State.enqueue, State.modifyItem,
        Function.update_idem, Function.update_self] at unfinished ⊢
      refine unfinished_update unfinished rfl fun _ => ?_
      rw [lifecycle.building caller moved (by rw [pc]; rfl)]
      trivial
  | cancels => exact .inl (unfinished_cancelAll unfinished)
  | shutdownCancels caller pc => exact .inl (unfinished_cancelAll unfinished)
  | pops worker result moved rest pc nonempty =>
      left
      refine unfinished_update unfinished rfl fun _ => ?_
      rw [(lifecycle.mem_queue moved).mp (by rw [nonempty]; exact List.mem_cons_self)]
      trivial
  | starts worker result moved pc | handlerEnds worker result moved pc =>
      exact .inl (unfinished_update unfinished rfl id)
  | releases caller outcome task purpose pc =>
      rw [releaseSlot_eq] at unfinished ⊢
      exact .inl ⟨unfinished, rfl⟩
  | _ => exact .inl ⟨unfinished, rfl⟩

/-- A call of `submit` lasts until its item is finished. -/
theorem about_of_transition (lifecycle : Lifecycle errors manager)
    (transition : Transition errors manager label next) {caller : Fin callerCount} {item : ItemId}
    (about : about? (manager.callers caller) = some item)
    (unfinished : Unfinished (next.items item).stage) :
    about? (next.callers caller) = some item := by
  by_cases own : callerOf label = some caller
  · cases transition with
    | submitRefused _ moved status pc =>
        cases own
        rw [pc] at about
        cases about
        simp [Unfinished] at unfinished
    | submitAccepted _ moved pc =>
        cases own
        rw [pc] at about
        simpa [about?] using about
    | publishes _ purpose moved pc =>
        cases own
        rw [pc] at about
        cases purpose with
        | handleAdminRejudge => simpa [about?, State.afterPublishing] using about
        | handleSubmit | recovery => cases about
    | receives _ moved pc ready =>
        cases own
        rw [pc] at about
        cases about
        have consistent := lifecycle.item_consistent item
        change Unfinished (manager.items item).stage at unfinished
        revert consistent
        unfold Item.Consistent
        cases stage : (manager.items item).stage with
        | built | queued => exact fun consistent => absurd consistent.1 ready
        | held worker => exact fun consistent => absurd consistent ready
        | unborn | refused status | delivered | reclaimed => simp [stage, Unfinished] at unfinished
    | submitBegins _ task pc | reserves _ purpose pc | releases _ outcome task purpose pc
    | commitBegins _ outcome task purpose pc | commitReclaimed _ purpose moved pc
    | commitCancelled _ purpose moved pc | commitQueued _ purpose moved pc
    | shutdownBegins _ pc | shutdownCancels _ pc | shutdownStops _ pc | shutdownJoins _ pc
    | shutdownLoads _ pc | shutdownReturns _ accepted pc =>
        cases own
        rw [pc] at about
        cases about
    | reserveDenied | commitDenied | shutdownAgain => exact about
    | _ => cases own
  · rw [callers_of_transition transition own]
    exact about

/-- The steps that a call of `submit` still takes, the wait for the result included. -/
def stepsLeft : Caller → ℕ
  | .submitting _ => 3
  | .publishing _ _ => 2
  | .awaiting _ => 1
  | _ => 0

/-- A step of a call of `submit` ends the call or brings it nearer to its end. -/
theorem submit_advances {caller : Fin callerCount}
    (transition : Transition errors manager (.caller caller) next)
    (inSubmit : (about? (manager.callers caller)).isSome) :
    stepsLeft (next.callers caller) < stepsLeft (manager.callers caller) ∧
      (next.callers caller = .idle ∨ (about? (next.callers caller)).isSome) := by
  cases transition with
  | submitRefused _ moved status pc | submitAccepted _ moved pc | receives _ moved pc =>
      simp [pc, stepsLeft, about?]
  | publishes _ purpose moved pc =>
      rw [pc] at inSubmit
      cases purpose with
      | handleAdminRejudge => simp [pc, stepsLeft, about?, State.afterPublishing]
      | handleSubmit | recovery => cases inSubmit
  | commitReclaimed _ purpose moved pc | commitCancelled _ purpose moved pc
  | commitQueued _ purpose moved pc | shutdownCancels _ pc | shutdownStops _ pc
  | shutdownJoins _ pc | shutdownLoads _ pc | shutdownReturns _ accepted pc =>
      rw [pc] at inSubmit
      cases inSubmit

theorem not_idle_of_caller {caller : Fin callerCount}
    (transition : Transition errors manager (.caller caller) next) :
    manager.callers caller ≠ .idle := by
  intro idle
  cases transition <;> simp_all

end Items

/-- A guard protects each remembered identifier, and every unfinished task that rejudges belongs to
a request that waits for it. -/
structure Guarded (state : State config callerCount Outcome) : Prop where
  guards_iff : ∀ submissionId, submissionId ∈ state.rejudgeInFlight ↔
    ∃ caller, (state.handlers caller).guards? = some submissionId
  guards_unique : ∀ caller other submissionId,
    (state.handlers caller).guards? = some submissionId →
    (state.handlers other).guards? = some submissionId → caller = other
  owned : ∀ item, Unfinished (state.manager.items item).stage →
    (state.manager.items item).task.rejudgeSubmissionId ≠ 0 →
    ∃ caller, state.handlers caller =
        .waiting (state.manager.items item).task.rejudgeSubmissionId ∧
      about? (state.manager.callers caller) = some item

namespace Guarded

variable {state next : State config callerCount Outcome} {errors : Errors Outcome}

/-- A thread that holds no guard before and after leaves everything in order. -/
theorem setHandler_of_none (inv : Guarded state) {caller : Fin callerCount} {handler : Handler}
    (before : (state.handlers caller).guards? = none) (after : handler.guards? = none) :
    Guarded (state.setHandler caller handler) := by
  have guards (other : Fin callerCount) :
      ((state.setHandler caller handler).handlers other).guards? =
        (state.handlers other).guards? := by
    simp only [State.setHandler, Function.update_apply]
    split
    case isTrue isCaller => rw [isCaller, before, after]
    case isFalse => rfl
  refine ⟨?_, ?_, ?_⟩
  · intro submissionId
    simp only [guards]
    exact inv.guards_iff submissionId
  · intro first other submissionId
    simp only [guards]
    exact inv.guards_unique first other submissionId
  · intro item unfinished rejudges
    rcases inv.owned item unfinished rejudges with ⟨holder, waits, about⟩
    refine ⟨holder, ?_, about⟩
    simp only [State.setHandler]
    rw [Function.update_of_ne]
    · exact waits
    · rintro rfl
      simp [waits, Handler.guards?] at before

/-- The guard is created in the critical section that finds the identifier absent. -/
theorem enter (inv : Guarded state) {caller : Fin callerCount} {submissionId : ℤ}
    {record : SubmissionRecord} {now : Bytes}
    (before : state.handlers caller = .found submissionId record now)
    (absent : submissionId ∉ state.rejudgeInFlight) :
    Guarded (State.setHandler
      { state with rejudgeInFlight := insert submissionId state.rejudgeInFlight } caller
      (.guarded submissionId record now)) := by
  have free : ∀ other, (state.handlers other).guards? ≠ some submissionId := fun other guards =>
    absent ((inv.guards_iff submissionId).mpr ⟨other, guards⟩)
  have unguarded : (state.handlers caller).guards? = none := by rw [before]; rfl
  refine ⟨?_, ?_, ?_⟩
  · intro id
    simp only [State.setHandler, Finset.mem_insert, inv.guards_iff, Function.update_apply]
    constructor
    · rintro (rfl | ⟨other, guards⟩)
      · exact ⟨caller, by rw [if_pos rfl]; rfl⟩
      · refine ⟨other, ?_⟩
        rw [if_neg]
        · exact guards
        · rintro rfl
          simp [unguarded] at guards
    · rintro ⟨other, guards⟩
      split at guards
      · exact .inl (Option.some.inj guards).symm
      · exact .inr ⟨other, guards⟩
  · intro first other id firstGuards otherGuards
    simp only [State.setHandler, Function.update_apply] at firstGuards otherGuards
    split at firstGuards
    · split at otherGuards
      case isTrue isFirst isOther => rw [isFirst, isOther]
      case isFalse =>
        rcases Option.some.inj firstGuards with rfl
        exact absurd otherGuards (free other)
    · split at otherGuards
      · rcases Option.some.inj otherGuards with rfl
        exact absurd firstGuards (free first)
      · exact inv.guards_unique first other id firstGuards otherGuards
  · intro item unfinished rejudges
    rcases inv.owned item unfinished rejudges with ⟨holder, waits, about⟩
    refine ⟨holder, ?_, about⟩
    simp only [State.setHandler]
    rw [Function.update_of_ne]
    · exact waits
    · rintro rfl
      simp [before] at waits

/-- Threads may move on as long as they keep their guards. -/
theorem of_guards (inv : Guarded state)
    (rejudgeInFlight : next.rejudgeInFlight = state.rejudgeInFlight)
    (guards : ∀ caller, (next.handlers caller).guards? = (state.handlers caller).guards?)
    (owned : ∀ item, Unfinished (next.manager.items item).stage →
      (next.manager.items item).task.rejudgeSubmissionId ≠ 0 →
      ∃ caller, next.handlers caller =
          .waiting (next.manager.items item).task.rejudgeSubmissionId ∧
        about? (next.manager.callers caller) = some item) : Guarded next := by
  refine ⟨?_, ?_, owned⟩
  · intro submissionId
    simp only [rejudgeInFlight, guards]
    exact inv.guards_iff submissionId
  · intro first other submissionId
    simp only [guards]
    exact inv.guards_unique first other submissionId

theorem submit (inv : Guarded state) (lifecycle : Lifecycle errors state.manager)
    {caller : Fin callerCount} {submissionId : ℤ} {record : SubmissionRecord} {now : Bytes}
    {manager : JudgeManager.State config callerCount Outcome}
    (before : state.handlers caller = .guarded submissionId record now)
    (step : JudgeManager.step errors state.manager
      (.submit caller (rejudgeTask submissionId record now)) = some manager) :
    Guarded (State.setHandler { state with manager := manager } caller
      (.waiting submissionId)) := by
  have transition : Transition errors state.manager
      (.submit caller (rejudgeTask submissionId record now)) manager := Transition.of_step step
  refine inv.of_guards rfl ?_ ?_
  · intro other
    simp only [State.setHandler, Function.update_apply]
    split
    case isTrue isCaller =>
      rw [isCaller, before]
      rfl
    case isFalse => rfl
  · intro item unfinished rejudges
    simp only [State.setHandler] at unfinished rejudges ⊢
    rcases unfinished_of_transition lifecycle transition unfinished with
      ⟨old, task⟩ | ⟨new, builder, task, rejudged, isSubmit | ⟨outcome, isResume⟩⟩
    · rw [task] at rejudges ⊢
      rcases inv.owned item old rejudges with ⟨holder, waits, about⟩
      refine ⟨holder, ?_, about_of_transition lifecycle transition about unfinished⟩
      rw [Function.update_of_ne]
      · exact waits
      · rintro rfl
        simp [before] at waits
    · cases isSubmit
      refine ⟨caller, ?_, ?_⟩
      · rw [Function.update_self, rejudged]
        rfl
      · cases transition
        rw [new]
        simp [about?]
    · cases isResume

theorem manager (inv : Guarded state) (lifecycle : Lifecycle errors state.manager)
    {label : JudgeManager.Label config callerCount Outcome}
    {manager : JudgeManager.State config callerCount Outcome}
    (permitted : state.permits label = true)
    (step : JudgeManager.step errors state.manager label = some manager) :
    Guarded (state.afterManager label manager) := by
  have transition : Transition errors state.manager label manager := Transition.of_step step
  have manager_eq : (state.afterManager label manager).manager = manager := by
    cases label <;> rfl
  have handler_eq (caller : Fin callerCount) :
      (state.afterManager label manager).handlers caller = state.handlers caller ∨
        (state.afterManager label manager).handlers caller =
          (state.handlers caller).afterCall (manager.callers caller = .idle) := by
    cases label with
    | caller advanced =>
        by_cases isCaller : caller = advanced
        · right
          rw [isCaller]
          exact Function.update_self _ _ _
        · exact .inl (Function.update_of_ne isCaller _ _)
    | _ => exact .inl rfl
  refine inv.of_guards (by cases label <;> rfl) ?_ ?_
  · intro caller
    rcases handler_eq caller with same | advanced
    · rw [same]
    · rw [advanced, Handler.guards?_afterCall]
  · intro item unfinished rejudges
    rw [manager_eq] at unfinished rejudges ⊢
    rcases unfinished_of_transition lifecycle transition unfinished with
      ⟨old, task⟩ | ⟨new, builder, task, rejudged, isSubmit | ⟨outcome, isResume⟩⟩
    · rw [task] at rejudges ⊢
      rcases inv.owned item old rejudges with ⟨holder, waits, about⟩
      have still := about_of_transition lifecycle transition about unfinished
      refine ⟨holder, ?_, still⟩
      rcases handler_eq holder with same | advanced
      · rw [same, waits]
      · have busy : manager.callers holder ≠ .idle := by
          intro idle
          simp [idle, about?] at still
        simp [advanced, waits, Handler.afterCall, busy]
    · subst isSubmit
      cases permitted
    · subst isResume
      simp only [State.permits, Bool.and_eq_true, decide_eq_true_eq] at permitted
      exact absurd (rejudged.trans permitted.2) rejudges

/-- The destructor of the guard takes the identifier out. -/
theorem release (inv : Guarded state) {caller : Fin callerCount} {submissionId : ℤ}
    (before : state.handlers caller = .leaving submissionId) :
    Guarded (State.setHandler
      { state with rejudgeInFlight := state.rejudgeInFlight.erase submissionId } caller
      .away) := by
  have guards : (state.handlers caller).guards? = some submissionId := by rw [before]; rfl
  have alone : ∀ other, other ≠ caller → (state.handlers other).guards? ≠ some submissionId :=
    fun other isOther otherGuards =>
      isOther (inv.guards_unique other caller submissionId otherGuards guards)
  refine ⟨?_, ?_, ?_⟩
  · intro id
    simp only [State.setHandler, Finset.mem_erase, inv.guards_iff, Function.update_apply]
    constructor
    · rintro ⟨isOther, other, otherGuards⟩
      refine ⟨other, ?_⟩
      rw [if_neg]
      · exact otherGuards
      · rintro rfl
        rw [guards] at otherGuards
        exact isOther (Option.some.inj otherGuards).symm
    · rintro ⟨other, otherGuards⟩
      split at otherGuards
      · cases otherGuards
      case isFalse isOther =>
        refine ⟨?_, other, otherGuards⟩
        rintro rfl
        exact alone other isOther otherGuards
  · intro first other id firstGuards otherGuards
    simp only [State.setHandler, Function.update_apply] at firstGuards otherGuards
    split at firstGuards
    · cases firstGuards
    · split at otherGuards
      · cases otherGuards
      · exact inv.guards_unique first other id firstGuards otherGuards
  · intro item unfinished rejudges
    rcases inv.owned item unfinished rejudges with ⟨holder, waits, about⟩
    refine ⟨holder, ?_, about⟩
    simp only [State.setHandler]
    rw [Function.update_of_ne]
    · exact waits
    · rintro rfl
      simp [before] at waits

theorem step (inv : Guarded state) (lifecycle : Lifecycle errors state.manager)
    {label : Label config callerCount Outcome}
    (step : Rejudges.step errors state label = some next) : Guarded next := by
  cases label with
  | find caller submissionId record now =>
      simp only [Rejudges.step] at step
      split at step
      case h_1 away idle =>
        split at step
        · cases step
          exact inv.setHandler_of_none (by rw [away]; rfl) rfl
        · cases step
      case h_2 => cases step
  | enter caller =>
      simp only [Rejudges.step] at step
      split at step
      case h_1 submissionId record now found =>
        split at step
        case isTrue =>
          cases step
          exact inv.setHandler_of_none (by rw [found]; rfl) rfl
        case isFalse absent =>
          cases step
          exact inv.enter found absent
      case h_2 => cases step
  | submit caller =>
      simp only [Rejudges.step] at step
      split at step
      case h_1 submissionId record now guarded =>
        rcases Option.map_eq_some_iff.mp step with ⟨manager, submitted, rfl⟩
        exact inv.submit lifecycle guarded submitted
      case h_2 => cases step
  | manager label =>
      simp only [Rejudges.step] at step
      split at step
      case isTrue permitted =>
        rcases Option.map_eq_some_iff.mp step with ⟨manager, advanced, rfl⟩
        exact inv.manager lifecycle permitted advanced
      case isFalse => cases step
  | release caller =>
      simp only [Rejudges.step] at step
      split at step
      case h_1 submissionId leaving =>
        cases step
        exact inv.release leaving
      case h_2 => cases step

theorem initial : Guarded (State.initial config callerCount Outcome) where
  guards_iff _ := by simp [State.initial, Handler.guards?]
  guards_unique _ _ _ guards := nomatch guards
  owned _ unfinished := unfinished.elim

end Guarded

/-- The scheduler under the handler stays or takes a step of its own. -/
theorem manager_of_step {state next : State config callerCount Outcome} {errors : Errors Outcome}
    {label : Label config callerCount Outcome}
    (step : Rejudges.step errors state label = some next) :
    next.manager = state.manager ∨
      ∃ label, Transition errors state.manager label next.manager := by
  cases label with
  | find caller submissionId record now =>
      simp only [Rejudges.step] at step
      split at step
      · split at step
        · cases step
          exact .inl rfl
        · cases step
      · cases step
  | enter caller =>
      simp only [Rejudges.step] at step
      split at step
      · split at step <;> cases step <;> exact .inl rfl
      · cases step
  | submit caller =>
      simp only [Rejudges.step] at step
      split at step
      · rcases Option.map_eq_some_iff.mp step with ⟨manager, submitted, rfl⟩
        have transition : Transition errors state.manager (.submit caller _) manager :=
          Transition.of_step submitted
        exact .inr ⟨_, transition⟩
      · cases step
  | manager label =>
      simp only [Rejudges.step] at step
      split at step
      · rcases Option.map_eq_some_iff.mp step with ⟨manager, advanced, rfl⟩
        have transition : Transition errors state.manager label manager :=
          Transition.of_step advanced
        have same : (state.afterManager label manager).manager = manager := by
          cases label <;> rfl
        rw [same]
        exact .inr ⟨label, transition⟩
      · cases step
  | release caller =>
      simp only [Rejudges.step] at step
      split at step
      · cases step
        exact .inl rfl
      · cases step

/-- Where the scheduler sees a thread of the handler: it makes its one call while it waits. -/
def Placed : Handler → Caller → Prop
  | .away, _ => True
  | .found _ _ _, pc | .guarded _ _ _, pc | .leaving _, pc => pc = .idle
  | .waiting _, pc => (about? pc).isSome

/-- The scheduler takes a thread of the handler further, or leaves it where it is. -/
theorem placed_of_manager {state : State config callerCount Outcome} {errors : Errors Outcome}
    {label : JudgeManager.Label config callerCount Outcome}
    {manager : JudgeManager.State config callerCount Outcome}
    (permitted : state.permits label = true)
    (transition : Transition errors state.manager label manager) {caller : Fin callerCount}
    (placed : Placed (state.handlers caller) (state.manager.callers caller)) :
    Placed ((state.afterManager label manager).handlers caller) (manager.callers caller) := by
  have away (isAway : state.isAway caller = true) : state.handlers caller = .away := by
    simp only [State.isAway] at isAway
    split at isAway
    case h_1 away => exact away
    case h_2 => cases isAway
  by_cases own : callerOf label = some caller
  · cases label with
    | submit other task => cases permitted
    | reserve other purpose | commitRefused other reservation | shutdown other =>
        cases own
        simp only [State.afterManager, away permitted, Placed]
    | resume other outcome task =>
        cases own
        simp only [State.permits, Bool.and_eq_true] at permitted
        simp only [State.afterManager, away permitted.1, Placed]
    | caller other =>
        cases own
        have busy := not_idle_of_caller transition
        simp only [State.afterManager, State.setHandler, Function.update_self]
        cases handler : state.handlers caller with
        | away => trivial
        | found | guarded | leaving =>
            rw [handler] at placed
            exact absurd placed busy
        | waiting submissionId =>
            rw [handler] at placed
            rcases (submit_advances transition placed).2 with idle | still
            · simp [Handler.afterCall, idle, Placed]
            · have continues : manager.callers caller ≠ .idle := by
                intro idle
                rw [idle] at still
                cases still
              simpa [Handler.afterCall, continues, Placed] using still
    | cancelAll | worker other result => cases own
  · have handler : (state.afterManager label manager).handlers caller = state.handlers caller := by
      cases label with
      | caller other =>
          refine Function.update_of_ne ?_ _ _
          rintro rfl
          exact own rfl
      | _ => rfl
    rw [handler, callers_of_transition transition own]
    exact placed

/-- Every thread of the handler stays where its position says. -/
theorem placed_step {state next : State config callerCount Outcome} {errors : Errors Outcome}
    {label : Label config callerCount Outcome}
    (placed : ∀ caller, Placed (state.handlers caller) (state.manager.callers caller))
    (step : Rejudges.step errors state label = some next) (caller : Fin callerCount) :
    Placed (next.handlers caller) (next.manager.callers caller) := by
  have moved {other : Fin callerCount} {handler : Handler}
      (own : Placed handler (state.manager.callers other)) :
      Placed (Function.update state.handlers other handler caller)
        (state.manager.callers caller) := by
    rw [Function.update_apply]
    split
    case isTrue isOther =>
      rw [isOther]
      exact own
    case isFalse => exact placed caller
  cases label with
  | find other submissionId record now =>
      simp only [Rejudges.step] at step
      split at step
      case h_1 away idle =>
        split at step
        · cases step
          exact moved idle
        · cases step
      case h_2 => cases step
  | enter other =>
      simp only [Rejudges.step] at step
      split at step
      case h_1 submissionId record now found =>
        have idle := placed other
        rw [found] at idle
        split at step <;> cases step
        · exact moved trivial
        · exact moved idle
      case h_2 => cases step
  | submit other =>
      simp only [Rejudges.step] at step
      split at step
      case h_1 submissionId record now guarded =>
        rcases Option.map_eq_some_iff.mp step with ⟨manager, submitted, rfl⟩
        have transition : Transition errors state.manager (.submit other _) manager :=
          Transition.of_step submitted
        by_cases isOther : caller = other
        · subst isOther
          cases transition
          simp [State.setHandler, Placed, about?]
        · simp only [State.setHandler]
          rw [Function.update_of_ne isOther, callers_of_transition transition]
          · exact placed caller
          · simpa [callerOf] using Ne.symm isOther
      case h_2 => cases step
  | manager label =>
      simp only [Rejudges.step] at step
      split at step
      case isTrue permitted =>
        rcases Option.map_eq_some_iff.mp step with ⟨manager, advanced, rfl⟩
        have same : (state.afterManager label manager).manager = manager := by
          cases label <;> rfl
        rw [same]
        exact placed_of_manager permitted (Transition.of_step advanced) (placed caller)
      case isFalse => cases step
  | release other =>
      simp only [Rejudges.step] at step
      split at step
      · cases step
        exact moved trivial
      · cases step

/-- What holds of the scheduler, the guards and the threads between any two steps. -/
structure Orderly (errors : Errors Outcome) (state : State config callerCount Outcome) :
    Prop where
  lifecycle : Lifecycle errors state.manager
  stopOrder : StopOrder state.manager
  guarded : Guarded state
  placed : ∀ caller, Placed (state.handlers caller) (state.manager.callers caller)

theorem orderly_of_reachable {state : State config callerCount Outcome} {errors : Errors Outcome}
    (reachable : Reachable errors state) : Orderly errors state := by
  induction reachable with
  | refl => exact ⟨.initial, .initial, .initial, fun _ => trivial⟩
  | tail _ edge ih =>
      rcases edge with ⟨label, _, step⟩
      refine ⟨?_, ?_, ih.guarded.step ih.lifecycle step, placed_step ih.placed step⟩
      · rcases manager_of_step step with same | ⟨label, transition⟩
        · rw [same]
          exact ih.lifecycle
        · exact ih.lifecycle.step transition
      · rcases manager_of_step step with same | ⟨label, transition⟩
        · rw [same]
          exact ih.stopOrder
        · exact ih.stopOrder.step transition

/-- A new guard is for an identifier that nobody guards. -/
theorem guards_of_step {state next : State config callerCount Outcome} {errors : Errors Outcome}
    {label : Label config callerCount Outcome} (step : Rejudges.step errors state label = some next)
    {caller : Fin callerCount} {submissionId : ℤ}
    (guards : (next.handlers caller).guards? = some submissionId) :
    (state.handlers caller).guards? = some submissionId ∨
      submissionId ∉ state.rejudgeInFlight := by
  have moved {other : Fin callerCount} {handler : Handler}
      (kept : handler.guards? = none ∨ handler.guards? = (state.handlers other).guards?)
      (after : (Function.update state.handlers other handler caller).guards? =
        some submissionId) : (state.handlers caller).guards? = some submissionId := by
    rw [Function.update_apply] at after
    split at after
    case isTrue isOther =>
      rcases kept with none | same
      · simp [none] at after
      · rw [isOther, ← same, after]
    case isFalse => exact after
  cases label with
  | find other id record now =>
      simp only [Rejudges.step] at step
      split at step
      · split at step
        · cases step
          exact .inl (moved (.inl rfl) guards)
        · cases step
      · cases step
  | enter other =>
      simp only [Rejudges.step] at step
      split at step
      · split at step
        case isTrue =>
          cases step
          exact .inl (moved (.inl rfl) guards)
        case isFalse absent =>
          cases step
          simp only [State.setHandler, Function.update_apply] at guards
          split at guards
          · rcases Option.some.inj guards with rfl
            exact .inr absent
          · exact .inl guards
      · cases step
  | submit other =>
      simp only [Rejudges.step] at step
      split at step
      case h_1 id record now guarded =>
        rcases Option.map_eq_some_iff.mp step with ⟨manager, submitted, rfl⟩
        exact .inl (moved (.inr (by rw [guarded]; rfl)) guards)
      case h_2 => cases step
  | manager label =>
      simp only [Rejudges.step] at step
      split at step
      · rcases Option.map_eq_some_iff.mp step with ⟨manager, advanced, rfl⟩
        cases label with
        | caller other => exact .inl (moved (.inr (Handler.guards?_afterCall _ _)) guards)
        | _ => exact .inl guards
      · cases step
  | release other =>
      simp only [Rejudges.step] at step
      split at step
      · cases step
        exact .inl (moved (.inl rfl) guards)
      · cases step

/-- The task of an item waits in the queue or is with a worker that has not delivered its result. -/
def Pending (manager : JudgeManager.State config callerCount Outcome) (item : ItemId) : Prop :=
  item ∈ manager.queue ∨ ∃ worker, (manager.workers worker).item? = some item

theorem unfinished_of_pending {manager : JudgeManager.State config callerCount Outcome}
    {errors : Errors Outcome} (lifecycle : Lifecycle errors manager) {item : ItemId}
    (pending : Pending manager item) : Unfinished (manager.items item).stage := by
  rcases pending with queued | ⟨worker, holds⟩
  · rw [(lifecycle.mem_queue item).mp queued]
    trivial
  · rw [(lifecycle.held worker item).mp holds]
    trivial

/-- A request that waits can go on, unless its task is queued or executing. -/
theorem advances_or_pending {state : State config callerCount Outcome} {errors : Errors Outcome}
    (lifecycle : Lifecycle errors state.manager) {caller : Fin callerCount}
    (inSubmit : (about? (state.manager.callers caller)).isSome) :
    (∃ next, Rejudges.step errors state (.manager (.caller caller)) = some next) ∨
      ∃ item, state.manager.callers caller = .awaiting item ∧ Pending state.manager item := by
  have advances {manager : JudgeManager.State config callerCount Outcome}
      (step : callerStep errors state.manager caller = some manager) :
      ∃ next, Rejudges.step errors state (.manager (.caller caller)) = some next :=
    ⟨state.afterManager (.caller caller) manager, by
      simp [Rejudges.step, State.permits, JudgeManager.step, step]⟩
  cases pc : state.manager.callers caller with
  | submitting item =>
      left
      rcases answer : state.manager.submitLocked item with ⟨status, manager⟩
      cases status with
      | accepted | queueFull | stopped =>
          exact advances (by simp only [callerStep, pc, answer]; rfl)
  | publishing purpose item =>
      left
      exact advances (by simp only [callerStep, pc]; rfl)
  | awaiting item =>
      by_cases ready : (state.manager.items item).promise = []
      · right
        refine ⟨item, rfl, ?_⟩
        have accepted := lifecycle.placed caller item (by rw [pc]; rfl)
        have consistent := lifecycle.item_consistent item
        unfold Item.Consistent at consistent
        cases stage : (state.manager.items item).stage with
        | queued => exact .inl ((lifecycle.mem_queue item).mpr stage)
        | held worker => exact .inr ⟨worker, (lifecycle.held worker item).mpr stage⟩
        | delivered | reclaimed => simp [stage, ready] at consistent
        | unborn | built | refused => simp [stage, Stage.Accepted] at accepted
      · left
        exact advances (by simp only [callerStep, pc, if_neg ready]; rfl)
  | _ =>
      rw [pc] at inSubmit
      cases inSubmit

/-- A request that holds its guard gets to its end: it calls `submit`, the call comes nearer to
its end with every step and waits only for a task that is queued or executing, whatever the
answer the response is next, and the destructor of the guard then frees the identifier. -/
structure Proceeds (errors : Errors Outcome) (state : State config callerCount Outcome)
    (caller : Fin callerCount) (submissionId : ℤ) : Prop where
  submits : ∀ record now, state.handlers caller = .guarded submissionId record now →
    ∃ next, Rejudges.step errors state (.submit caller) = some next ∧
      next.handlers caller = .waiting submissionId
  waits : state.handlers caller = .waiting submissionId →
    state.manager.callers caller ≠ .idle ∧
    ((∃ next, Rejudges.step errors state (.manager (.caller caller)) = some next) ∨
      ∃ item, state.manager.callers caller = .awaiting item ∧ Pending state.manager item) ∧
    ∀ next, Rejudges.step errors state (.manager (.caller caller)) = some next →
      stepsLeft (next.manager.callers caller) < stepsLeft (state.manager.callers caller) ∧
      (next.handlers caller = .waiting submissionId ∨
        next.handlers caller = .leaving submissionId)
  releases : state.handlers caller = .leaving submissionId →
    ∃ next, Rejudges.step errors state (.release caller) = some next ∧
      next.handlers caller = .away ∧ submissionId ∉ next.rejudgeInFlight

theorem Orderly.proceeds {state : State config callerCount Outcome} {errors : Errors Outcome}
    (orderly : Orderly errors state) (caller : Fin callerCount) (submissionId : ℤ) :
    Proceeds errors state caller submissionId := by
  have placed := orderly.placed caller
  refine ⟨?_, ?_, ?_⟩
  · intro record now guarded
    rw [guarded] at placed
    have idle : state.manager.callers caller = .idle := placed
    refine ⟨_, by simp only [Rejudges.step, guarded, JudgeManager.step, idle]; rfl, ?_⟩
    exact Function.update_self _ _ _
  · intro waiting
    rw [waiting] at placed
    refine ⟨?_, advances_or_pending orderly.lifecycle placed, ?_⟩
    · intro idle
      rw [idle] at placed
      cases placed
    · intro next step
      simp only [Rejudges.step, State.permits, if_true] at step
      rcases Option.map_eq_some_iff.mp step with ⟨manager, advanced, rfl⟩
      refine ⟨(submit_advances (Transition.of_step advanced) placed).1, ?_⟩
      simp only [State.afterManager, State.setHandler, Function.update_self, waiting,
        Handler.afterCall]
      split
      · exact .inr rfl
      · exact .inl rfl
  · intro leaving
    refine ⟨_, by simp only [Rejudges.step, leaving]; rfl, Function.update_self _ _ _, ?_⟩
    simp [State.setHandler]

/-- As long as an identifier is remembered, its request or a worker can go on. -/
theorem Orderly.free_of_stuck {state : State config callerCount Outcome} {errors : Errors Outcome}
    (orderly : Orderly errors state)
    (noWorker : ∀ worker result,
      Rejudges.step errors state (.manager (.worker worker result)) = none)
    (noRequest : ∀ caller, Rejudges.step errors state (.submit caller) = none ∧
      Rejudges.step errors state (.manager (.caller caller)) = none ∧
      Rejudges.step errors state (.release caller) = none) :
    state.rejudgeInFlight = ∅ := by
  refine Finset.eq_empty_of_forall_notMem fun submissionId remembered => ?_
  rcases (orderly.guarded.guards_iff submissionId).mp remembered with ⟨caller, guards⟩
  rcases noRequest caller with ⟨noSubmit, noCaller, noRelease⟩
  have proceeds := orderly.proceeds caller submissionId
  cases handler : state.handlers caller with
  | away | found => simp [handler, Handler.guards?] at guards
  | guarded id record now =>
      simp only [handler, Handler.guards?, Option.some.injEq] at guards
      rcases proceeds.submits record now (guards ▸ handler) with ⟨next, enabled, _⟩
      simp [noSubmit] at enabled
  | leaving id =>
      simp only [handler, Handler.guards?, Option.some.injEq] at guards
      rcases proceeds.releases (guards ▸ handler) with ⟨next, enabled, _⟩
      simp [noRelease] at enabled
  | waiting id =>
      simp only [handler, Handler.guards?, Option.some.injEq] at guards
      rcases (proceeds.waits (guards ▸ handler)).2.1 with ⟨next, enabled⟩ | ⟨item, _, pending⟩
      · simp [noCaller] at enabled
      · have idle := idle_of_no_worker_step orderly.stopOrder fun worker result => by
          simpa [Rejudges.step, State.permits] using noWorker worker result
        rcases pending with queued | ⟨worker, holds⟩
        · simp [idle.1] at queued
        · simp [idle.2 worker] at holds

/-- A submission is rejudged once at a time: in every reachable state at most one task that rejudges
it is queued or executing, its identifier is remembered exactly while one request holds its guard,
and when that request lets go of the guard the identifier is free for the next one. Every request
that holds a guard gets to where it lets go, and nothing is remembered for ever. -/
theorem one_rejudge_at_a_time {state : State config callerCount Outcome}
    {errors : Errors Outcome} (reachable : Reachable errors state) :
    (∀ first other, Pending state.manager first → Pending state.manager other →
      (state.manager.items first).task.rejudgeSubmissionId ≠ 0 →
      (state.manager.items first).task.rejudgeSubmissionId =
        (state.manager.items other).task.rejudgeSubmissionId → first = other) ∧
    (∀ submissionId, submissionId ∈ state.rejudgeInFlight ↔
      ∃! caller, (state.handlers caller).guards? = some submissionId) ∧
    (∀ caller submissionId label next,
      (state.handlers caller).guards? = some submissionId →
      Rejudges.step errors state label = some next →
      (next.handlers caller).guards? ≠ some submissionId →
      submissionId ∉ next.rejudgeInFlight) ∧
    (∀ caller submissionId, Proceeds errors state caller submissionId) ∧
    ((∀ worker result, Rejudges.step errors state (.manager (.worker worker result)) = none) →
      (∀ caller, Rejudges.step errors state (.submit caller) = none ∧
        Rejudges.step errors state (.manager (.caller caller)) = none ∧
        Rejudges.step errors state (.release caller) = none) →
      state.rejudgeInFlight = ∅) ∧
    ∀ caller submissionId record now,
      state.handlers caller = .found submissionId record now →
      (∀ other, (state.handlers other).guards? ≠ some submissionId) →
      ∃ next, Rejudges.step errors state (.enter caller) = some next ∧
        next.handlers caller = .guarded submissionId record now := by
  have orderly := orderly_of_reachable reachable
  have lifecycle := orderly.lifecycle
  have inv := orderly.guarded
  refine ⟨?_, ?_, ?_, orderly.proceeds, orderly.free_of_stuck, ?_⟩
  · intro first other firstPending otherPending rejudges same
    rcases inv.owned first (unfinished_of_pending lifecycle firstPending) rejudges with
      ⟨holder, waits, about⟩
    rw [same] at rejudges waits
    rcases inv.owned other (unfinished_of_pending lifecycle otherPending) rejudges with
      ⟨second, waitsToo, aboutOther⟩
    have one : holder = second :=
      inv.guards_unique holder second _ (by rw [waits]; rfl) (by rw [waitsToo]; rfl)
    rw [one, aboutOther] at about
    exact (Option.some.inj about).symm
  · intro submissionId
    rw [inv.guards_iff]
    constructor
    · rintro ⟨caller, guards⟩
      exact ⟨caller, guards, fun other otherGuards =>
        inv.guards_unique other caller submissionId otherGuards guards⟩
    · rintro ⟨caller, guards, _⟩
      exact ⟨caller, guards⟩
  · intro caller submissionId label next guards step released remembered
    rcases ((inv.step lifecycle step).guards_iff submissionId).mp remembered with
      ⟨other, otherGuards⟩
    rcases guards_of_step step otherGuards with before | absent
    · have one := inv.guards_unique caller other submissionId guards before
      rw [one] at released
      exact released otherGuards
    · exact absent ((inv.guards_iff submissionId).mpr ⟨caller, guards⟩)
  · intro caller submissionId record now found free
    have absent : submissionId ∉ state.rejudgeInFlight := by
      rw [inv.guards_iff]
      rintro ⟨other, guards⟩
      exact free other guards
    have entered : Rejudges.step errors state (.enter caller) =
        some (State.setHandler
          { state with rejudgeInFlight := insert submissionId state.rejudgeInFlight } caller
          (.guarded submissionId record now)) := by
      simp only [Rejudges.step, found, if_neg absent]
    exact ⟨_, entered, Function.update_self _ _ _⟩

def storedSubmission : SubmissionRecord where
  id := 5
  userId := 1
  problemId := 1
  language := [99]
  sourceCode := [120]
  status := .WA
  perCase := []
  compileMsg := []
  runtimeMs := 0
  memoryKb := 0
  createdAt := []

/-- Two requests for the same submission: the second finds it in progress. -/
def twoRequests : List (Label Config.smallest 2 String) :=
  [.find 0 5 storedSubmission [], .find 1 5 storedSubmission [], .enter 0, .submit 0,
    .manager (.caller 0), .enter 1, .manager (.worker ⟨0, Nat.one_pos⟩ (.returned ""))]

/-- The first request is answered and lets go of its guard. -/
def firstAnswered : List (Label Config.smallest 2 String) :=
  .manager (.caller 0) ::
    List.replicate 6 (.manager (.worker ⟨0, Nat.one_pos⟩ (.returned "AC"))) ++
    [.manager (.caller 0), .release 0]

/-- The submission is rejudged once more. -/
def laterRequest : List (Label Config.smallest 2 String) :=
  [.find 1 5 storedSubmission [], .enter 1, .submit 1, .manager (.caller 1)]

theorem one_rejudge_at_a_time_twice :
    ∃ state released again : State Config.smallest 2 String,
      (system Config.smallest 2 ⟨id⟩).run (.initial _ _ _) twoRequests = some state ∧
        Pending state.manager 0 ∧
        (state.manager.items 0).task.rejudgeSubmissionId = 5 ∧
        (∃! caller, (state.handlers caller).guards? = some 5) ∧
      (system Config.smallest 2 ⟨id⟩).run state firstAnswered = some released ∧
        (released.manager.items 0).promise = ["AC"] ∧ 5 ∉ released.rejudgeInFlight ∧
      (system Config.smallest 2 ⟨id⟩).run released laterRequest = some again ∧
        Pending again.manager 1 ∧
        (again.manager.items 1).task.rejudgeSubmissionId = 5 := by
  have execution : ∃ state released again : State Config.smallest 2 String,
      ((system Config.smallest 2 ⟨id⟩).run (.initial _ _ _) twoRequests = some state ∧
        Pending state.manager 0 ∧
        (state.manager.items 0).task.rejudgeSubmissionId = 5 ∧ 5 ∈ state.rejudgeInFlight) ∧
      ((system Config.smallest 2 ⟨id⟩).run state firstAnswered = some released ∧
        (released.manager.items 0).promise = ["AC"] ∧
        ∀ caller, released.handlers caller = .away) ∧
      (system Config.smallest 2 ⟨id⟩).run released laterRequest = some again ∧
        Pending again.manager 1 ∧ (again.manager.items 1).task.rejudgeSubmissionId = 5 := by
    refine ⟨_, _, _, ⟨rfl, .inr ⟨⟨0, Nat.one_pos⟩, rfl⟩, rfl, Finset.mem_insert_self _ _⟩,
      ⟨rfl, rfl, ?_⟩, rfl, .inl List.mem_cons_self, rfl⟩
    intro caller
    match caller with
    | 0 | 1 => rfl
  rcases execution with ⟨state, released, again, ⟨first, pending, rejudges, remembered⟩,
    ⟨answered, promised, away⟩, later⟩
  have reachable : Reachable ⟨id⟩ state :=
    Library.TransitionSystem.reaches_of_run
      (Library.TransitionSystem.admits_unrestricted _ _) first
  have reachableReleased : Reachable ⟨id⟩ released :=
    reachable.trans (Library.TransitionSystem.reaches_of_run
      (Library.TransitionSystem.admits_unrestricted _ _) answered)
  refine ⟨state, released, again, first, pending, rejudges,
    ((one_rejudge_at_a_time reachable).2.1 5).mp remembered, answered, promised, ?_, later⟩
  rw [(one_rejudge_at_a_time reachableReleased).2.1]
  rintro ⟨caller, guards, _⟩
  simp [away caller, Handler.guards?] at guards

end Rejudges

end OnlineJudge.Http
