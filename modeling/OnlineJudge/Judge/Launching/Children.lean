import OnlineJudge.Judge.Launching.View

/-!
# The children of a launch

Who waits for whom to end. P kills its init process before it waits for it, so the wait is
not in vain; and P itself does not end before the payload and the init process have ended.
-/

namespace OnlineJudge.Judge

namespace Launching

open Library

/-- The init process has been killed. -/
def Point.Dies : Point → Prop
  | .init (.dying _) | .init .gone => True
  | _ => False

/-- Where the init process is when P is at a stage. -/
def InitFits (sandbox : Bool) (init : Option Point) : MiddleStage → Prop
  | .closing _ | .unsharing | .signalling | .awaitingMaps | .forkingInit => init = none
  | .forkingPayload | .sendingPid | .dropping _ | .awaitingPayload =>
      if sandbox then init ≠ none else init = none
  | .killingInit _ | .endingInit => init ≠ none
  | .awaitingInit _ | .awaitingEnd => ∃ point, init = some point ∧ point.Dies
  | .leaving | .done | .reporting _ | .exiting _ | .gone _ =>
      init = none ∨ init = some (.init .gone)

/-- P has waited for the payload. -/
def MiddleStage.HasWaited : MiddleStage → Prop
  | .endingInit | .awaitingEnd | .leaving | .done => True
  | _ => False

structure Children (sandbox : Bool) (state : State) : Prop where
  initUnborn : state.point .middle = none → state.point .init = none
  init : ∀ stage, state.point .middle = some (.middle stage) →
    InitFits sandbox (state.point .init) stage
  payload : ∀ stage, state.point .middle = some (.middle stage) → stage.HasWaited →
    ∃ point, state.point .payload = some point ∧ point.ended = true
  failed : ∀ failure mapped, state.point .parent = some (.parent (.failed failure) mapped) →
    ∃ point, state.point .middle = some point ∧ point.ended = true

variable {sandbox : Bool} {state next : State} {choice : Choice ExecFailure}

/-- The init process does not come back to life. -/
theorem initFits_step {before after : Point} {stage : MiddleStage}
    (fits : InitFits sandbox (some before) stage) (alive : before ≠ .init .gone)
    (dies : before.Dies → after.Dies) : InitFits sandbox (some after) stage := by
  cases stage with
  | closing | unsharing | signalling | awaitingMaps | forkingInit => cases fits
  | forkingPayload | sendingPid | dropping | awaitingPayload =>
      cases sandbox
      · cases fits
      · exact Option.some_ne_none _
  | killingInit | endingInit => exact Option.some_ne_none _
  | awaitingInit | awaitingEnd =>
      rcases fits with ⟨point, isBefore, killed⟩
      cases isBefore
      exact ⟨after, rfl, dies killed⟩
  | leaving | done | reporting | exiting | gone =>
      rcases fits with absent | isGone
      · cases absent
      · exact absurd (Option.some.inj isGone) alive

/-- Only three stages of P concern the init process. -/
theorem init_untouched {stage : MiddleStage}
    (effect : (program sandbox).Effect .middle state (middleCode sandbox stage) choice next)
    (spares : (middleCode sandbox stage).affects ≠ some .init) :
    next.point .init = state.point .init :=
  effect.point_eq (by simp) spares

/-- A step of P that does not concern its init process, and does not wait for it. -/
theorem middle_initFits {stage after : MiddleStage} {init : Option Point}
    (placed : (Point.middle stage).Fits sandbox) (fits : InitFits sandbox init stage)
    (leads : ProcessCode.Leads (middleCode sandbox stage) (.middle after))
    (spares : (middleCode sandbox stage).affects ≠ some .init)
    (goesOn : ∀ next, middleCode sandbox stage ≠ .await .init next) :
    InitFits sandbox init after := by
  cases stage with
  | closing pipeEnd =>
      rcases closeInOrder_leads leads with ⟨other, -, isNext⟩ | isNext
      · cases isNext
        exact fits
      · cases sandbox <;> cases isNext <;> exact fits
  | unsharing =>
      rcases leads with isNext | ⟨failure, isFailure⟩
      · cases isNext
        exact fits
      · cases failsAt_ends isFailure
        exact .inl fits
  | signalling | awaitingMaps =>
      rcases leads with ⟨answer, isNext⟩
      cases answer <;> cases isNext <;> first | exact fits | exact .inl fits
  | forkingPayload =>
      rcases leads with isNext | ⟨failure, isFailure⟩
      · cases isNext
        exact fits
      · have isNext := failsAt_ends isFailure
        cases sandbox <;> cases isNext
        · exact .inl fits
        · exact fits
  | sendingPid =>
      rcases leads with ⟨delivered, isNext⟩
      cases isNext
      exact fits
  | dropping pipeEnd =>
      rcases closeInOrder_leads leads with ⟨other, -, isNext⟩ | isNext <;> cases isNext <;>
        exact fits
  | awaitingPayload =>
      cases sandbox <;> cases leads
      · exact .inl fits
      · exact fits
  | reporting =>
      rcases leads with ⟨delivered, isNext⟩
      cases isNext
      exact fits
  | leaving | exiting =>
      cases leads
      exact fits
  | forkingInit | killingInit | endingInit => exact absurd rfl spares
  | awaitingInit | awaitingEnd => exact absurd rfl (goesOn _)
  | done | gone => cases leads

/-- The init process is at one of its own points. -/
theorem init_point
    (placed : ∀ member point, state.point member = some point → Placed sandbox member point)
    {point : Point} (here : state.point .init = some point) :
    ∃ stage, point = .init stage := by
  have isOwner := (placed _ _ here).1
  cases point with
  | init stage => exact ⟨stage, rfl⟩
  | parent | middle | payload => cases isOwner

theorem middle_point
    (placed : ∀ member point, state.point member = some point → Placed sandbox member point)
    {point : Point} (here : state.point .middle = some point) :
    ∃ stage, point = .middle stage := by
  have isOwner := (placed _ _ here).1
  cases point with
  | middle stage => exact ⟨stage, rfl⟩
  | parent | init | payload => cases isOwner

theorem payload_point
    (placed : ∀ member point, state.point member = some point → Placed sandbox member point)
    {point : Point} (here : state.point .payload = some point) :
    ∃ stage, point = .payload stage := by
  have isOwner := (placed _ _ here).1
  cases point with
  | payload stage => exact ⟨stage, rfl⟩
  | parent | middle | init => cases isOwner

theorem init_gone
    (placed : ∀ member point, state.point member = some point → Placed sandbox member point)
    {point : Point} (here : state.point .init = some point) (ended : point.ended = true) :
    point = .init .gone := by
  rcases init_point placed here with ⟨stage, rfl⟩
  cases stage with
  | gone => rfl
  | closing | reaping | dying => cases ended

theorem init_killed
    (placed : ∀ member point, state.point member = some point → Placed sandbox member point)
    (born : state.point .init ≠ none) :
    ∃ point, ((program sandbox).deliverKill .init state).point .init = some point ∧
      point.Dies := by
  rcases Option.ne_none_iff_exists'.mp born with ⟨before, here⟩
  rcases ProcessCode.deliverKill_cases (program sandbox) state .init with
    ⟨same, ended⟩ | ⟨point, alive, notEnded, dies⟩
  · refine ⟨before, same.trans here, ?_⟩
    rw [init_gone placed here (ended before here)]
    trivial
  · refine ⟨_, dies, ?_⟩
    rcases init_point placed alive with ⟨stage, rfl⟩
    cases stage with
    | closing | reaping | dying => trivial
    | gone => cases notEnded

@[simp] theorem closeInOrder_affects {order : List End} {pipeEnd : End} {again : End → Point}
    {onwards : Point} : (closeInOrder order pipeEnd again onwards).affects = none := by
  rw [closeInOrder]
  split <;> rfl

/-- Only at a few stages P has to do with its init process. -/
theorem middle_spares {stage : MiddleStage}
    (affects : (middleCode sandbox stage).affects = some .init) :
    stage = .forkingInit ∨ (∃ failure, stage = .killingInit failure) ∨ stage = .endingInit := by
  cases stage with
  | forkingInit => exact .inl rfl
  | killingInit failure => exact .inr (.inl ⟨failure, rfl⟩)
  | endingInit => exact .inr (.inr rfl)
  | closing | dropping => simp [middleCode] at affects
  | _ => cases affects

theorem middle_waits {stage : MiddleStage} {next : Point}
    (waits : middleCode sandbox stage = .await .init next) :
    (∃ failure, stage = .awaitingInit failure) ∨ stage = .awaitingEnd := by
  cases stage with
  | awaitingInit failure => exact .inl ⟨failure, rfl⟩
  | awaitingEnd => exact .inr rfl
  | closing | dropping =>
      simp only [middleCode, closeInOrder] at waits
      split at waits <;> cases waits
  | _ => cases waits

theorem middle_init_step {stage after : MiddleStage}
    (placed : ∀ member point, state.point member = some point → Placed sandbox member point)
    (fits : InitFits sandbox (state.point .init) stage)
    (here : state.point .middle = some (.middle stage))
    (effect : (program sandbox).Effect .middle state (middleCode sandbox stage) choice next)
    (there : next.point .middle = some (.middle after)) :
    InitFits sandbox (next.point .init) after := by
  have place := (placed _ _ here).2
  rcases effect.leads with ⟨point, leads, moved⟩
  cases there.symm.trans moved
  by_cases affects : (middleCode sandbox stage).affects = some .init
  · rcases middle_spares affects with rfl | ⟨failure, rfl⟩ | rfl
    · cases effect with
      | forked next failed unborn =>
          rw [ProcessCode.moveTo_point] at there
          cases there
          rw [place]
          simp [InitFits, Processes.moveTo, Processes.spawnChild]
      | forkFailed child next isFailure =>
          rw [ProcessCode.moveTo_point, failsAt_ends isFailure] at there
          cases there
          exact .inl fits
    · cases effect with
      | killed =>
          rw [ProcessCode.moveTo_point] at there
          cases there
          exact init_killed placed fits
    · cases effect with
      | killed =>
          rw [ProcessCode.moveTo_point] at there
          cases there
          exact init_killed placed fits
  · rw [init_untouched effect affects]
    by_cases waits : ∃ next, middleCode sandbox stage = .await .init next
    · rcases waits with ⟨onwards, waits⟩
      rcases middle_waits waits with ⟨failure, rfl⟩ | rfl
      · cases effect with
        | awaited next alive ended =>
            rw [ProcessCode.moveTo_point] at there
            cases there
            exact .inr (alive.trans (congrArg some (init_gone placed alive ended)))
      · cases effect with
        | awaited next alive ended =>
            rw [ProcessCode.moveTo_point] at there
            cases there
            exact .inr (alive.trans (congrArg some (init_gone placed alive ended)))
    · exact middle_initFits place fits leads affects (by simpa using waits)

theorem middle_hasWaited {stage after : MiddleStage}
    (leads : ProcessCode.Leads (middleCode sandbox stage) (.middle after))
    (waited : after.HasWaited) : stage = .awaitingPayload ∨ stage.HasWaited := by
  cases stage with
  | awaitingPayload => exact .inl rfl
  | endingInit | awaitingEnd | leaving | done => exact .inr trivial
  | closing pipeEnd =>
      rcases closeInOrder_leads leads with ⟨other, -, isNext⟩ | isNext
      · cases isNext
        exact waited.elim
      · cases sandbox <;> cases isNext <;> exact waited.elim
  | dropping pipeEnd =>
      rcases closeInOrder_leads leads with ⟨other, -, isNext⟩ | isNext <;> cases isNext <;>
        exact waited.elim
  | unsharing | forkingInit =>
      rcases leads with isNext | ⟨failure, isFailure⟩
      · cases isNext
        exact waited.elim
      · cases failsAt_ends isFailure
        exact waited.elim
  | forkingPayload =>
      rcases leads with isNext | ⟨failure, isFailure⟩
      · cases isNext
        exact waited.elim
      · have isNext := failsAt_ends isFailure
        cases sandbox <;> cases isNext <;> exact waited.elim
  | signalling | awaitingMaps =>
      rcases leads with ⟨answer, isNext⟩
      cases answer <;> cases isNext <;> exact waited.elim
  | sendingPid | reporting =>
      rcases leads with ⟨answer, isNext⟩
      cases isNext
      exact waited.elim
  | killingInit | awaitingInit | exiting =>
      cases leads
      exact waited.elim
  | gone => cases leads

theorem parent_spares {stage : ParentStage} {mapped : Bool} (forked : stage ≠ .forking) :
    (parentCode sandbox mapped stage).affects = none := by
  cases stage with
  | forking => exact absurd rfl forked
  | closing | closingSync => simp [parentCode]
  | closingFailure failure => cases failure <;> rfl
  | _ => rfl

/-- The parent has failed only after it has waited for P. -/
theorem parent_failed {stage : ParentStage} {mapped after : Bool} {failure : ExecFailure}
    (leads : ProcessCode.Leads (parentCode sandbox mapped stage)
      (.parent (.failed failure) after)) :
    parentCode sandbox mapped stage = .await .middle (.parent (.failed failure) after) := by
  cases stage with
  | reaping reported =>
      cases leads
      rfl
  | forking =>
      rcases leads with isNext | ⟨failure, isFailure⟩
      · cases isNext
      · cases isFailure
  | closing pipeEnd =>
      rcases closeInOrder_leads leads with ⟨other, -, isNext⟩ | isNext
      · cases isNext
      · cases sandbox <;> cases isNext
  | closingSync pipeEnd =>
      rcases closeInOrder_leads leads with ⟨other, -, isNext⟩ | isNext <;> cases isNext
  | awaitingReady again | awaitingPid again =>
      rcases leads with ⟨answer, isNext⟩
      cases answer <;> cases again <;> cases isNext
  | awaitingFailure again =>
      rcases leads with ⟨answer, isNext⟩
      cases again <;> rcases answer with (_ | _ | _) | _ | _ <;> cases isNext
  | mapping =>
      rcases leads with isNext | ⟨failure, isFailure⟩
      · cases isNext
      · cases isFailure
  | answering =>
      rcases leads with ⟨delivered, isNext⟩
      cases isNext
  | closingFailure reported => cases reported <;> cases leads
  | closingPid | abandoning => cases leads
  | notForked | failed | launched => cases leads

theorem Children.parent_step {stage : ParentStage} {mapped : Bool}
    (children : Children sandbox state)
    (here : state.point .parent = some (.parent stage mapped))
    (effect : (program sandbox).Effect .parent state (parentCode sandbox mapped stage) choice
      next) : Children sandbox next := by
  by_cases forks : stage = .forking
  · subst forks
    cases effect with
    | forked onwards failed unborn =>
        have absent := children.initUnborn unborn
        constructor
        · simp [Processes.moveTo, Processes.spawnChild]
        · intro stage there
          have isEntry : MiddleStage.closing (readEnd .exec) = stage := by
            simpa [Processes.moveTo, Processes.spawnChild, program, entry] using there
          subst isEntry
          simpa [Processes.moveTo, Processes.spawnChild, InitFits] using absent
        · intro stage there waited
          have isEntry : MiddleStage.closing (readEnd .exec) = stage := by
            simpa [Processes.moveTo, Processes.spawnChild, program, entry] using there
          subst isEntry
          exact waited.elim
        · simp [Processes.moveTo]
    | forkFailed child onwards isFailure =>
        cases isFailure
        exact ⟨children.initUnborn, children.init, children.payload, by simp [Processes.moveTo]⟩
  · have spares : (parentCode sandbox mapped stage).affects = none := parent_spares forks
    have middle : next.point .middle = state.point .middle :=
      effect.point_eq (by simp) (by simp [spares])
    have init : next.point .init = state.point .init :=
      effect.point_eq (by simp) (by simp [spares])
    have payload : next.point .payload = state.point .payload :=
      effect.point_eq (by simp) (by simp [spares])
    refine ⟨?_, ?_, ?_, ?_⟩
    · rw [middle, init]
      exact children.initUnborn
    · rw [middle, init]
      exact children.init
    · rw [middle, payload]
      exact children.payload
    · intro failure after there
      rcases effect.leads with ⟨point, leads, moved⟩
      cases there.symm.trans moved
      rw [parent_failed leads] at effect
      cases effect with
      | awaited onwards alive ended => exact ⟨_, middle.trans alive, ended⟩

/-- Whoever has ended does nothing any more. -/
theorem not_effect_of_ended {point : Point} (ended : point.ended = true)
    (effect : (program sandbox).Effect point.owner state (point.request sandbox) choice next) :
    False := by
  rcases effect.leads with ⟨after, leads, -⟩
  cases point with
  | parent stage mapped =>
      cases stage <;> first
      | exact absurd ended Bool.false_ne_true
      | exact leads.elim
  | middle stage =>
      cases stage <;> first
      | exact absurd ended Bool.false_ne_true
      | exact leads.elim
  | init stage =>
      cases stage <;> first
      | exact absurd ended Bool.false_ne_true
      | exact leads.elim
  | payload stage =>
      cases stage <;> first
      | exact absurd ended Bool.false_ne_true
      | exact leads.elim

theorem Children.middle_step {stage : MiddleStage} (children : Children sandbox state)
    (placed : ∀ member point, state.point member = some point → Placed sandbox member point)
    (here : state.point .middle = some (.middle stage))
    (effect : (program sandbox).Effect .middle state (middleCode sandbox stage) choice next) :
    Children sandbox next := by
  rcases effect.leads with ⟨point, leads, moved⟩
  refine ⟨?_, ?_, ?_, ?_⟩
  · simp [moved]
  · exact fun after there => middle_init_step placed (children.init stage here) here effect there
  · intro after there waited
    cases there.symm.trans moved
    rcases middle_hasWaited leads waited with rfl | before
    · cases effect with
      | awaited onwards alive ended => exact ⟨_, alive, ended⟩
    · rcases children.payload stage here before with ⟨point, alive, ended⟩
      refine ⟨point, (effect.point_eq (by simp) ?_).trans alive, ended⟩
      cases stage with
      | endingInit | awaitingEnd | leaving | done => nofun
      | _ => exact before.elim
  · intro failure mapped there
    have parent : next.point .parent = state.point .parent :=
      effect.point_eq (by simp) (by
        cases stage with
        | closing | dropping => simp [middleCode]
        | _ => nofun)
    rcases children.failed failure mapped (parent.symm.trans there) with ⟨point, alive, ended⟩
    cases here.symm.trans alive
    exact (not_effect_of_ended ended effect).elim

theorem Children.init_step {stage : InitStage} (children : Children sandbox state)
    (here : state.point .init = some (.init stage))
    (effect : (program sandbox).Effect .init state (initCode stage) choice next) :
    Children sandbox next := by
  have spares : (initCode stage).affects = none := by
    cases stage with
    | closing => simp [initCode]
    | reaping | dying | gone => rfl
  have middle : next.point .middle = state.point .middle :=
    effect.point_eq (by simp) (by simp [spares])
  have parent : next.point .parent = state.point .parent :=
    effect.point_eq (by simp) (by simp [spares])
  have payload : next.point .payload = state.point .payload :=
    effect.point_eq (by simp) (by simp [spares])
  rcases effect.leads with ⟨point, leads, moved⟩
  have alive : Point.init stage ≠ .init .gone := by
    intro isGone
    cases isGone
    cases leads
  refine ⟨?_, ?_, ?_, ?_⟩
  · rw [middle]
    intro unborn
    simp [children.initUnborn unborn] at here
  · rw [middle, moved]
    intro other there
    have fits := children.init other there
    rw [here] at fits
    refine initFits_step fits alive fun dies => ?_
    cases stage with
    | dying =>
        cases leads
        trivial
    | closing | reaping | gone => first | exact dies.elim | cases leads
  · rw [middle, payload]
    exact children.payload
  · rw [middle, parent]
    exact children.failed

theorem Children.payload_step {stage : PayloadStage} (children : Children sandbox state)
    (here : state.point .payload = some (.payload stage))
    (effect : (program sandbox).Effect .payload state (payloadCode sandbox stage) choice next) :
    Children sandbox next := by
  have spares : (payloadCode sandbox stage).affects = none := by
    cases stage with
    | closing => simp [payloadCode]
    | _ => rfl
  have middle : next.point .middle = state.point .middle :=
    effect.point_eq (by simp) (by simp [spares])
  have parent : next.point .parent = state.point .parent :=
    effect.point_eq (by simp) (by simp [spares])
  have init : next.point .init = state.point .init :=
    effect.point_eq (by simp) (by simp [spares])
  refine ⟨?_, ?_, ?_, ?_⟩
  · rw [middle, init]
    exact children.initUnborn
  · rw [middle, init]
    exact children.init
  · rw [middle]
    intro other there waited
    rcases children.payload other there waited with ⟨point, alive, ended⟩
    cases here.symm.trans alive
    exact (not_effect_of_ended ended effect).elim
  · rw [middle, parent]
    exact children.failed

theorem children_of_reaches {allowed : State → Member × Choice ExecFailure → Prop}
    (reaches : (program sandbox).system.Reaches allowed start state) :
    Children sandbox state := by
  apply invariant_of_reaches (Children sandbox) reaches
  · constructor <;> simp [start, entry]
  · intro point choice before after reached children _ here effect
    cases point with
    | parent stage mapped => exact children.parent_step here effect
    | middle stage => exact children.middle_step (placed_of_reaches reached) here effect
    | init stage => exact children.init_step here effect
    | payload stage => exact children.payload_step here effect

end Launching

end OnlineJudge.Judge
