import OnlineJudge.Judge.Launching.View

/-!
# The launch keeps to the handshake

Every step of the four processes is a step of the handshake, or is not seen there. The ends
of the pipes decide about the ends of file: as long as a process may still write, it holds
the end to write to.
-/

namespace OnlineJudge.Judge

namespace Launching

open Library

variable {sandbox lossy : Bool} {state next : State}

/-- As long as the middle process may speak, it can write to its pipes. -/
theorem middle_writes {stage : MiddleStage} (speaks : ¬stage.phase.Quiet) :
    writeEnd .sync1 ∈ stage.ends ∧ writeEnd .exec ∈ stage.ends := by
  cases stage with
  | exiting reported | gone reported => cases reported <;> exact absurd trivial speaks
  | sendingPid | dropping | awaitingPayload | endingInit | awaitingEnd | leaving | done =>
      exact absurd trivial speaks
  | _ => simp [MiddleStage.ends, dropOrder]

theorem payload_writes {stage : PayloadStage} (fits : (Point.payload stage).Fits sandbox)
    (speaks : ¬stage.phase.Quiet) : writeEnd .exec ∈ stage.ends := by
  cases stage with
  | reporting held failure => exact fits
  | running | ended | exiting | gone => exact absurd trivial speaks
  | _ => simp [PayloadStage.ends, boxEnds]

/-- The parent listens to the namespace until it has heard of it. -/
theorem parent_reads_ready {stage : ParentStage} (here : stage.phase = .preparing) :
    readEnd .sync1 ∈ stage.ends := by
  cases stage with
  | closing | awaitingReady => simp [ParentStage.ends, parentKeeps]
  | _ => cases here

/-- The parent listens to the reports until it has decided. -/
theorem parent_reads_reports {stage : ParentStage} (forked : stage.phase ≠ .unforked)
    (undecided : ∀ outcome, stage.phase ≠ .decided outcome) : readEnd .exec ∈ stage.ends := by
  cases stage with
  | abandoning | notForked => exact absurd rfl forked
  | closingFailure | reaping | failed | launched => exact absurd rfl (undecided _)
  | _ => simp [ParentStage.ends, parentKeeps, parentReads]

section Steps

variable {choice : Choice ExecFailure}

theorem closeInOrder_effect {member : Member} {order : List End} {pipeEnd : End}
    {again : End → Point} {onwards : Point}
    (effect : (program sandbox).Effect member state (closeInOrder order pipeEnd again onwards)
      choice next) :
    ∃ after kept, next = (state.keep member kept).moveTo member after ∧
      ((∃ other ∈ order, after = again other) ∨ after = onwards) := by
  have leads := effect.leads
  rw [closeInOrder] at effect
  split at effect
  · cases effect with
    | closed closed after =>
        refine ⟨_, _, rfl, ?_⟩
        rcases leads with ⟨point, leads, moved⟩
        rw [ProcessCode.moveTo_point] at moved
        cases moved
        exact closeInOrder_leads leads
  · cases effect

theorem readTwice_effect {member : Member} {channel : Channel} {again : Bool} {retry : Point}
    {answered : Received Message → Point}
    (effect : (program sandbox).Effect member state (readTwice channel again retry answered)
      choice next) :
    (∃ message rest, state.queue channel = message :: rest ∧
      next = (state.setQueue channel rest).moveTo member (answered (.message message))) ∨
    (state.queue channel = [] ∧ ¬state.Open channel .write ∧
      next = state.moveTo member (answered .endOfFile)) ∨
    (choice = .interrupted ∧ again = true ∧
      next = state.moveTo member (answered .interrupted)) ∨
    again = false ∧ next = state.moveTo member retry := by
  cases effect with
  | received channel after queued => exact .inl ⟨_, _, queued, rfl⟩
  | endOfFile channel after empty unwritten => exact .inr (.inl ⟨empty, unwritten, rfl⟩)
  | interrupted =>
      cases again with
      | true => exact .inr (.inr (.inl ⟨rfl, rfl, rfl⟩))
      | false => exact .inr (.inr (.inr ⟨rfl, rfl⟩))

/-- At the end of a file of the middle process it has nothing more to say. -/
theorem middle_quiet {channel : Channel} (owned : ProcessCode.Owned owns state)
    (births : Handshake.Births (view state)) (isReport : channel = .sync1 ∨ channel = .exec)
    (forked : (view state).parent ≠ .forking ∧ (view state).parent ≠ .unforked)
    (unwritten : ¬state.Open channel .write) :
    ∃ phase, (view state).middle = some phase ∧ phase.Quiet := by
  have born : (view state).middle ≠ none := by
    simpa [births.middle] using forked
  rcases Option.ne_none_iff_exists'.mp born with ⟨phase, seen⟩
  refine ⟨phase, seen, ?_⟩
  rcases middle_of_view seen with ⟨stage, here, rfl⟩
  by_contra speaks
  refine unwritten (owned.open_iff.mpr ⟨.middle, _, here, ?_⟩)
  rcases isReport with rfl | rfl
  · exact List.contains_iff_mem.mpr (middle_writes speaks).1
  · exact List.contains_iff_mem.mpr (middle_writes speaks).2

theorem payload_quiet {phase : PayloadPhase} (owned : ProcessCode.Owned owns state)
    (placed : ∀ member point, state.point member = some point → Placed sandbox member point)
    (unwritten : ¬state.Open .exec .write) (seen : (view state).payload = some phase) :
    phase.Quiet := by
  rcases payload_of_view seen with ⟨stage, here, rfl⟩
  by_contra speaks
  refine unwritten (owned.open_iff.mpr ⟨.payload, _, here, ?_⟩)
  exact List.contains_iff_mem.mpr (payload_writes (placed _ _ here).2 speaks)

theorem parent_simulates {stage : ParentStage} {mapped : Bool}
    (owned : ProcessCode.Owned owns state) (births : Handshake.Births (view state))
    (placed : ∀ member point, state.point member = some point → Placed sandbox member point)
    (here : state.point .parent = some (.parent stage mapped))
    (hears : lossy = false → choice = .interrupted →
      stage ≠ .awaitingReady true ∧ stage ≠ .awaitingFailure true)
    (effect : (program sandbox).Effect .parent state (parentCode sandbox mapped stage) choice
      next) :
    Handshake.Step sandbox lossy (view state) (view next) ∨ view next = view state := by
  have fits := (placed _ _ here).2
  rcases view_parent here with ⟨phase, rfl⟩
  have stays : { view state with parent := stage.phase } = view state := by rw [← phase]
  cases stage with
  | forking =>
      cases effect with
      | forked next failed unborn =>
          left
          simp only [program, view_moveTo_parent, view_spawnChild_middle]
          exact .fork phase (by simp [view, unborn])
      | forkFailed child next isFailure =>
          left
          cases isFailure
          rw [view_moveTo_parent]
          exact .giveUp phase
  | abandoning =>
      cases effect with
      | gaveUpAll =>
          right
          exact (view_moveTo_parent ..).trans stays
  | closing pipeEnd =>
      rcases closeInOrder_effect effect with ⟨after, kept, rfl, ⟨other, -, rfl⟩ | rfl⟩
      · right
        exact (view_moveTo_parent ..).trans stays
      · cases sandbox with
        | true =>
            right
            exact (view_moveTo_parent ..).trans stays
        | false =>
            left
            rw [if_neg Bool.false_ne_true, view_moveTo_parent]
            exact .skip rfl phase
  | awaitingReady again =>
      rw [parentCode] at effect
      rcases readTwice_effect effect with ⟨message, rest, queued, rfl⟩ | ⟨empty, unwritten, rfl⟩ |
        ⟨interrupted, twice, rfl⟩ | ⟨-, rfl⟩
      · left
        rw [view_moveTo_parent, view_setQueue_sync1]
        exact .hear fits phase queued
      · left
        rw [view_moveTo_parent]
        rcases middle_quiet owned births (.inl rfl) (by simp [phase, ParentStage.phase]) unwritten
          with ⟨other, seen, quiet⟩
        exact .hangUp fits phase empty seen quiet
      · left
        rw [view_moveTo_parent]
        refine .mishear ?_ fits phase
        by_contra isLossless
        exact (hears (by simpa using isLossless) interrupted).1 (by rw [twice])
      · right
        exact (view_moveTo_parent ..).trans stays
  | mapping ready =>
      cases effect with
      | called =>
          left
          rw [view_moveTo_parent]
          exact .map phase
      | callFailed next isFailure => cases isFailure
  | answering =>
      cases effect with
      | sent =>
          left
          rw [view_moveTo_parent, view_setQueue_sync2]
          exact .answer phase
      | refused =>
          left
          rw [view_moveTo_parent]
          exact .answer phase
  | closingSync pipeEnd =>
      rcases closeInOrder_effect effect with ⟨after, kept, rfl, ⟨other, -, rfl⟩ | rfl⟩ <;>
      · right
        exact (view_moveTo_parent ..).trans stays
  | awaitingPid again =>
      right
      rw [parentCode] at effect
      rcases readTwice_effect effect with ⟨message, rest, queued, rfl⟩ | ⟨empty, unwritten, rfl⟩ |
        ⟨interrupted, twice, rfl⟩ | ⟨-, rfl⟩
      · rw [view_moveTo_parent, view_setQueue_pid]
        exact stays
      · exact (view_moveTo_parent ..).trans stays
      · exact (view_moveTo_parent ..).trans stays
      · exact (view_moveTo_parent ..).trans stays
  | closingPid =>
      cases effect with
      | closed =>
          right
          exact (view_moveTo_parent ..).trans stays
  | awaitingFailure again =>
      rw [parentCode] at effect
      rcases readTwice_effect effect with ⟨message, rest, queued, rfl⟩ | ⟨empty, unwritten, rfl⟩ |
        ⟨interrupted, twice, rfl⟩ | ⟨-, rfl⟩
      · left
        have learned : Handshake.Step sandbox lossy (view state) _ := .learn phase queued
        cases message <;> rw [view_moveTo_parent, view_setQueue_exec] <;> exact learned
      · left
        rw [view_moveTo_parent]
        rcases middle_quiet owned births (.inr rfl) (by simp [phase, ParentStage.phase]) unwritten
          with ⟨other, seen, quiet⟩
        refine .conclude phase empty seen quiet fun ended born => ?_
        exact payload_quiet owned placed unwritten born
      · left
        rw [view_moveTo_parent]
        refine .assume ?_ phase
        by_contra isLossless
        exact (hears (by simpa using isLossless) interrupted).2 (by rw [twice])
      · right
        exact (view_moveTo_parent ..).trans stays
  | closingFailure failure =>
      cases failure <;> cases effect with
      | closed =>
          right
          exact (view_moveTo_parent ..).trans stays
  | reaping failure =>
      cases effect with
      | awaited =>
          right
          exact (view_moveTo_parent ..).trans stays
  | notForked | failed | launched => cases effect

/-- A report is delivered unless the parent has decided. -/
theorem delivers_of_refused (owned : ProcessCode.Owned owns state)
    (births : Handshake.Births (view state)) (born : (view state).middle ≠ none)
    (alive : ∃ stage mapped, state.point .parent = some (.parent stage mapped))
    (failure : ExecFailure) (unread : ¬state.Open .exec .read) :
    (view state).Delivers failure (view state).reports := by
  rcases alive with ⟨stage, mapped, here⟩
  have phase := (view_parent here).1
  have forked : stage.phase ≠ .unforked := by
    intro unforked
    exact born (births.middle.mpr (.inr (phase.trans unforked)))
  by_contra undecided
  refine unread (owned.open_iff.mpr ⟨.parent, _, here, List.contains_iff_mem.mpr ?_⟩)
  refine parent_reads_reports forked fun outcome decided => undecided ?_
  exact .lost (phase.trans decided)

theorem middle_simulates {stage : MiddleStage}
    (owned : ProcessCode.Owned owns state) (births : Handshake.Births (view state))
    (alive : ∃ stage mapped, state.point .parent = some (.parent stage mapped))
    (placed : ∀ member point, state.point member = some point → Placed sandbox member point)
    (here : state.point .middle = some (.middle stage))
    (effect : (program sandbox).Effect .middle state (middleCode sandbox stage) choice next) :
    Handshake.Step sandbox lossy (view state) (view next) ∨ view next = view state := by
  have fits := (placed _ _ here).2
  have phase := view_middle here
  have stays : { view state with middle := some stage.phase } = view state := by rw [← phase]
  cases stage with
  | closing pipeEnd =>
      rcases closeInOrder_effect effect with ⟨after, kept, rfl, ⟨other, -, rfl⟩ | rfl⟩
      · right
        exact (view_moveTo_middle ..).trans stays
      · cases sandbox with
        | true =>
            right
            exact (view_moveTo_middle ..).trans stays
        | false =>
            left
            rw [if_neg Bool.false_ne_true, view_moveTo_middle]
            exact .populate rfl phase
  | unsharing =>
      cases effect with
      | called =>
          right
          exact (view_moveTo_middle ..).trans stays
      | callFailed next isFailure =>
          left
          rw [failsAt_ends isFailure, view_moveTo_middle]
          exact .notIsolated phase
  | signalling =>
      cases effect with
      | sent =>
          left
          rw [view_moveTo_middle, view_setQueue_sync1]
          exact .signal fits phase
      | refused channel message next unread =>
          left
          rw [view_moveTo_middle]
          refine .unheard phase fits fun listens => unread ?_
          rcases alive with ⟨parent, mapped, there⟩
          refine owned.open_iff.mpr ⟨.parent, _, there, List.contains_iff_mem.mpr ?_⟩
          exact parent_reads_ready ((view_parent there).1.symm.trans listens)
  | awaitingMaps =>
      cases effect with
      | received channel next queued =>
          left
          rw [view_moveTo_middle, view_setQueue_sync2]
          exact .release phase queued
      | endOfFile | interrupted =>
          left
          rw [view_moveTo_middle]
          exact .notReleased phase
  | forkingInit =>
      cases effect with
      | forked next failed unborn =>
          right
          simp only [program, view_moveTo_middle, view_spawnChild_init]
          exact stays
      | forkFailed child next isFailure =>
          left
          rw [failsAt_ends isFailure, view_moveTo_middle]
          exact .notPopulated phase
  | forkingPayload =>
      cases effect with
      | forked next failed unborn =>
          left
          simp only [program, view_moveTo_middle, view_spawnChild_payload]
          exact .spawn phase (by simp [view, unborn])
      | forkFailed child next isFailure =>
          left
          rw [failsAt_ends isFailure]
          cases sandbox with
          | true =>
              rw [if_pos rfl, view_moveTo_middle]
              exact .notPopulated phase
          | false =>
              rw [if_neg Bool.false_ne_true, view_moveTo_middle]
              exact .notPopulated phase
  | killingInit failure | endingInit =>
      cases effect with
      | killed =>
          right
          rw [view_moveTo_middle, view_deliverKill_init]
          exact stays
  | reporting failure =>
      cases effect with
      | sent =>
          left
          rw [view_moveTo_middle, view_setQueue_exec]
          exact .report phase .queued
      | refused channel message next unread =>
          left
          rw [view_moveTo_middle]
          refine .report phase ?_
          exact delivers_of_refused owned births (by simp [phase]) alive failure unread
  | sendingPid =>
      right
      cases effect with
      | sent =>
          rw [view_moveTo_middle, view_setQueue_pid]
          exact stays
      | refused => exact (view_moveTo_middle ..).trans stays
  | dropping pipeEnd =>
      rcases closeInOrder_effect effect with ⟨after, kept, rfl, ⟨other, -, rfl⟩ | rfl⟩ <;>
      · right
        exact (view_moveTo_middle ..).trans stays
  | awaitingPayload =>
      right
      cases effect with
      | awaited => cases sandbox <;> exact (view_moveTo_middle ..).trans stays
  | awaitingInit | awaitingEnd =>
      right
      cases effect with
      | awaited => exact (view_moveTo_middle ..).trans stays
  | leaving =>
      right
      cases effect with
      | gaveUpAll => exact (view_moveTo_middle ..).trans stays
  | exiting reported =>
      right
      cases effect with
      | gaveUpAll => cases reported <;> exact (view_moveTo_middle ..).trans stays
  | done | gone => cases effect

theorem init_simulates {stage : InitStage}
    (effect : (program sandbox).Effect .init state (initCode stage) choice next) :
    view next = view state := by
  cases stage with
  | closing pipeEnd =>
      rcases closeInOrder_effect effect with ⟨after, kept, rfl, -⟩
      rw [view_moveTo_init, view_keep]
  | dying =>
      cases effect with
      | gaveUpAll => rw [view_moveTo_init, view_keep]
  | reaping | gone => cases effect

theorem payload_simulates {stage : PayloadStage}
    (owned : ProcessCode.Owned owns state) (births : Handshake.Births (view state))
    (alive : ∃ stage mapped, state.point .parent = some (.parent stage mapped))
    (here : state.point .payload = some (.payload stage))
    (effect : (program sandbox).Effect .payload state (payloadCode sandbox stage) choice next) :
    Handshake.Step sandbox lossy (view state) (view next) ∨ view next = view state := by
  have phase := view_payload here
  have stays : { view state with payload := some stage.phase } = view state := by rw [← phase]
  have spawned : (view state).middle = some .spawned := births.payload.mp (by simp [phase])
  cases stage with
  | closing pipeEnd =>
      right
      rcases closeInOrder_effect effect with ⟨after, kept, rfl, ⟨other, -, rfl⟩ | rfl⟩
      · exact (view_moveTo_payload ..).trans stays
      · cases sandbox <;> exact (view_moveTo_payload ..).trans stays
  | connecting | enteringRoot | limiting | filtering | changingDirectory | executing =>
      cases effect with
      | called =>
          right
          exact (view_moveTo_payload ..).trans stays
      | callFailed next isFailure =>
          left
          rw [failsAt_ends isFailure, view_moveTo_payload]
          exact .notStarted phase
  | closingExtra =>
      right
      cases effect with
      | keptOne => cases sandbox <;> exact (view_moveTo_payload ..).trans stays
  | starting =>
      cases effect with
      | gaveUpAll =>
          left
          rw [view_moveTo_payload]
          exact .start phase
  | running | exiting =>
      cases effect with
      | gaveUpAll =>
          right
          exact (view_moveTo_payload ..).trans stays
  | reporting held failure =>
      cases effect with
      | sent =>
          left
          rw [view_moveTo_payload, view_setQueue_exec]
          exact .reportStart phase .queued
      | refused channel message next unread =>
          left
          rw [view_moveTo_payload]
          refine .reportStart phase ?_
          exact delivers_of_refused owned births (by simp [spawned]) alive failure unread
  | ended | gone => cases effect

end Steps

/-- A read of the parent that is interrupted at its second attempt. -/
def Misses (state : State) (label : Member × Choice ExecFailure) : Prop :=
  label = (.parent, .interrupted) ∧ ∃ mapped,
    state.point .parent = some (.parent (.awaitingReady true) mapped) ∨
      state.point .parent = some (.parent (.awaitingFailure true) mapped)

/-- The steps that are allowed when reads may be lost, and when not. -/
def Hears (lossy : Bool) (state : State) (label : Member × Choice ExecFailure) : Prop :=
  lossy = false → ¬Misses state label

theorem parent_alive {allowed : State → Member × Choice ExecFailure → Prop}
    (reaches : (program sandbox).system.Reaches allowed start state) :
    ∃ stage mapped, state.point .parent = some (.parent stage mapped) := by
  have born : state.point .parent ≠ none :=
    ProcessCode.born_of_reaches reaches (by simp [start])
  rcases Option.ne_none_iff_exists'.mp born with ⟨point, here⟩
  have isOwner := (placed_of_reaches reaches _ _ here).1
  cases point with
  | parent stage mapped => exact ⟨stage, mapped, here⟩
  | middle | init | payload => cases isOwner

/-- In every state of a launch the handshake is in order. -/
theorem coherent_of_reaches (reaches : (program sandbox).system.Reaches (Hears lossy) start state) :
    Handshake.Coherent sandbox lossy (view state) := by
  apply invariant_of_reaches (fun state => Handshake.Coherent sandbox lossy (view state)) reaches
  · exact Handshake.coherent_initial
  · intro point choice before after reached coherent hears here effect
    have owned := owned_of_reaches reached
    have placed := placed_of_reaches reached
    have alive := parent_alive reached
    have births := coherent.births
    have simulated : Handshake.Step sandbox lossy (view before) (view after) ∨
        view after = view before := by
      cases point with
      | parent stage mapped =>
          refine parent_simulates owned births placed here ?_ effect
          rintro isLossless rfl
          have heard := hears isLossless
          constructor
          · rintro rfl
            exact heard ⟨rfl, mapped, .inl here⟩
          · rintro rfl
            exact heard ⟨rfl, mapped, .inr here⟩
      | middle stage => exact middle_simulates owned births alive placed here effect
      | init stage => exact .inr (init_simulates effect)
      | payload stage => exact payload_simulates owned births alive here effect
    rcases simulated with step | same
    · exact coherent.step step
    · rwa [same]

end Launching

end OnlineJudge.Judge
