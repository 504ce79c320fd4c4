import OnlineJudge.Judge.Launching.Handshake
import OnlineJudge.Judge.Launching.Descriptors

/-!
# What the handshake sees of a launch

The phases of the stages, and the points at which each of the four processes can be.
-/

namespace OnlineJudge.Judge

namespace Launching

open Library

def ParentStage.phase : ParentStage → ParentPhase
  | .forking => .forking
  | .abandoning | .notForked => .unforked
  | .closing _ | .awaitingReady _ => .preparing
  | .mapping ready => .mapping ready
  | .answering => .answering
  | .closingSync _ | .awaitingPid _ | .closingPid | .awaitingFailure _ => .listening
  | .closingFailure failure => .decided failure
  | .reaping failure | .failed failure => .decided (some failure)
  | .launched => .decided none

def MiddleStage.phase : MiddleStage → MiddlePhase
  | .closing _ | .unsharing | .signalling => .isolating
  | .awaitingMaps => .waiting
  | .forkingInit | .forkingPayload => .populating
  | .killingInit failure | .awaitingInit failure | .reporting failure => .failing failure
  | .sendingPid | .dropping _ | .awaitingPayload | .endingInit | .awaitingEnd | .leaving
  | .done => .spawned
  | .exiting (some failure) | .gone (some failure) => .reported failure
  | .exiting none | .gone none => .silent

def PayloadStage.phase : PayloadStage → PayloadPhase
  | .connecting | .closing _ | .enteringRoot | .closingExtra | .limiting | .filtering
  | .changingDirectory | .executing | .starting => .preparing
  | .running | .ended => .started
  | .reporting _ failure => .failing failure
  | .exiting _ failure | .gone failure => .reported failure

def Point.parentPhase : Point → ParentPhase
  | .parent stage _ => stage.phase
  | _ => .forking

def Point.mapped : Point → Bool
  | .parent _ mapped => mapped
  | _ => false

def Point.middlePhase : Point → Option MiddlePhase
  | .middle stage => some stage.phase
  | _ => none

def Point.payloadPhase : Point → Option PayloadPhase
  | .payload stage => some stage.phase
  | _ => none

/-- What the handshake sees of a launch. -/
def view (state : State) : Handshake where
  parent := (state.point .parent).elim .forking Point.parentPhase
  mapped := (state.point .parent).elim false Point.mapped
  middle := (state.point .middle).bind Point.middlePhase
  payload := (state.point .payload).bind Point.payloadPhase
  ready := state.queue .sync1
  answers := state.queue .sync2
  reports := state.queue .exec

/-- Which points there are with a sandbox, and which without; closing goes on in its order. -/
def Point.Fits (sandbox : Bool) : Point → Prop
  | .parent (.closing pipeEnd) _ => pipeEnd ∈ parentOrder
  | .parent (.closingSync pipeEnd) _ => pipeEnd ∈ syncOrder
  | .middle (.closing pipeEnd) => pipeEnd ∈ middleOrder
  | .middle (.dropping pipeEnd) => pipeEnd ∈ dropOrder
  | .init (.closing pipeEnd) => pipeEnd ∈ initOrder
  | .payload (.closing pipeEnd) => pipeEnd ∈ payloadOrder
  | .parent (.awaitingReady _) _ | .parent (.mapping _) _ | .parent .answering _ => sandbox = true
  | .middle .unsharing | .middle .signalling | .middle .awaitingMaps | .middle .forkingInit
  | .middle (.killingInit _) | .middle (.awaitingInit _) | .middle .endingInit
  | .middle .awaitingEnd => sandbox = true
  | .payload (.reporting held _) | .payload (.exiting held _) => writeEnd .exec ∈ held
  | _ => True

/-- A process that has been born is at a point of its own. -/
def Placed (sandbox : Bool) (member : Member) (point : Point) : Prop :=
  point.owner = member ∧ point.Fits sandbox

variable {sandbox lossy : Bool} {state next : State}

theorem closeInOrder_leads {order : List End} {pipeEnd : End} {again : End → Point}
    {onwards after : Point}
    (leads : ProcessCode.Leads (closeInOrder order pipeEnd again onwards) after) :
    (∃ next ∈ order, after = again next) ∨ after = onwards := by
  rw [closeInOrder] at leads
  split at leads
  · split at leads
    · rename_i next follows
      have isLeft : next ∈ order :=
        mem_of_mem_remaining (List.mem_of_mem_tail (List.mem_of_mem_head? follows))
      exact .inl ⟨next, isLeft, leads⟩
    · exact .inr leads
  · cases leads

theorem parent_placed {stage : ParentStage} {mapped : Bool} {after : Point}
    (here : (Point.parent stage mapped).Fits sandbox)
    (leads : ProcessCode.Leads (parentCode sandbox mapped stage) after) :
    Placed sandbox .parent after := by
  cases stage with
  | forking =>
      rcases leads with rfl | ⟨failure, isFailure⟩
      · exact ⟨rfl, List.mem_cons_self⟩
      · cases isFailure
        exact ⟨rfl, trivial⟩
  | closing pipeEnd =>
      rcases closeInOrder_leads leads with ⟨next, isLeft, rfl⟩ | rfl
      · exact ⟨rfl, isLeft⟩
      · cases sandbox
        · exact ⟨rfl, List.mem_cons_self⟩
        · exact ⟨rfl, rfl⟩
  | closingSync pipeEnd =>
      rcases closeInOrder_leads leads with ⟨next, isLeft, rfl⟩ | rfl
      · exact ⟨rfl, isLeft⟩
      · exact ⟨rfl, trivial⟩
  | awaitingReady again =>
      rcases leads with ⟨answer, rfl⟩
      cases answer <;> cases again <;> exact ⟨rfl, here⟩
  | awaitingPid again =>
      rcases leads with ⟨answer, rfl⟩
      cases answer <;> cases again <;> exact ⟨rfl, trivial⟩
  | awaitingFailure again =>
      rcases leads with ⟨answer, rfl⟩
      cases again <;> rcases answer with (_ | _ | _) | _ | _ <;> exact ⟨rfl, trivial⟩
  | mapping ready =>
      rcases leads with rfl | ⟨failure, isFailure⟩
      · exact ⟨rfl, here⟩
      · cases isFailure
  | answering =>
      rcases leads with ⟨delivered, rfl⟩
      exact ⟨rfl, List.mem_cons_self⟩
  | closingFailure failure => cases failure <;> cases leads <;> exact ⟨rfl, trivial⟩
  | closingPid | reaping | abandoning =>
      cases leads
      exact ⟨rfl, trivial⟩
  | notForked | failed | launched => cases leads

theorem middle_placed {stage : MiddleStage} {after : Point}
    (here : (Point.middle stage).Fits sandbox)
    (leads : ProcessCode.Leads (middleCode sandbox stage) after) :
    Placed sandbox .middle after := by
  cases stage with
  | closing pipeEnd =>
      rcases closeInOrder_leads leads with ⟨next, isLeft, rfl⟩ | rfl
      · exact ⟨rfl, isLeft⟩
      · cases sandbox
        · exact ⟨rfl, trivial⟩
        · exact ⟨rfl, rfl⟩
  | dropping pipeEnd =>
      rcases closeInOrder_leads leads with ⟨next, isLeft, rfl⟩ | rfl
      · exact ⟨rfl, isLeft⟩
      · exact ⟨rfl, trivial⟩
  | unsharing =>
      rcases leads with rfl | ⟨failure, isFailure⟩
      · exact ⟨rfl, here⟩
      · rw [failsAt_ends isFailure]
        exact ⟨rfl, trivial⟩
  | signalling =>
      rcases leads with ⟨delivered, rfl⟩
      cases delivered
      · exact ⟨rfl, trivial⟩
      · exact ⟨rfl, here⟩
  | awaitingMaps =>
      rcases leads with ⟨answer, rfl⟩
      cases answer
      · exact ⟨rfl, here⟩
      · exact ⟨rfl, trivial⟩
      · exact ⟨rfl, trivial⟩
  | forkingInit =>
      rcases leads with rfl | ⟨failure, isFailure⟩
      · exact ⟨rfl, trivial⟩
      · rw [failsAt_ends isFailure]
        exact ⟨rfl, trivial⟩
  | forkingPayload =>
      rcases leads with rfl | ⟨failure, isFailure⟩
      · exact ⟨rfl, trivial⟩
      · rw [failsAt_ends isFailure]
        cases sandbox
        · exact ⟨rfl, trivial⟩
        · exact ⟨rfl, rfl⟩
  | killingInit | endingInit =>
      cases leads
      exact ⟨rfl, here⟩
  | awaitingPayload =>
      cases leads
      cases sandbox
      · exact ⟨rfl, trivial⟩
      · exact ⟨rfl, rfl⟩
  | sendingPid =>
      rcases leads with ⟨delivered, rfl⟩
      exact ⟨rfl, List.mem_cons_self⟩
  | reporting =>
      rcases leads with ⟨delivered, rfl⟩
      exact ⟨rfl, trivial⟩
  | awaitingInit | awaitingEnd | leaving | exiting =>
      cases leads
      exact ⟨rfl, trivial⟩
  | done | gone => cases leads

theorem init_placed {stage : InitStage} {after : Point}
    (leads : ProcessCode.Leads (initCode stage) after) : Placed sandbox .init after := by
  cases stage with
  | closing pipeEnd =>
      rcases closeInOrder_leads leads with ⟨next, isLeft, rfl⟩ | rfl
      · exact ⟨rfl, isLeft⟩
      · exact ⟨rfl, trivial⟩
  | dying =>
      cases leads
      exact ⟨rfl, trivial⟩
  | reaping | gone => cases leads

theorem payload_placed {stage : PayloadStage} {after : Point}
    (here : (Point.payload stage).Fits sandbox)
    (leads : ProcessCode.Leads (payloadCode sandbox stage) after) :
    Placed sandbox .payload after := by
  cases stage with
  | closing pipeEnd =>
      rcases closeInOrder_leads leads with ⟨next, isLeft, rfl⟩ | rfl
      · exact ⟨rfl, isLeft⟩
      · cases sandbox <;> exact ⟨rfl, trivial⟩
  | connecting | enteringRoot | limiting | filtering | changingDirectory | executing =>
      rcases leads with rfl | ⟨failure, isFailure⟩
      · exact ⟨rfl, by simp [Point.Fits, payloadOrder]⟩
      · rw [failsAt_ends isFailure]
        exact ⟨rfl, by simp [Point.Fits, payloadOrder, boxEnds]⟩
  | reporting =>
      rcases leads with ⟨delivered, rfl⟩
      exact ⟨rfl, here⟩
  | closingExtra =>
      cases leads
      cases sandbox <;> exact ⟨rfl, trivial⟩
  | starting | running | exiting =>
      cases leads
      exact ⟨rfl, trivial⟩
  | ended | gone => cases leads

theorem placed_of_reaches {allowed : State → Member × Choice ExecFailure → Prop}
    (reaches : (program sandbox).system.Reaches allowed start state) :
    ∀ member point, state.point member = some point → Placed sandbox member point := by
  apply ProcessCode.points_of_reaches (Placed sandbox) reaches
  · intro member point here
    cases member <;> cases here
    exact ⟨rfl, trivial⟩
  · intro child
    cases child with
    | parent | payload => exact ⟨rfl, trivial⟩
    | middle | init => exact ⟨rfl, List.mem_cons_self⟩
  · intro member point placed
    cases point with
    | parent | middle | payload => exact placed
    | init stage => cases stage <;> exact ⟨placed.1, trivial⟩
  · intro member point after placed leads
    rcases placed with ⟨rfl, fits⟩
    simp only [program, if_pos] at leads
    cases point with
    | parent stage mapped => exact parent_placed fits leads
    | middle stage => exact middle_placed fits leads
    | init stage => exact init_placed leads
    | payload stage => exact payload_placed fits leads

/-- What every operation of the four processes keeps holds in every state of a launch. -/
theorem invariant_of_reaches {allowed : State → Member × Choice ExecFailure → Prop}
    (inv : State → Prop) (reaches : (program sandbox).system.Reaches allowed start state)
    (initially : inv start)
    (preserved : ∀ point choice before after,
      (program sandbox).system.Reaches allowed start before → inv before →
      allowed before (point.owner, choice) → before.point point.owner = some point →
      (program sandbox).Effect point.owner before (point.request sandbox) choice after →
      inv after) : inv state := by
  apply ProcessCode.invariant_of_reaches inv reaches initially
  intro member choice point before after reached holds isAllowed here effect
  have isOwner := (placed_of_reaches reached _ _ here).1
  subst isOwner
  simp only [program, if_pos] at effect
  exact preserved point choice before after reached holds isAllowed here effect

section View

variable (state)

@[simp] theorem view_keep (member : Member) (kept : End → Bool) :
    view (state.keep member kept) = view state := rfl

@[simp] theorem view_moveTo_parent (stage : ParentStage) (mapped : Bool) :
    view (state.moveTo .parent (.parent stage mapped)) =
      { view state with parent := stage.phase, mapped } := by
  simp [view, Processes.moveTo, Point.parentPhase, Point.mapped]

@[simp] theorem view_moveTo_middle (stage : MiddleStage) :
    view (state.moveTo .middle (.middle stage)) =
      { view state with middle := some stage.phase } := by
  simp [view, Processes.moveTo, Point.middlePhase]

@[simp] theorem view_moveTo_init (point : Point) :
    view (state.moveTo .init point) = view state := by
  simp [view, Processes.moveTo]

@[simp] theorem view_moveTo_payload (stage : PayloadStage) :
    view (state.moveTo .payload (.payload stage)) =
      { view state with payload := some stage.phase } := by
  simp [view, Processes.moveTo, Point.payloadPhase]

@[simp] theorem view_setQueue_sync1 (messages : List Message) :
    view (state.setQueue .sync1 messages) = { view state with ready := messages } := by
  simp [view, Processes.setQueue]

@[simp] theorem view_setQueue_sync2 (messages : List Message) :
    view (state.setQueue .sync2 messages) = { view state with answers := messages } := by
  simp [view, Processes.setQueue]

@[simp] theorem view_setQueue_pid (messages : List Message) :
    view (state.setQueue .pid messages) = view state := by
  simp [view, Processes.setQueue]

@[simp] theorem view_setQueue_exec (messages : List Message) :
    view (state.setQueue .exec messages) = { view state with reports := messages } := by
  simp [view, Processes.setQueue]

@[simp] theorem view_spawnChild_middle :
    view (state.spawnChild .parent .middle (entry .middle)) =
      { view state with middle := some .isolating } := by
  simp [view, Processes.spawnChild, entry, Point.middlePhase, MiddleStage.phase]

@[simp] theorem view_spawnChild_init :
    view (state.spawnChild .middle .init (entry .init)) = view state := by
  simp [view, Processes.spawnChild]

@[simp] theorem view_spawnChild_payload :
    view (state.spawnChild .middle .payload (entry .payload)) =
      { view state with payload := some .preparing } := by
  simp [view, Processes.spawnChild, entry, Point.payloadPhase, PayloadStage.phase]

@[simp] theorem view_deliverKill_init :
    view ((program sandbox).deliverKill .init state) = view state := by
  rw [ProcessCode.deliverKill]
  split
  · rfl
  · split
    · rfl
    · exact view_moveTo_init state _

end View

theorem view_parent {stage : ParentStage} {mapped : Bool}
    (here : state.point .parent = some (.parent stage mapped)) :
    (view state).parent = stage.phase ∧ (view state).mapped = mapped := by
  simp [view, here, Point.parentPhase, Point.mapped]

theorem view_middle {stage : MiddleStage} (here : state.point .middle = some (.middle stage)) :
    (view state).middle = some stage.phase := by
  simp [view, here, Point.middlePhase]

theorem view_payload {stage : PayloadStage}
    (here : state.point .payload = some (.payload stage)) :
    (view state).payload = some stage.phase := by
  simp [view, here, Point.payloadPhase]

theorem middle_of_view {phase : MiddlePhase} (seen : (view state).middle = some phase) :
    ∃ stage, state.point .middle = some (.middle stage) ∧ stage.phase = phase := by
  rcases Option.bind_eq_some_iff.mp seen with ⟨point, here, isPhase⟩
  cases point with
  | middle stage => exact ⟨stage, here, Option.some.inj isPhase⟩
  | parent | init | payload => cases isPhase

theorem payload_of_view {phase : PayloadPhase} (seen : (view state).payload = some phase) :
    ∃ stage, state.point .payload = some (.payload stage) ∧ stage.phase = phase := by
  rcases Option.bind_eq_some_iff.mp seen with ⟨point, here, isPhase⟩
  cases point with
  | payload stage => exact ⟨stage, here, Option.some.inj isPhase⟩
  | parent | middle | init => cases isPhase

end Launching

end OnlineJudge.Judge
