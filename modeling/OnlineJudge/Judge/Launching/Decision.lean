import OnlineJudge.Judge.Launching.Children
import OnlineJudge.Judge.Launching.Simulation

/-!
# The launch is always decided

Every operation leaves its process less to do, so that no schedule of the launch goes on for
ever; and as long as the parent has not decided, somebody can go on, without any help of the
program that is started.
-/

namespace OnlineJudge.Judge

namespace Launching

open Library

/-- How many steps the parent has left at most. -/
@[simp] def ParentStage.rank : ParentStage → ℕ
  | .forking => 53
  | .abandoning => 1
  | .closing pipeEnd => 13 + (remaining parentOrder pipeEnd).length
  | .awaitingReady again => if again then 12 else 13
  | .mapping _ => 11
  | .answering => 10
  | .closingSync pipeEnd => 7 + (remaining syncOrder pipeEnd).length
  | .awaitingPid again => if again then 6 else 7
  | .closingPid => 5
  | .awaitingFailure again => if again then 3 else 4
  | .closingFailure _ => 2
  | .reaping _ => 1
  | .notForked | .failed _ | .launched => 0

@[simp] def MiddleStage.rank : MiddleStage → ℕ
  | .closing pipeEnd => 31 + (remaining middleOrder pipeEnd).length
  | .unsharing => 31
  | .signalling => 30
  | .awaitingMaps => 29
  | .forkingInit => 28
  | .forkingPayload => 22
  | .sendingPid => 9
  | .dropping pipeEnd => 4 + (remaining dropOrder pipeEnd).length
  | .awaitingPayload | .killingInit _ => 4
  | .endingInit | .awaitingInit _ => 3
  | .awaitingEnd | .reporting _ => 2
  | .leaving | .exiting _ => 1
  | .done | .gone _ => 0

@[simp] def InitStage.rank : InitStage → ℕ
  | .closing pipeEnd => 1 + (remaining initOrder pipeEnd).length
  | .reaping | .dying _ => 1
  | .gone => 0

@[simp] def PayloadStage.rank : PayloadStage → ℕ
  | .connecting => 12
  | .closing pipeEnd => 9 + (remaining payloadOrder pipeEnd).length
  | .enteringRoot => 9
  | .closingExtra => 8
  | .limiting => 7
  | .filtering | .changingDirectory => 6
  | .executing => 5
  | .starting => 4
  | .running => 3
  | .reporting _ _ => 2
  | .exiting _ _ => 1
  | .ended | .gone _ => 0

def rank : Member → Point → ℕ
  | _, .parent stage _ => stage.rank
  | _, .middle stage => stage.rank
  | _, .init stage => stage.rank
  | _, .payload stage => stage.rank

@[simp] theorem rank_parent (member : Member) (stage : ParentStage) (mapped : Bool) :
    rank member (.parent stage mapped) = stage.rank := rfl

@[simp] theorem rank_middle (member : Member) (stage : MiddleStage) :
    rank member (.middle stage) = stage.rank := rfl

@[simp] theorem rank_init (member : Member) (stage : InitStage) :
    rank member (.init stage) = stage.rank := rfl

@[simp] theorem rank_payload (member : Member) (stage : PayloadStage) :
    rank member (.payload stage) = stage.rank := rfl

section Rank

variable {order : List End} {pipeEnd : End} {sandbox : Bool} {member : Member}

theorem remaining_length_following {next : End} (distinct : order.Nodup)
    (isClosed : pipeEnd ∈ order) (follows : following order pipeEnd = some next) :
    (remaining order next).length + 1 = (remaining order pipeEnd).length := by
  rw [remaining_following distinct isClosed follows, remaining_eq_cons isClosed]
  simp

/-- With each end that is closed there is less to do. -/
theorem closeInOrder_lowers {again : End → Point} {onwards after : Point} (member : Member)
    (base : ℕ) (distinct : order.Nodup)
    (there : ∀ next, rank member (again next) = base + (remaining order next).length)
    (atLast : rank member onwards ≤ base)
    (leads : ProcessCode.Leads (closeInOrder order pipeEnd again onwards) after) :
    rank member after < base + (remaining order pipeEnd).length := by
  rw [closeInOrder] at leads
  split at leads
  · rename_i isClosed
    have some_left : 0 < (remaining order pipeEnd).length := by
      rw [remaining_eq_cons isClosed]
      simp
    split at leads
    · rename_i next follows
      have shorter := remaining_length_following distinct isClosed follows
      cases leads
      rw [there]
      omega
    · cases leads
      omega
  · cases leads

theorem forkCost_closeInOrder {again : End → Point} {onwards : Point} :
    (program sandbox).forkCost rank (closeInOrder order pipeEnd again onwards) = 0 := by
  rw [closeInOrder]
  split <;> rfl

theorem parent_lowers {stage : ParentStage} {mapped : Bool} {after : Point}
    (leads : ProcessCode.Leads (parentCode sandbox mapped stage) after) :
    rank .parent after + (program sandbox).forkCost rank (parentCode sandbox mapped stage) <
      stage.rank := by
  cases stage with
  | forking =>
      have cost : (program sandbox).forkCost rank (parentCode sandbox mapped .forking) = 35 :=
        rfl
      rw [cost]
      rcases leads with rfl | ⟨failure, isFailure⟩
      · decide +revert
      · cases isFailure
        simp
  | closing pipeEnd =>
      have lower := closeInOrder_lowers .parent 13 (by decide) (fun _ => rfl)
        (by cases sandbox <;> simp [syncOrder, remaining]) leads
      simpa [parentCode, forkCost_closeInOrder] using lower
  | closingSync pipeEnd =>
      have lower := closeInOrder_lowers .parent 7 (by decide) (fun _ => rfl)
        (by simp) leads
      simpa [parentCode, forkCost_closeInOrder] using lower
  | awaitingReady again | awaitingPid again =>
      rcases leads with ⟨answer, rfl⟩
      cases answer <;> cases again <;> simp [ProcessCode.forkCost, readTwice, parentCode]
  | awaitingFailure again =>
      rcases leads with ⟨answer, rfl⟩
      cases again <;> rcases answer with (_ | _ | _) | _ | _ <;>
        simp [ProcessCode.forkCost, readTwice, parentCode]
  | mapping =>
      rcases leads with rfl | ⟨failure, isFailure⟩
      · simp [ProcessCode.forkCost, parentCode]
      · cases isFailure
  | answering =>
      rcases leads with ⟨delivered, rfl⟩
      simp [ProcessCode.forkCost, parentCode, syncOrder, remaining]
  | closingFailure failure =>
      cases failure <;> cases leads <;> simp [ProcessCode.forkCost, parentCode]
  | closingPid | reaping | abandoning =>
      cases leads
      simp [ProcessCode.forkCost, parentCode]
  | notForked | failed | launched => cases leads

theorem middle_lowers {stage : MiddleStage} {after : Point}
    (leads : ProcessCode.Leads (middleCode sandbox stage) after) :
    rank .middle after + (program sandbox).forkCost rank (middleCode sandbox stage) <
      stage.rank := by
  cases stage with
  | closing pipeEnd =>
      have lower := closeInOrder_lowers .middle 31 (by decide) (fun _ => rfl)
        (by cases sandbox <;> simp) leads
      simpa [middleCode, forkCost_closeInOrder] using lower
  | dropping pipeEnd =>
      have lower := closeInOrder_lowers .middle 4 (by decide) (fun _ => rfl)
        (by simp) leads
      simpa [middleCode, forkCost_closeInOrder] using lower
  | unsharing =>
      rcases leads with rfl | ⟨failure, isFailure⟩
      · simp [ProcessCode.forkCost, middleCode]
      · simp [ProcessCode.forkCost, middleCode, failsAt_ends isFailure]
  | signalling =>
      rcases leads with ⟨delivered, rfl⟩
      cases delivered <;> simp [ProcessCode.forkCost, middleCode]
  | awaitingMaps =>
      rcases leads with ⟨answer, rfl⟩
      cases answer <;> simp [ProcessCode.forkCost, middleCode]
  | forkingInit =>
      have cost : (program sandbox).forkCost rank (middleCode sandbox .forkingInit) = 5 := rfl
      rw [cost]
      rcases leads with rfl | ⟨failure, isFailure⟩
      · simp
      · simp [failsAt_ends isFailure]
  | forkingPayload =>
      have cost : (program sandbox).forkCost rank (middleCode sandbox .forkingPayload) = 12 :=
        rfl
      rw [cost]
      rcases leads with rfl | ⟨failure, isFailure⟩
      · simp
      · rw [failsAt_ends isFailure]
        cases sandbox <;> simp
  | sendingPid | reporting =>
      rcases leads with ⟨delivered, rfl⟩
      simp [ProcessCode.forkCost, middleCode, dropOrder, remaining]
  | awaitingPayload => cases leads; cases sandbox <;> simp [ProcessCode.forkCost, middleCode]
  | killingInit | awaitingInit | endingInit | awaitingEnd | leaving | exiting =>
      cases leads
      simp [ProcessCode.forkCost, middleCode]
  | done | gone => cases leads

theorem init_lowers {stage : InitStage} {after : Point}
    (leads : ProcessCode.Leads (initCode stage) after) :
    rank .init after + (program sandbox).forkCost rank (initCode stage) < stage.rank := by
  cases stage with
  | closing pipeEnd =>
      have lower := closeInOrder_lowers .init 1 (by decide) (fun _ => rfl)
        (by simp) leads
      simpa [initCode, forkCost_closeInOrder] using lower
  | dying =>
      cases leads
      simp [ProcessCode.forkCost, initCode]
  | reaping | gone => cases leads

theorem payload_lowers {stage : PayloadStage} {after : Point}
    (leads : ProcessCode.Leads (payloadCode sandbox stage) after) :
    rank .payload after + (program sandbox).forkCost rank (payloadCode sandbox stage) <
      stage.rank := by
  cases stage with
  | closing pipeEnd =>
      have lower := closeInOrder_lowers .payload 9 (by decide) (fun _ => rfl)
        (by cases sandbox <;> simp) leads
      simpa [payloadCode, forkCost_closeInOrder] using lower
  | connecting | enteringRoot | limiting | filtering | changingDirectory | executing =>
      rcases leads with rfl | ⟨failure, isFailure⟩
      · simp [ProcessCode.forkCost, payloadCode, payloadOrder, remaining]
      · simp [ProcessCode.forkCost, payloadCode, failsAt_ends isFailure]
  | reporting =>
      rcases leads with ⟨delivered, rfl⟩
      simp [ProcessCode.forkCost, payloadCode]
  | closingExtra => cases leads; cases sandbox <;> simp [ProcessCode.forkCost, payloadCode]
  | starting | running | exiting =>
      cases leads
      simp [ProcessCode.forkCost, payloadCode]
  | ended | gone => cases leads

theorem descends (sandbox : Bool) : (program sandbox).Descends rank where
  leads member point after leads := by
    rcases Decidable.em (point.owner = member) with isOwner | isOther
    · subst isOwner
      simp only [program, if_pos] at leads ⊢
      cases point with
      | parent stage mapped => exact parent_lowers leads
      | middle stage => exact middle_lowers leads
      | init stage => exact init_lowers leads
      | payload stage => exact payload_lowers leads
    · simp only [program, if_neg isOther] at leads
      cases leads
  killed member point := by
    cases point with
    | parent | middle | payload => exact le_rfl
    | init stage => cases stage <;> simp [program, Point.killed]
  children member point child after failed forks := by
    have accounts := (ownership sandbox).accounts member point
    rw [forks] at accounts
    exact accounts.1

end Rank

section Progress

variable {sandbox : Bool} {state : State}

/-- Nobody can go on, but the program itself. -/
def Stuck (sandbox : Bool) (state : State) : Prop :=
  ∀ member next, (program sandbox).system.step state (member, .proceeds) = some next →
    state.point member = some (.payload .running)

theorem Stuck.waits {member : Member} {point : Point} (stuck : Stuck sandbox state)
    (placed : Placed sandbox member point) (here : state.point member = some point)
    (isOwn : point ≠ .payload .running) :
    (program sandbox).Waits state (point.request sandbox) := by
  by_contra goesOn
  have isOwner : (program sandbox).code member point = point.request sandbox := if_pos placed.1
  rw [← isOwner] at goesOn
  rcases ProcessCode.proceeds_of_not_waits here goesOn with ⟨next, step⟩
  exact isOwn (Option.some.inj (here.symm.trans (stuck member next step)))

theorem not_waits_closing {order : List End} {pipeEnd : End} {again : End → Point}
    {onwards : Point} (isLeft : pipeEnd ∈ order) :
    ¬(program sandbox).Waits state (closeInOrder order pipeEnd again onwards) := by
  rw [closeInOrder, if_pos isLeft]
  exact id

/-- A launch in which nobody can go on. -/
structure Standstill (sandbox : Bool) (state : State) : Prop where
  owned : ProcessCode.Owned owns state
  placed : ∀ member point, state.point member = some point → Placed sandbox member point
  alive : ∃ stage mapped, state.point .parent = some (.parent stage mapped)
  coherent : Handshake.Coherent sandbox true (view state)
  children : Children sandbox state
  stuck : Stuck sandbox state

theorem Standstill.init {stage : InitStage} (still : Standstill sandbox state)
    (here : state.point .init = some (.init stage)) : stage = .reaping ∨ stage = .gone := by
  have place := still.placed _ _ here
  have waits := still.stuck.waits place here nofun
  cases stage with
  | closing pipeEnd => exact absurd waits (not_waits_closing place.2)
  | dying => exact waits.elim
  | reaping => exact .inl rfl
  | gone => exact .inr rfl

theorem Standstill.payload {stage : PayloadStage} (still : Standstill sandbox state)
    (here : state.point .payload = some (.payload stage)) :
    stage = .running ∨ (Point.payload stage).ended = true := by
  have place := still.placed _ _ here
  by_cases isOwn : stage = .running
  · exact .inl isOwn
  · have waits := still.stuck.waits place here (by simpa using isOwn)
    cases stage with
    | closing pipeEnd => exact absurd waits (not_waits_closing place.2)
    | ended | gone => exact .inr rfl
    | _ => exact waits.elim

/-- P can only wait for the parent or for the program. -/
theorem Standstill.middle {stage : MiddleStage} (still : Standstill sandbox state)
    (here : state.point .middle = some (.middle stage)) :
    (stage = .awaitingMaps ∧ state.queue .sync2 = [] ∧ state.Open .sync2 .write) ∨
      (stage = .awaitingPayload ∧ state.point .payload = some (.payload .running)) ∨
      (Point.middle stage).ended = true := by
  have place := still.placed _ _ here
  have waits := still.stuck.waits place here nofun
  have init := still.children.init stage here
  have phase := view_middle here
  have births := still.coherent.births
  cases stage with
  | closing | dropping => exact absurd waits (not_waits_closing place.2)
  | awaitingMaps => exact .inl ⟨rfl, waits⟩
  | done | gone => exact .inr (.inr rfl)
  | forkingInit =>
      have unborn : state.point .init = none := init
      simp [Point.request, middleCode, ProcessCode.Waits, unborn] at waits
  | forkingPayload =>
      rcases Option.isSome_iff_exists.mp waits with ⟨point, born⟩
      rcases payload_point still.placed born with ⟨payload, rfl⟩
      have spawned := births.payload.mp (by simp [view_payload born])
      rw [phase] at spawned
      cases spawned
  | awaitingInit failure | awaitingEnd =>
      rcases init with ⟨point, born, dies⟩
      rcases init_point still.placed born with ⟨init, rfl⟩
      rcases still.init born with rfl | rfl
      · exact dies.elim
      · exact absurd (waits _ born) Bool.false_ne_true.symm
  | awaitingPayload =>
      rcases Option.isSome_iff_exists.mp (births.payload.mpr phase) with ⟨seen, isSeen⟩
      rcases payload_of_view isSeen with ⟨payload, born, -⟩
      rcases still.payload born with rfl | ended
      · exact .inr (.inl ⟨rfl, born⟩)
      · exact absurd (ended.symm.trans (waits _ born)) Bool.false_ne_true.symm
  | _ => exact waits.elim

/-- The pipes that are still written to, when nobody can go on. -/
theorem Standstill.writer {channel : Channel} (still : Standstill sandbox state)
    (isWritten : state.Open channel .write) :
    (∃ stage mapped, state.point .parent = some (.parent stage mapped) ∧
      writeEnd channel ∈ stage.ends) ∨
    state.point .middle = some (.middle .awaitingMaps) ∧ writeEnd channel ∈ dropOrder := by
  rcases still.owned.open_iff.mp isWritten with ⟨member, point, here, holds⟩
  have isHeld : writeEnd channel ∈ point.ends := List.contains_iff_mem.mp holds
  have isOwner := (still.placed _ _ here).1
  subst isOwner
  cases point with
  | parent stage mapped => exact .inl ⟨stage, mapped, here, isHeld⟩
  | middle stage =>
      rcases still.middle here with ⟨rfl, -⟩ | ⟨rfl, -⟩ | ended
      · exact .inr ⟨here, isHeld⟩
      · cases isHeld
      · rw [ends_of_ended ended] at isHeld
        cases isHeld
  | init stage => rcases still.init here with rfl | rfl <;> cases isHeld
  | payload stage =>
      rcases still.payload here with rfl | ended
      · cases isHeld
      · rw [ends_of_ended ended] at isHeld
        cases isHeld

/-- Then P waits for its maps only as long as the parent can still answer. -/
theorem Standstill.answers (still : Standstill sandbox state)
    (there : state.point .middle = some (.middle .awaitingMaps)) {stage : ParentStage}
    {mapped : Bool} (here : state.point .parent = some (.parent stage mapped)) :
    writeEnd .sync2 ∈ stage.ends := by
  rcases still.middle there with ⟨-, -, isWritten⟩ | ⟨isOther, -⟩ | ended
  · rcases still.writer isWritten with ⟨parent, other, isParent, isHeld⟩ | ⟨-, isHeld⟩
    · cases here.symm.trans isParent
      exact isHeld
    · simp [dropOrder, writeEnd, readEnd] at isHeld
  · cases isOther
  · cases ended

/-- When nobody can go on, the parent has decided. -/
theorem Standstill.decided {stage : ParentStage} {mapped : Bool} (still : Standstill sandbox state)
    (here : state.point .parent = some (.parent stage mapped)) :
    (Point.parent stage mapped).ended = true := by
  have place := still.placed _ _ here
  have waits := still.stuck.waits place here nofun
  have phase := (view_parent here).1
  have births := still.coherent.births
  cases stage with
  | closing | closingSync => exact absurd waits (not_waits_closing place.2)
  | notForked | failed | launched => rfl
  | forking =>
      rcases Option.isSome_iff_exists.mp waits with ⟨point, born⟩
      rcases middle_point still.placed born with ⟨middle, rfl⟩
      have unborn := births.middle.mpr (.inl phase)
      rw [view_middle born] at unborn
      cases unborn
  | awaitingReady again =>
      rcases still.writer waits.2 with ⟨parent, other, there, isHeld⟩ | ⟨there, -⟩
      · cases here.symm.trans there
        simp [ParentStage.ends, parentKeeps, readEnd, writeEnd] at isHeld
      · exact absurd waits.1 (still.coherent.turns.signalled (view_middle there) phase)
  | awaitingPid again | awaitingFailure again =>
      rcases still.writer waits.2 with ⟨parent, other, there, isHeld⟩ | ⟨there, -⟩
      · cases here.symm.trans there
        simp [ParentStage.ends, parentReads, readEnd, writeEnd] at isHeld
      · have isHeld := still.answers there here
        simp [ParentStage.ends, parentReads, readEnd, writeEnd] at isHeld
  | reaping failure =>
      have born : (view state).middle ≠ none := by simp [births.middle, phase, ParentStage.phase]
      rcases Option.ne_none_iff_exists'.mp born with ⟨seen, isSeen⟩
      rcases middle_of_view isSeen with ⟨middle, there, -⟩
      rcases still.middle there with ⟨rfl, -⟩ | ⟨-, running⟩ | ended
      · cases still.answers there here
      · have reported := still.coherent.reports.learned failure phase
        exact absurd (view_payload running) (births.not_started reported)
      · exact absurd (ended.symm.trans (waits _ there)) Bool.false_ne_true.symm
  | closingFailure failure => cases failure <;> exact waits.elim
  | _ => exact waits.elim

end Progress

variable {sandbox : Bool}

theorem workLeft_start : ProcessCode.workLeft rank start = 53 := rfl

/-- However the four processes are scheduled, and whatever fails or is interrupted: a launch
whose pipes nobody else holds takes at most 53 steps, and until the parent has decided there is
a next one that does not depend on the program. -/
theorem decides (sandbox : Bool) :
    (∀ schedule state, (program sandbox).system.run start schedule = some state →
      schedule.length ≤ 53) ∧
    ∀ state stage mapped,
      (program sandbox).system.Reaches TransitionSystem.Unrestricted start state →
      state.point .parent = some (.parent stage mapped) →
      (Point.parent stage mapped).ended = false →
      ∃ member next, (program sandbox).system.step state (member, .proceeds) = some next ∧
        state.point member ≠ some (.payload .running) := by
  constructor
  · intro schedule state ran
    rw [← workLeft_start]
    exact (descends sandbox).length_le ran
  · intro state stage mapped reaches here undecided
    by_contra none
    have stuck : Stuck sandbox state := by
      intro member next step
      by_contra isOwn
      exact none ⟨member, next, step, isOwn⟩
    have heard : (program sandbox).system.Reaches (Hears true) start state :=
      reaches.weaken fun _ _ _ => nofun
    have still : Standstill sandbox state :=
      { owned := owned_of_reaches reaches
        placed := placed_of_reaches reaches
        alive := ⟨stage, mapped, here⟩
        coherent := coherent_of_reaches heard
        children := children_of_reaches reaches
        stuck }
    rw [still.decided here] at undecided
    cases undecided

end Launching

end OnlineJudge.Judge
