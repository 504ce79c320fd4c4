import OnlineJudge.Judge.Launching

/-!
# Who holds which end

At each point of the launch it is known which ends of the pipes a process holds: `owns` says
so, and `ownership` checks it against every operation of the four processes. A pipe is then
open exactly as long as somebody is at a point where it is held.
-/

namespace OnlineJudge.Judge

namespace Launching

open Library

/-- What the parent keeps after the fork. -/
def parentKeeps : List End :=
  [readEnd .sync1, writeEnd .sync2, readEnd .pid, readEnd .exec]

/-- What the parent has left when the maps are written. -/
def parentReads : List End := [readEnd .pid, readEnd .exec]

def ParentStage.ends : ParentStage → List End
  | .forking | .abandoning => parentOrder ++ parentKeeps
  | .closing pipeEnd => remaining parentOrder pipeEnd ++ parentKeeps
  | .awaitingReady _ | .mapping _ | .answering => parentKeeps
  | .closingSync pipeEnd => remaining syncOrder pipeEnd ++ parentReads
  | .awaitingPid _ | .closingPid => parentReads
  | .awaitingFailure _ | .closingFailure _ => [readEnd .exec]
  | .notForked | .reaping _ | .failed _ | .launched => []

def MiddleStage.ends : MiddleStage → List End
  | .closing pipeEnd => remaining middleOrder pipeEnd ++ dropOrder
  | .unsharing | .signalling | .awaitingMaps | .forkingInit | .forkingPayload | .killingInit _
  | .awaitingInit _ | .sendingPid | .reporting _ | .exiting _ => dropOrder
  | .dropping pipeEnd => remaining dropOrder pipeEnd
  | .awaitingPayload | .endingInit | .awaitingEnd | .leaving | .done | .gone _ => []

def InitStage.ends : InitStage → List End
  | .closing pipeEnd | .dying (some pipeEnd) => remaining initOrder pipeEnd
  | .reaping | .dying none | .gone => []

def PayloadStage.ends : PayloadStage → List End
  | .connecting => payloadOrder ++ boxEnds
  | .closing pipeEnd => remaining payloadOrder pipeEnd ++ boxEnds
  | .enteringRoot | .closingExtra => boxEnds
  | .limiting | .filtering | .changingDirectory | .executing | .starting => [writeEnd .exec]
  | .reporting held _ | .exiting held _ => held
  | .running | .ended | .gone _ => []

def Point.ends : Point → List End
  | .parent stage _ => stage.ends
  | .middle stage => stage.ends
  | .init stage => stage.ends
  | .payload stage => stage.ends

/-- Whoever has ended holds nothing. -/
theorem ends_of_ended {point : Point} (ended : point.ended = true) : point.ends = [] := by
  rcases point with ⟨stage, mapped⟩ | stage | stage | stage <;> cases stage <;> first
  | exact absurd ended Bool.false_ne_true
  | rfl

def owns (_ : Member) (point : Point) (pipeEnd : End) : Bool :=
  point.ends.contains pipeEnd

section Closing

variable {order kept : List End} {pipeEnd other : End}

theorem mem_of_mem_remaining (isLeft : other ∈ remaining order pipeEnd) : other ∈ order :=
  (List.dropWhile_suffix _).subset isLeft

theorem remaining_eq_cons (isClosed : pipeEnd ∈ order) :
    remaining order pipeEnd = pipeEnd :: (remaining order pipeEnd).tail := by
  induction order with
  | nil => simp at isClosed
  | cons head rest ih =>
      by_cases same : head = pipeEnd
      · simp [remaining, same]
      · have later : pipeEnd ∈ rest := by simpa [Ne.symm same] using isClosed
        simpa [remaining, same] using ih later

theorem remaining_following {next : End} (distinct : order.Nodup) (isClosed : pipeEnd ∈ order)
    (follows : following order pipeEnd = some next) :
    remaining order next = (remaining order pipeEnd).tail := by
  induction order with
  | nil => simp at isClosed
  | cons head rest ih =>
      rcases List.nodup_cons.mp distinct with ⟨isNew, distinct⟩
      by_cases same : head = pipeEnd
      · rcases rest with - | ⟨second, rest⟩
        · simp [following, remaining, same] at follows
        · have isNext : second = next := by simpa [following, remaining, same] using follows
          have differs : pipeEnd ≠ next := by
            rintro rfl
            simp [same, isNext] at isNew
          simp [remaining, same, isNext, differs]
      · have later : pipeEnd ∈ rest := by simpa [Ne.symm same] using isClosed
        have follows : following rest pipeEnd = some next := by
          simpa [following, remaining, same] using follows
        have isLeft : next ∈ rest :=
          mem_of_mem_remaining (List.mem_of_mem_tail (List.mem_of_mem_head? follows))
        have differs : head ≠ next := by
          rintro rfl
          exact isNew isLeft
        simpa [remaining, same, differs] using ih distinct later follows

theorem not_mem_tail (distinct : order.Nodup) (isClosed : pipeEnd ∈ order) :
    pipeEnd ∉ (remaining order pipeEnd).tail := by
  have rest : (remaining order pipeEnd).Nodup := distinct.sublist (List.dropWhile_sublist _)
  rw [remaining_eq_cons isClosed] at rest
  exact (List.nodup_cons.mp rest).1

theorem mem_remaining_iff (isClosed : pipeEnd ∈ order) :
    other ∈ remaining order pipeEnd ↔ other = pipeEnd ∨ other ∈ (remaining order pipeEnd).tail := by
  nth_rewrite 1 [remaining_eq_cons isClosed]
  exact List.mem_cons

/-- Closing in order gives up one end after the other, and keeps what is not in the order. -/
theorem accounts_closeInOrder {sandbox : Bool} {member : Member} {point onwards : Point}
    {again : End → Point} (distinct : order.Nodup) (apart : ∀ keeps ∈ kept, keeps ∉ order)
    (here : point.ends = remaining order pipeEnd ++ kept)
    (there : ∀ next, (again next).ends = remaining order next ++ kept)
    (atLast : onwards.ends = kept) :
    (program sandbox).Accounts owns member point
      (closeInOrder order pipeEnd again onwards) := by
  rw [closeInOrder]
  split
  · rename_i isClosed
    intro other
    have behind : (other ∈ (remaining order pipeEnd).tail ++ kept) ↔
        other ∈ remaining order pipeEnd ++ kept ∧ other ≠ pipeEnd := by
      simp only [List.mem_append, mem_remaining_iff isClosed]
      constructor
      · rintro (isLeft | isKept)
        · refine ⟨.inl (.inr isLeft), ?_⟩
          rintro rfl
          exact not_mem_tail distinct isClosed isLeft
        · refine ⟨.inr isKept, ?_⟩
          rintro rfl
          exact apart _ isKept isClosed
      · rintro ⟨(rfl | isLeft) | isKept, differs⟩
        · exact absurd rfl differs
        · exact .inl isLeft
        · exact .inr isKept
    split
    · rename_i next follows
      rw [Bool.eq_iff_iff]
      simpa [owns, here, there, remaining_following distinct isClosed follows] using behind
    · rename_i atEnd
      have empty : (remaining order pipeEnd).tail = [] := List.head?_eq_none_iff.mp atEnd
      rw [Bool.eq_iff_iff]
      simpa [owns, here, atLast, empty] using behind
  · trivial

end Closing

/-- A point with the same ends. -/
theorem sameEnds_of_eq {member : Member} {point next : Point} (same : next.ends = point.ends) :
    ProcessCode.SameEnds owns member point next := by
  intro pipeEnd
  simp [owns, same]

theorem accounts_readTwice {sandbox : Bool} {member : Member} {channel : Channel} {again : Bool}
    {point retry : Point} {next : Received Message → Point} (tried : retry.ends = point.ends)
    (went : ∀ answer, (next answer).ends = point.ends) :
    (program sandbox).Accounts owns member point (readTwice channel again retry next) := by
  intro answer
  apply sameEnds_of_eq
  cases answer with
  | interrupted => cases again <;> simp [tried, went]
  | message => exact went _
  | endOfFile => exact went _

/-- A call that fails goes on without closing anything. -/
theorem failsAt_ends {stages : List SandboxStage} {report : ExecFailure → Point}
    {failure : ExecFailure} {after : Point}
    (isFailure : failsAt stages report failure = some after) : after = report failure := by
  rw [failsAt] at isFailure
  split at isFailure <;> simp_all

section Members

variable (sandbox : Bool)

theorem accounts_parent (stage : ParentStage) (mapped : Bool) :
    (program sandbox).Accounts owns .parent (.parent stage mapped)
      (parentCode sandbox mapped stage) := by
  cases stage with
  | forking =>
      refine ⟨by simp, ?_, sameEnds_of_eq rfl, ?_⟩
      · rintro ⟨channel, side⟩
        cases channel <;> cases side <;> rfl
      · intro failure after isFailure
        cases isFailure
        exact sameEnds_of_eq rfl
  | abandoning => exact fun _ => rfl
  | closing pipeEnd =>
      exact accounts_closeInOrder (by decide) (by decide) rfl (fun _ => rfl)
        (by cases sandbox <;> rfl)
  | awaitingReady again =>
      rw [parentCode]
      refine accounts_readTwice ?_ fun answer => ?_
      · rfl
      · cases answer <;> rfl
  | mapping ready =>
      refine ⟨sameEnds_of_eq rfl, ?_⟩
      intro failure after isFailure
      cases isFailure
  | answering => exact fun _ => sameEnds_of_eq rfl
  | closingSync pipeEnd =>
      exact accounts_closeInOrder (by decide) (by decide) rfl (fun _ => rfl) rfl
  | awaitingPid again =>
      rw [parentCode]
      refine accounts_readTwice ?_ fun answer => ?_
      · rfl
      · rfl
  | closingPid =>
      rintro ⟨channel, side⟩
      cases channel <;> cases side <;> rfl
  | awaitingFailure again =>
      rw [parentCode]
      refine accounts_readTwice ?_ fun answer => ?_
      · rfl
      · split <;> rfl
  | closingFailure failure =>
      cases failure <;>
      · rintro ⟨channel, side⟩
        cases channel <;> cases side <;> rfl
  | reaping => exact sameEnds_of_eq rfl
  | notForked | failed | launched => trivial

/-- A call of which every failure leads to a report. -/
theorem accounts_call {member : Member} {point next : Point} {stages : List SandboxStage}
    {report : ExecFailure → Point} (went : next.ends = point.ends)
    (reports : ∀ failure, (report failure).ends = point.ends) :
    (program sandbox).Accounts owns member point (.call next (failsAt stages report)) := by
  refine ⟨sameEnds_of_eq went, fun failure after isFailure => sameEnds_of_eq ?_⟩
  rw [failsAt_ends isFailure, reports]

/-- The children of P have what P has after its first closings. -/
theorem owns_entry {child : Member} (isChild : child = .init ∨ child = .payload)
    {stage : MiddleStage} (ends : stage.ends = dropOrder) (pipeEnd : End) :
    owns child (entry child) pipeEnd = owns .middle (.middle stage) pipeEnd := by
  have same : owns .middle (.middle stage) pipeEnd = decide (pipeEnd ∈ dropOrder) := by
    simp [owns, Point.ends, ends]
  rw [same]
  rcases pipeEnd with ⟨channel, side⟩
  rcases isChild with rfl | rfl <;> cases channel <;> cases side <;> rfl

theorem accounts_middle (stage : MiddleStage) :
    (program sandbox).Accounts owns .middle (.middle stage) (middleCode sandbox stage) := by
  cases stage with
  | closing pipeEnd =>
      exact accounts_closeInOrder (by decide) (by decide) rfl (fun _ => rfl)
        (by cases sandbox <;> rfl)
  | unsharing =>
      refine accounts_call sandbox ?_ fun failure => ?_
      · rfl
      · rfl
  | signalling => exact fun delivered => sameEnds_of_eq (by cases delivered <;> rfl)
  | awaitingMaps => exact fun answer => sameEnds_of_eq (by cases answer <;> rfl)
  | forkingInit =>
      refine ⟨by simp, owns_entry (.inl rfl) rfl, sameEnds_of_eq rfl, ?_⟩
      intro failure after isFailure
      rw [failsAt_ends isFailure]
      exact sameEnds_of_eq rfl
  | forkingPayload =>
      refine ⟨by simp, owns_entry (.inr rfl) rfl, sameEnds_of_eq rfl, ?_⟩
      intro failure after isFailure
      rw [failsAt_ends isFailure]
      exact sameEnds_of_eq (by cases sandbox <;> rfl)
  | killingInit | awaitingInit => exact sameEnds_of_eq rfl
  | sendingPid => exact fun _ => sameEnds_of_eq rfl
  | dropping pipeEnd =>
      refine accounts_closeInOrder (by decide) (List.forall_mem_nil _) ?_ (fun next => ?_) rfl
      · simp [Point.ends, MiddleStage.ends]
      · simp [Point.ends, MiddleStage.ends]
  | awaitingPayload => exact sameEnds_of_eq (by cases sandbox <;> rfl)
  | endingInit | awaitingEnd => exact sameEnds_of_eq rfl
  | leaving | exiting => exact fun _ => rfl
  | reporting failure => exact fun _ => sameEnds_of_eq rfl
  | done | gone => trivial

theorem accounts_init (stage : InitStage) :
    (program sandbox).Accounts owns .init (.init stage) (initCode stage) := by
  cases stage with
  | closing pipeEnd =>
      refine accounts_closeInOrder (by decide) (List.forall_mem_nil _) ?_ (fun next => ?_) rfl
      · simp [Point.ends, InitStage.ends]
      · simp [Point.ends, InitStage.ends]
  | dying => exact fun _ => rfl
  | reaping | gone => trivial

theorem accounts_payload (stage : PayloadStage) :
    (program sandbox).Accounts owns .payload (.payload stage) (payloadCode sandbox stage) := by
  cases stage with
  | closing pipeEnd =>
      exact accounts_closeInOrder (by decide) (by decide) rfl (fun _ => rfl)
        (by cases sandbox <;> rfl)
  | closingExtra =>
      rintro ⟨channel, side⟩
      cases sandbox <;> cases channel <;> cases side <;> rfl
  | connecting | enteringRoot | limiting | filtering | changingDirectory | executing =>
      refine accounts_call sandbox ?_ fun failure => ?_
      · rfl
      · rfl
  | starting | running | exiting => exact fun _ => rfl
  | reporting => exact fun _ => sameEnds_of_eq rfl
  | ended | gone => trivial

/-- Every operation keeps the books about the ends. -/
theorem ownership : (program sandbox).Ownership owns where
  accounts member point := by
    rw [program]
    dsimp only
    split
    · rename_i isOwner
      subst isOwner
      cases point with
      | parent stage mapped => exact accounts_parent sandbox stage mapped
      | middle stage => exact accounts_middle sandbox stage
      | init stage => exact accounts_init sandbox stage
      | payload stage => exact accounts_payload sandbox stage
    · trivial
  killed member point := by
    apply sameEnds_of_eq
    cases point with
    | parent | middle | payload => rfl
    | init stage => cases stage <;> rfl

theorem owned_start : ProcessCode.Owned owns start := by
  rintro member ⟨channel, side⟩
  cases member <;> cases channel <;> cases side <;> rfl

end Members

variable {sandbox : Bool}
  {allowed : State → Member × Choice ExecFailure → Prop} {state : State}

/-- In every state of a launch the ends are held as the points say. -/
theorem owned_of_reaches (reaches : (program sandbox).system.Reaches allowed start state) :
    ProcessCode.Owned owns state :=
  .of_reaches (ownership sandbox) owned_start reaches

end Launching

end OnlineJudge.Judge
