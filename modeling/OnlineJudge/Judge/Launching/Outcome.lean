import OnlineJudge.Judge.Launching.Children
import OnlineJudge.Judge.Launching.Simulation

/-!
# What a decided launch means

The parent says that the program was launched, or which step failed. If no read is lost, it
is right in both cases. When P ends before the launch is decided, or when the parent has
waited for it because the launch failed, nobody of the launch is left.
-/

namespace OnlineJudge.Judge

namespace Launching

open Library

variable {sandbox : Bool} {state : State}

theorem reported_middle {stage : MiddleStage} {failure : ExecFailure}
    (reported : stage.phase = .reported failure) (ended : (Point.middle stage).ended = true) :
    stage = .gone (some failure) := by
  cases stage with
  | gone report =>
      cases report with
      | none => cases reported
      | some _ =>
          cases reported
          rfl
  | done => cases reported
  | _ => cases ended

theorem reported_payload {stage : PayloadStage} {failure : ExecFailure}
    (reported : stage.phase = .reported failure) (ended : (Point.payload stage).ended = true) :
    stage = .gone failure := by
  cases stage with
  | gone report =>
      cases reported
      rfl
  | ended => cases reported
  | _ => cases ended

theorem started_payload {stage : PayloadStage} (started : stage.phase = .started) :
    stage = .running ∨ stage = .ended := by
  cases stage with
  | running => exact .inl rfl
  | ended => exact .inr rfl
  | _ => cases started

/-- The steps of these processes, none of which fails or is interrupted. -/
def proceeding (members : List Member) : List (Member × Choice ExecFailure) :=
  members.map fun member => (member, .proceeds)

theorem reaches_proceeding {lossy : Bool} {members : List Member}
    (ran : (program sandbox).system.run start (proceeding members) = some state) :
    (program sandbox).system.Reaches (Hears lossy) start state := by
  have proceeds : ∀ label ∈ proceeding members, label.2 = .proceeds := by
    simp [proceeding]
  have admits : (program sandbox).system.Admits (fun _ label => label.2 = .proceeds) start
      (proceeding members) := TransitionSystem.admits_of_forall_mem proceeds start
  refine (TransitionSystem.reaches_of_run admits ran).weaken ?_
  rintro other label proceeds - ⟨rfl, -⟩
  cases proceeds

/-- P has ended well, after its payload, or without a payload. -/
theorem ended_middle (births : Handshake.Births (view state)) (children : Children sandbox state)
    {stage : MiddleStage} (here : state.point .middle = some (.middle stage))
    (ended : (Point.middle stage).ended = true) :
    (stage = .done ∧ ∃ point, state.point .payload = some point ∧ point.ended = true) ∨
      (∃ report, stage = .gone report) ∧ (view state).payload = none := by
  cases stage with
  | done => exact .inl ⟨rfl, children.payload _ here trivial⟩
  | gone report =>
      refine .inr ⟨⟨report, rfl⟩, ?_⟩
      by_contra born
      have spawned := births.payload.mp (Option.isSome_iff_ne_none.mpr born)
      rw [view_middle here] at spawned
      cases report <;> cases spawned
  | _ => cases ended

/-- What the parent has decided is so, if none of its reads is lost: a launched program was
started, and if the launch failed, the step that failed was reported by the process that tried
it, which has ended like everybody else, and the program was not started. -/
theorem decision_exact (reaches : (program sandbox).system.Reaches (Hears false) start state)
    (mapped : Bool) :
    (state.point .parent = some (.parent .launched mapped) →
      state.point .payload = some (.payload .running) ∨
        state.point .payload = some (.payload .ended)) ∧
    ∀ failure, state.point .parent = some (.parent (.failed failure) mapped) →
      ((state.point .middle = some (.middle (.gone (some failure))) ∧
        state.point .payload = none) ∨
      (state.point .middle = some (.middle .done) ∧
        state.point .payload = some (.payload (.gone failure)))) ∧
      (state.point .init = none ∨ state.point .init = some (.init .gone)) := by
  have coherent := coherent_of_reaches reaches
  have children := children_of_reaches reaches
  have placed := placed_of_reaches reaches
  constructor
  · intro here
    rcases payload_of_view ((coherent.heard rfl).started (view_parent here).1) with
      ⟨stage, born, started⟩
    rcases started_payload started with rfl | rfl
    · exact .inl born
    · exact .inr born
  · intro failure here
    have reported := coherent.reports.learned failure (view_parent here).1
    rcases children.failed failure mapped here with ⟨point, there, ended⟩
    rcases middle_point placed there with ⟨middle, rfl⟩
    rcases ended_middle coherent.births children there ended with
      ⟨rfl, point, born, isEnded⟩ | ⟨⟨report, rfl⟩, unborn⟩
    · rcases payload_point placed born with ⟨payload, rfl⟩
      rcases reported with isMiddle | isPayload
      · rw [view_middle there] at isMiddle
        cases isMiddle
      · rw [view_payload born] at isPayload
        rw [reported_payload (Option.some.inj isPayload) isEnded] at born
        exact ⟨.inr ⟨there, born⟩, children.init _ there⟩
    · rcases reported with isMiddle | isPayload
      · rw [view_middle there] at isMiddle
        rw [reported_middle (Option.some.inj isMiddle) ended] at there
        refine ⟨.inl ⟨there, ?_⟩, children.init _ there⟩
        by_contra born
        rcases Option.ne_none_iff_exists'.mp born with ⟨point, alive⟩
        rcases payload_point placed alive with ⟨payload, rfl⟩
        rw [view_payload alive] at unborn
        cases unborn
      · rw [unborn] at isPayload
        cases isPayload

/-- A launch without a sandbox, up to the decision. -/
def plainLaunch : List Member :=
  List.replicate 7 .parent ++ List.replicate 10 .middle ++ List.replicate 7 .payload ++
    List.replicate 4 .parent

theorem decision_exact_plainLaunch : ∃ state : State,
    state.point .parent = some (.parent .launched false) ∧
      (state.point .payload = some (.payload .running) ∨
        state.point .payload = some (.payload .ended)) := by
  have decided : ((program false).system.run start (proceeding plainLaunch)).bind
      (fun state => state.point .parent) = some (.parent .launched false) := by decide
  rcases Option.bind_eq_some_iff.mp decided with ⟨state, ran, here⟩
  exact ⟨state, here, (decision_exact (reaches_proceeding ran) false).1 here⟩

/-- In a sandbox there is no payload before the parent has called `write_user_maps`, if no read
is lost; and whatever is lost, with a sandbox or without, the program holds no end of the four
pipes of its launch. -/
theorem sandboxed :
    (∀ state, (program true).system.Reaches (Hears false) start state →
      state.point .payload ≠ none → ∃ stage, state.point .parent = some (.parent stage true)) ∧
    ∀ sandbox state,
      (program sandbox).system.Reaches TransitionSystem.Unrestricted start state →
      state.point .payload = some (.payload .running) →
      ∀ pipeEnd, state.holds .payload pipeEnd = false := by
  constructor
  · intro state reaches born
    have coherent := coherent_of_reaches reaches
    have placed := placed_of_reaches reaches
    rcases Option.ne_none_iff_exists'.mp born with ⟨point, alive⟩
    rcases payload_point placed alive with ⟨payload, rfl⟩
    rcases parent_alive reaches with ⟨stage, mapped, here⟩
    have isMapped := coherent.mapped (by simp [view_payload alive])
    rw [(view_parent here).2] at isMapped
    subst isMapped
    exact ⟨stage, here⟩
  · intro sandbox state reaches running pipeEnd
    rw [owned_of_reaches reaches, running]
    rfl

/-- A launch in a sandbox, until the program runs. -/
def boxedLaunch : List Member :=
  .parent :: List.replicate 6 .middle ++ List.replicate 7 .parent ++ List.replicate 3 .middle ++
    List.replicate 9 .payload

theorem sandboxed_boxedLaunch : ∃ state : State,
    state.point .payload = some (.payload .running) ∧
    (∃ stage, state.point .parent = some (.parent stage true)) ∧
    ∀ pipeEnd, state.holds .payload pipeEnd = false := by
  have runs : ((program true).system.run start (proceeding boxedLaunch)).bind
      (fun state => state.point .payload) = some (.payload .running) := by decide
  rcases Option.bind_eq_some_iff.mp runs with ⟨state, ran, running⟩
  have anyway : (program true).system.Reaches TransitionSystem.Unrestricted start state :=
    TransitionSystem.reaches_of_run (TransitionSystem.admits_unrestricted _ _) ran
  exact ⟨state, running, sandboxed.1 state (reaches_proceeding ran) (by simp [running]),
    sandboxed.2 true state anyway running⟩

/-- As long as the launch is not decided, or when it has failed, everybody whom P has started has
ended and holds nothing once P has ended; and a launch has failed only when P has ended. -/
theorem nobody_left {allowed : State → Member × Choice ExecFailure → Prop}
    (reaches : (program sandbox).system.Reaches allowed start state) :
    ((∀ mapped, state.point .parent ≠ some (.parent .launched mapped)) →
      ∀ point, state.point .middle = some point → point.ended = true →
      ∀ member, member ≠ .parent →
        (∀ point, state.point member = some point → point.ended = true) ∧
          ∀ pipeEnd, state.holds member pipeEnd = false) ∧
    ∀ failure mapped, state.point .parent = some (.parent (.failed failure) mapped) →
      ∃ point, state.point .middle = some point ∧ point.ended = true := by
  have children := children_of_reaches reaches
  have placed := placed_of_reaches reaches
  have owned := owned_of_reaches reaches
  have heard : (program sandbox).system.Reaches (Hears true) start state :=
    reaches.weaken fun _ _ _ => nofun
  have births := (coherent_of_reaches heard).births
  refine ⟨fun _ point here ended member isChild => ?_, children.failed⟩
  rcases middle_point placed here with ⟨stage, rfl⟩
  have allEnded : ∀ point, state.point member = some point → point.ended = true := by
    intro point there
    cases member with
    | parent => exact absurd rfl isChild
    | middle =>
        cases here.symm.trans there
        exact ended
    | init =>
        have fits : state.point .init = none ∨ state.point .init = some (.init .gone) := by
          rcases ended_middle births children here ended with ⟨rfl, -⟩ | ⟨⟨report, rfl⟩, -⟩
          · exact children.init _ here
          · exact children.init _ here
        rcases fits with unborn | gone
        · simp [unborn] at there
        · cases gone.symm.trans there
          rfl
    | payload =>
        rcases ended_middle births children here ended with ⟨-, other, alive, isEnded⟩ | ⟨-, unborn⟩
        · cases alive.symm.trans there
          exact isEnded
        · rcases payload_point placed there with ⟨payload, rfl⟩
          rw [view_payload there] at unborn
          cases unborn
  refine ⟨allEnded, fun pipeEnd => ?_⟩
  rw [owned member pipeEnd]
  cases there : state.point member with
  | none => rfl
  | some point => simp [owns, ends_of_ended (allEnded point there)]

/-- A launch without a sandbox whose `execve` finds no program, up to the end. -/
def failingLaunch : List (Member × Choice ExecFailure) :=
  proceeding (List.replicate 7 .parent ++ List.replicate 10 .middle ++ List.replicate 5 .payload) ++
    [(.payload, .fails ⟨.exec, 2⟩)] ++
    proceeding (List.replicate 2 .payload ++ List.replicate 2 .middle ++ List.replicate 5 .parent)

theorem nobody_left_failingLaunch : ∃ state : State,
    state.point .parent = some (.parent (.failed ⟨.exec, 2⟩) false) ∧
      ∃ point, state.point .middle = some point ∧
        (∀ point, state.point .payload = some point → point.ended = true) ∧
        ∀ pipeEnd, state.holds .payload pipeEnd = false := by
  have fails : ((program false).system.run start failingLaunch).bind
      (fun state => state.point .parent) = some (.parent (.failed ⟨.exec, 2⟩) false) := by decide
  rcases Option.bind_eq_some_iff.mp fails with ⟨state, ran, failed⟩
  have reaches : (program false).system.Reaches TransitionSystem.Unrestricted start state :=
    TransitionSystem.reaches_of_run (TransitionSystem.admits_unrestricted _ _) ran
  rcases (nobody_left reaches).2 _ _ failed with ⟨point, there, ended⟩
  have left := (nobody_left reaches).1 (by simp [failed]) point there ended .payload (by decide)
  exact ⟨state, failed, point, there, left.1, left.2⟩

end Launching

end OnlineJudge.Judge
