import Mathlib.Logic.Relation
import OnlineJudge.Judge.Launching

/-!
# The handshake of a launch

What the launch is for, without its descriptors: the middle process must not populate the
new namespace before its user maps are written, and the parent has to learn whether the
program was started or which step failed. The parties are seen only in their phases, and an
end of file can only come when the other side may have let go of the pipe.

`lossy` says that a read of the parent may be interrupted twice. Then it goes on as if it
had read nothing, and most of what the handshake is for is lost.
-/

namespace OnlineJudge.Judge

namespace Launching

inductive ParentPhase where
  | forking
  | unforked
  /-- Until it has heard of the namespace. -/
  | preparing
  | mapping (ready : Bool)
  | answering
  /-- Until it has heard how the launch went. -/
  | listening
  | decided (failure : Option ExecFailure)
  deriving DecidableEq, Repr

inductive MiddlePhase where
  | isolating
  | waiting
  | populating
  | failing (failure : ExecFailure)
  | reported (failure : ExecFailure)
  | spawned
  /-- Gone without a report. -/
  | silent
  deriving DecidableEq, Repr

inductive PayloadPhase where
  | preparing
  | failing (failure : ExecFailure)
  | reported (failure : ExecFailure)
  | started
  deriving DecidableEq, Repr

structure Handshake where
  parent : ParentPhase
  /-- The user maps were written. -/
  mapped : Bool
  middle : Option MiddlePhase
  payload : Option PayloadPhase
  ready : List Message
  answers : List Message
  reports : List Message
  deriving DecidableEq, Repr

def Message.failure? : Message → Option ExecFailure
  | .failure report => some report
  | _ => none

/-- A process that may have let go of its pipes. -/
def MiddlePhase.Quiet : MiddlePhase → Prop
  | .reported _ | .spawned | .silent => True
  | _ => False

def PayloadPhase.Quiet : PayloadPhase → Prop
  | .reported _ | .started => True
  | _ => False

/-- The parent has sent its answer. -/
def ParentPhase.Answered : ParentPhase → Prop
  | .listening | .decided _ => True
  | _ => False

namespace Handshake

/-- The reports when one is written: it can be lost only when nobody listens any more. -/
inductive Delivers (handshake : Handshake) (failure : ExecFailure) : List Message → Prop where
  | queued : Delivers handshake failure (handshake.reports ++ [.failure failure])
  | lost {outcome : Option ExecFailure} (late : handshake.parent = .decided outcome) :
      Delivers handshake failure handshake.reports

inductive Step (sandbox lossy : Bool) (handshake : Handshake) : Handshake → Prop where
  | fork (here : handshake.parent = .forking) (unborn : handshake.middle = none) :
      Step sandbox lossy handshake
        { handshake with parent := .preparing, middle := some .isolating }
  | giveUp (here : handshake.parent = .forking) :
      Step sandbox lossy handshake { handshake with parent := .unforked }
  | skip (plain : sandbox = false) (here : handshake.parent = .preparing) :
      Step sandbox lossy handshake { handshake with parent := .listening }
  | hear {message : Message} {rest : List Message} (boxed : sandbox = true)
      (here : handshake.parent = .preparing) (queued : handshake.ready = message :: rest) :
      Step sandbox lossy handshake { handshake with parent := .mapping true, ready := rest }
  | hangUp {phase : MiddlePhase} (boxed : sandbox = true) (here : handshake.parent = .preparing)
      (empty : handshake.ready = []) (other : handshake.middle = some phase)
      (quiet : phase.Quiet) :
      Step sandbox lossy handshake { handshake with parent := .mapping false }
  | mishear (loses : lossy = true) (boxed : sandbox = true)
      (here : handshake.parent = .preparing) :
      Step sandbox lossy handshake { handshake with parent := .mapping false }
  | map {ready : Bool} (here : handshake.parent = .mapping ready) :
      Step sandbox lossy handshake { handshake with parent := .answering, mapped := ready }
  | answer {answers : List Message} (here : handshake.parent = .answering) :
      Step sandbox lossy handshake { handshake with parent := .listening, answers }
  | learn {message : Message} {rest : List Message} (here : handshake.parent = .listening)
      (queued : handshake.reports = message :: rest) :
      Step sandbox lossy handshake
        { handshake with parent := .decided message.failure?, reports := rest }
  | conclude {phase : MiddlePhase} (here : handshake.parent = .listening)
      (empty : handshake.reports = []) (other : handshake.middle = some phase)
      (quiet : phase.Quiet) (started : ∀ phase ∈ handshake.payload, phase.Quiet) :
      Step sandbox lossy handshake { handshake with parent := .decided none }
  | assume (loses : lossy = true) (here : handshake.parent = .listening) :
      Step sandbox lossy handshake { handshake with parent := .decided none }
  | signal {message : Message} (boxed : sandbox = true)
      (here : handshake.middle = some .isolating) :
      Step sandbox lossy handshake
        { handshake with middle := some .waiting, ready := handshake.ready ++ [message] }
  | unheard (here : handshake.middle = some .isolating) (boxed : sandbox = true)
      (away : handshake.parent ≠ .preparing) :
      Step sandbox lossy handshake { handshake with middle := some .silent }
  | notIsolated {failure : ExecFailure} (here : handshake.middle = some .isolating) :
      Step sandbox lossy handshake { handshake with middle := some (.failing failure) }
  | populate (plain : sandbox = false) (here : handshake.middle = some .isolating) :
      Step sandbox lossy handshake { handshake with middle := some .populating }
  | release {message : Message} {rest : List Message}
      (here : handshake.middle = some .waiting) (queued : handshake.answers = message :: rest) :
      Step sandbox lossy handshake
        { handshake with middle := some .populating, answers := rest }
  | notReleased {failure : ExecFailure} (here : handshake.middle = some .waiting) :
      Step sandbox lossy handshake { handshake with middle := some (.failing failure) }
  | notPopulated {failure : ExecFailure} (here : handshake.middle = some .populating) :
      Step sandbox lossy handshake { handshake with middle := some (.failing failure) }
  | spawn (here : handshake.middle = some .populating) (unborn : handshake.payload = none) :
      Step sandbox lossy handshake
        { handshake with middle := some .spawned, payload := some .preparing }
  | report {failure : ExecFailure} {reports : List Message}
      (here : handshake.middle = some (.failing failure))
      (delivers : handshake.Delivers failure reports) :
      Step sandbox lossy handshake
        { handshake with middle := some (.reported failure), reports }
  | start (here : handshake.payload = some .preparing) :
      Step sandbox lossy handshake { handshake with payload := some .started }
  | notStarted {failure : ExecFailure} (here : handshake.payload = some .preparing) :
      Step sandbox lossy handshake { handshake with payload := some (.failing failure) }
  | reportStart {failure : ExecFailure} {reports : List Message}
      (here : handshake.payload = some (.failing failure))
      (delivers : handshake.Delivers failure reports) :
      Step sandbox lossy handshake
        { handshake with payload := some (.reported failure), reports }

def initial : Handshake where
  parent := .forking
  mapped := false
  middle := none
  payload := none
  ready := []
  answers := []
  reports := []

/-- The failure was reported, and its process is done. -/
def Reported (handshake : Handshake) (failure : ExecFailure) : Prop :=
  handshake.middle = some (.reported failure) ∨ handshake.payload = some (.reported failure)

section Invariants

variable {sandbox lossy : Bool} {handshake next : Handshake}

/-- Who has been born. -/
structure Births (handshake : Handshake) : Prop where
  middle : handshake.middle = none ↔ handshake.parent = .forking ∨ handshake.parent = .unforked
  payload : handshake.payload.isSome ↔ handshake.middle = some .spawned

theorem Births.step (births : Births handshake) (step : Step sandbox lossy handshake next) :
    Births next := by
  rcases births with ⟨middle, payload⟩
  cases step <;> constructor <;> simp_all

theorem reported_step (births : Births handshake) {failure : ExecFailure}
    (reported : handshake.Reported failure) (step : Step sandbox lossy handshake next) :
    next.Reported failure := by
  rcases births with ⟨middle, payload⟩
  cases step <;> rcases reported with here | here <;> simp_all [Reported]

/-- A report is of what was reported, and it waits for the parent. -/
structure Reports (handshake : Handshake) : Prop where
  queued : ∀ message ∈ handshake.reports,
    ∃ failure, message = .failure failure ∧ handshake.Reported failure
  learned : ∀ failure, handshake.parent = .decided (some failure) → handshake.Reported failure
  waits : ∀ failure, handshake.Reported failure →
    handshake.reports ≠ [] ∨ ∃ outcome, handshake.parent = .decided outcome

theorem Delivers.mem {failure : ExecFailure} {reports : List Message} {message : Message}
    (delivers : handshake.Delivers failure reports) (mem : message ∈ reports) :
    message ∈ handshake.reports ∨ message = .failure failure := by
  cases delivers with
  | queued => simpa using mem
  | lost => exact .inl mem

theorem Delivers.waits {failure : ExecFailure} {reports : List Message}
    (delivers : handshake.Delivers failure reports) :
    reports ≠ [] ∨ ∃ outcome, handshake.parent = .decided outcome := by
  cases delivers with
  | queued => exact .inl (by simp)
  | lost late => exact .inr ⟨_, late⟩

theorem Reports.step (births : Births handshake) (reports : Reports handshake)
    (step : Step sandbox lossy handshake next) : Reports next := by
  have stays : ∀ failure, handshake.Reported failure → next.Reported failure :=
    fun failure reported => reported_step births reported step
  have kept : ∀ message ∈ handshake.reports,
      ∃ failure, message = .failure failure ∧ next.Reported failure := by
    intro message mem
    rcases reports.queued message mem with ⟨failure, isFailure, reported⟩
    exact ⟨failure, isFailure, stays failure reported⟩
  cases step with
  | report here delivers =>
      refine ⟨fun message mem => ?_, fun failure decided => ?_, fun failure reported => ?_⟩
      · rcases delivers.mem mem with old | rfl
        · exact kept message old
        · exact ⟨_, rfl, .inl rfl⟩
      · exact stays failure (reports.learned failure decided)
      · exact delivers.waits
  | reportStart here delivers =>
      refine ⟨fun message mem => ?_, fun failure decided => ?_, fun failure reported => ?_⟩
      · rcases delivers.mem mem with old | rfl
        · exact kept message old
        · exact ⟨_, rfl, .inr rfl⟩
      · exact stays failure (reports.learned failure decided)
      · exact delivers.waits
  | @learn message rest here queued =>
      refine ⟨fun other mem => kept other ?_, fun failure decided => ?_, fun _ _ => .inr ⟨_, rfl⟩⟩
      · simp [queued, mem]
      · rcases kept message (by simp [queued]) with ⟨reported, rfl, isReported⟩
        cases decided
        exact isReported
  | conclude | assume => exact ⟨kept, nofun, fun _ _ => .inr ⟨_, rfl⟩⟩
  | fork here unborn =>
      refine ⟨kept, nofun, fun failure reported => .inl ?_⟩
      have before := births.payload
      simp_all [Reported]
  | giveUp here | skip _ here | hear _ here | hangUp _ here | mishear _ _ here | map here
  | answer here =>
      refine ⟨kept, nofun, fun failure reported => .inl ?_⟩
      exact (reports.waits failure reported).resolve_right (by simp [here])
  | signal | unheard | notIsolated | populate | release | notReleased | notPopulated =>
      refine ⟨kept, fun failure decided => stays failure (reports.learned failure decided), ?_⟩
      intro failure reported
      exact reports.waits failure (.inr (by simpa [Reported] using reported))
  | spawn =>
      refine ⟨kept, fun failure decided => stays failure (reports.learned failure decided), ?_⟩
      intro failure reported
      simp [Reported] at reported
  | start | notStarted =>
      refine ⟨kept, fun failure decided => stays failure (reports.learned failure decided), ?_⟩
      intro failure reported
      exact reports.waits failure (.inl (by simpa [Reported] using reported))

/-- In a sandbox, who waits for whom. -/
structure Turns (sandbox : Bool) (handshake : Handshake) : Prop where
  signalled : handshake.middle = some .waiting → handshake.parent = .preparing →
    handshake.ready ≠ []
  answered : handshake.answers ≠ [] → handshake.parent.Answered
  populated : sandbox = true →
    handshake.middle = some .populating ∨ handshake.middle = some .spawned →
    handshake.parent.Answered

theorem Turns.step (turns : Turns sandbox handshake)
    (step : Step sandbox lossy handshake next) : Turns sandbox next := by
  rcases turns with ⟨signalled, answered, populated⟩
  cases step with
  | start | notStarted | reportStart => exact ⟨signalled, answered, populated⟩
  | signal => exact ⟨by simp, answered, by simp⟩
  | unheard | notIsolated | notReleased | notPopulated | report =>
      exact ⟨by simp, answered, by simp⟩
  | populate plain => exact ⟨by simp, answered, by simp [plain]⟩
  | release here queued =>
      have isAnswered : handshake.parent.Answered := answered (by simp [queued])
      exact ⟨by simp, fun _ => isAnswered, fun _ _ => isAnswered⟩
  | spawn here => exact ⟨by simp, answered, fun boxed _ => populated boxed (.inl here)⟩
  | answer | learn | conclude | assume => exact ⟨by simp, fun _ => trivial, fun _ _ => trivial⟩
  | skip plain => exact ⟨by simp, fun _ => trivial, fun _ _ => trivial⟩
  | fork here =>
      rw [here] at answered
      exact ⟨by simp, answered, by simp⟩
  | giveUp here | hear _ here | hangUp _ here | mishear _ _ here | map here =>
      rw [here] at answered populated
      exact ⟨by simp, answered, populated⟩

/-- The parent goes on, and the maps are not written. -/
def Unmapped (handshake : Handshake) : Prop :=
  handshake.parent = .mapping false ∨
    (handshake.parent = .answering ∨ handshake.parent.Answered) ∧ handshake.mapped = false

/-- What the handshake is for, if no read is lost. -/
structure Heard (sandbox : Bool) (handshake : Handshake) : Prop where
  nothingYet : handshake.middle = none ∨ handshake.middle = some .isolating →
    handshake.ready = []
  listens : sandbox = true → handshake.middle = some .isolating → handshake.parent = .preparing
  speaks : handshake.middle ≠ some .silent
  unmapped : sandbox = true → handshake.Unmapped →
    ∃ failure, handshake.middle = some (.reported failure)
  started : handshake.parent = .decided none → handshake.payload = some .started

theorem Heard.step (births : Births handshake) (reports : Reports handshake)
    (turns : Turns sandbox handshake) (heard : Heard sandbox handshake)
    (step : Step sandbox false handshake next) : Heard sandbox next := by
  rcases heard with ⟨nothingYet, listens, speaks, unmapped, started⟩
  have away : sandbox = true → handshake.parent ≠ .preparing →
      handshake.middle ≠ some .isolating := fun boxed moved here => moved (listens boxed here)
  cases step with
  | fork here unborn =>
      refine ⟨fun _ => nothingYet (.inl unborn), fun _ _ => rfl, by simp, ?_, by simp⟩
      simp [Unmapped, ParentPhase.Answered]
  | giveUp here =>
      have unborn := births.middle.mpr (.inl here)
      refine ⟨nothingYet, by simp [unborn], speaks, ?_, by simp⟩
      simp [Unmapped, ParentPhase.Answered]
  | skip plain here => exact ⟨nothingYet, by simp [plain], speaks, by simp [plain], by simp⟩
  | hear boxed here queued =>
      have late : ¬(handshake.middle = none ∨ handshake.middle = some .isolating) := by
        intro early
        simp [nothingYet early] at queued
      refine ⟨fun early => absurd early late, fun _ early => absurd (.inr early) late, speaks, ?_,
        by simp⟩
      simp [Unmapped, ParentPhase.Answered]
  | @hangUp phase boxed here empty other quiet =>
      refine ⟨nothingYet, fun _ early => ?_, speaks, fun _ _ => ?_, by simp⟩
      · rw [Option.some.inj (other.symm.trans early)] at quiet
        exact quiet.elim
      · cases phase with
        | reported failure => exact ⟨failure, other⟩
        | spawned =>
            have answered := turns.populated boxed (.inr other)
            rw [here] at answered
            exact answered.elim
        | silent => exact absurd other speaks
        | isolating | waiting | populating | failing => exact quiet.elim
  | mishear loses => cases loses
  | @map ready here =>
      refine ⟨nothingYet, fun boxed early => absurd early (away boxed (by simp [here])), speaks,
        fun boxed goesOn => unmapped boxed (.inl ?_), by simp⟩
      simpa [here, Unmapped, ParentPhase.Answered] using goesOn
  | answer here =>
      refine ⟨nothingYet, fun boxed early => absurd early (away boxed (by simp [here])), speaks,
        fun boxed goesOn => unmapped boxed (.inr ⟨.inl here, ?_⟩), by simp⟩
      simpa [Unmapped, ParentPhase.Answered] using goesOn
  | @learn message rest here queued =>
      refine ⟨nothingYet, fun boxed early => absurd early (away boxed (by simp [here])), speaks,
        fun boxed goesOn => unmapped boxed (.inr ⟨.inr (by simp [here, ParentPhase.Answered]), ?_⟩),
        fun isNone => ?_⟩
      · simpa [Unmapped, ParentPhase.Answered] using goesOn
      · rcases reports.queued message (by simp [queued]) with ⟨failure, rfl, -⟩
        cases isNone
  | @conclude phase here empty other quiet done =>
      have nothing : ∀ failure, ¬handshake.Reported failure := by
        intro failure reported
        simpa [empty, here] using reports.waits failure reported
      refine ⟨nothingYet, fun boxed early => absurd early (away boxed (by simp [here])), speaks,
        fun boxed goesOn => unmapped boxed (.inr ⟨.inr (by simp [here, ParentPhase.Answered]), ?_⟩),
        fun _ => ?_⟩
      · simpa [Unmapped, ParentPhase.Answered] using goesOn
      · cases phase with
        | reported failure => exact absurd (.inl other) (nothing failure)
        | silent => exact absurd other speaks
        | isolating | waiting | populating | failing => exact quiet.elim
        | spawned =>
            rcases Option.isSome_iff_exists.mp (births.payload.mpr other) with ⟨ended, born⟩
            have isQuiet := done ended born
            cases ended with
            | started => exact born
            | reported failure => exact absurd (.inr born) (nothing failure)
            | preparing | failing => exact isQuiet.elim
  | assume loses => cases loses
  | unheard here boxed moved => exact absurd here (away boxed moved)
  | signal boxed here | notIsolated here | populate _ here | release here | notReleased here
  | notPopulated here =>
      refine ⟨by simp, by simp, by simp, fun boxed goesOn => ?_, started⟩
      simpa [here] using unmapped boxed goesOn
  | spawn here unborn =>
      refine ⟨by simp, by simp, by simp, fun boxed goesOn => ?_, fun isNone => ?_⟩
      · simpa [here] using unmapped boxed goesOn
      · simpa [unborn] using started isNone
  | report here delivers =>
      exact ⟨by simp, by simp, by simp, fun _ _ => ⟨_, rfl⟩, started⟩
  | start here => exact ⟨nothingYet, listens, speaks, unmapped, fun _ => rfl⟩
  | notStarted here | reportStart here =>
      refine ⟨nothingYet, listens, speaks, unmapped, fun isNone => ?_⟩
      simpa [here] using started isNone

/-- All that holds of a handshake. -/
structure Coherent (sandbox lossy : Bool) (handshake : Handshake) : Prop where
  births : Births handshake
  reports : Reports handshake
  turns : Turns sandbox handshake
  heard : lossy = false → Heard sandbox handshake

theorem coherent_initial : Coherent sandbox lossy initial where
  births := by constructor <;> simp [initial]
  reports := by constructor <;> simp [initial, Reported]
  turns := by constructor <;> simp [initial]
  heard _ := by constructor <;> simp [initial, Unmapped, ParentPhase.Answered]

theorem Coherent.step (coherent : Coherent sandbox lossy handshake)
    (step : Step sandbox lossy handshake next) : Coherent sandbox lossy next where
  births := coherent.births.step step
  reports := coherent.reports.step coherent.births step
  turns := coherent.turns.step step
  heard isLossless := by
    subst isLossless
    exact (coherent.heard rfl).step coherent.births coherent.reports coherent.turns step

/-- What was reported is what kept the program from being started. -/
theorem Births.not_started (births : Births handshake) {failure : ExecFailure}
    (reported : handshake.Reported failure) : handshake.payload ≠ some .started := by
  intro started
  have spawned := births.payload.mp (by simp [started])
  rcases reported with here | here
  · simp [spawned] at here
  · simp [started] at here

/-- In a sandbox the payload is not born before the user maps are written. -/
theorem Coherent.mapped (coherent : Coherent true false handshake)
    (born : handshake.payload.isSome = true) : handshake.mapped = true := by
  have spawned := coherent.births.payload.mp born
  have answered := coherent.turns.populated rfl (.inr spawned)
  by_contra unmapped
  have goesOn : handshake.Unmapped := .inr ⟨.inr answered, by simpa using unmapped⟩
  rcases (coherent.heard rfl).unmapped rfl goesOn with ⟨failure, reported⟩
  simp [spawned] at reported

end Invariants

end Handshake

end Launching

end OnlineJudge.Judge
