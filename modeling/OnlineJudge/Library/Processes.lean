import Mathlib.Algebra.Order.BigOperators.Group.Finset
import Mathlib.Data.Fintype.Basic
import OnlineJudge.Library.TransitionSystem

/-!
# Processes that share pipes

A family of processes, each at a point of its code, with a table of the ends of pipes that
it holds. At each point the code asks for one operation of the kernel; the answer decides
about the next point. A child inherits the table of its parent. A read waits as long as the
pipe is empty and somebody can still write to it, a write fails when nobody can read any
more. Which process moves, and which operations fail or are interrupted, is up to the
scheduler.

Two general results are about every such family. If the code closes what it owns, the
tables are known in every reachable state (`Owned.of_reaches`). If every operation leads to
a point of lower rank, the number of steps is bounded (`Descends.length_le`).
-/

namespace OnlineJudge.Library

inductive Side where
  | read
  | write
  deriving DecidableEq, Repr

structure PipeEnd (Channel : Type) where
  channel : Channel
  side : Side
  deriving DecidableEq, Repr

inductive Received (Message : Type) where
  | message (message : Message)
  | endOfFile
  | interrupted
  deriving DecidableEq, Repr

/-- What a process asks of the kernel, and where it goes on. -/
inductive Operation (Process Channel Message Failure Point : Type) where
  | close (pipeEnd : PipeEnd Channel) (next : Point)
  | closeExcept (kept : PipeEnd Channel) (next : Point)
  | closeAll (next : Point)
  /-- The answer tells if somebody can read the message. -/
  | send (channel : Channel) (message : Message) (next : Bool → Point)
  | receive (channel : Channel) (next : Received Message → Point)
  /-- Anything else that can fail. -/
  | call (next : Point) (failed : Failure → Option Point)
  | fork (child : Process) (next : Point) (failed : Failure → Option Point)
  | kill (victim : Process) (next : Point)
  | await (child : Process) (next : Point)
  | stop

/-- The code of a family of processes. -/
structure ProcessCode (Process Channel Message Failure Point : Type) where
  code : Process → Point → Operation Process Channel Message Failure Point
  /-- Where a child begins. -/
  entry : Process → Point
  /-- Where a process goes that is killed. -/
  killed : Point → Point
  ended : Point → Bool

/-- What the scheduler decides about an operation. -/
inductive Choice (Failure : Type) where
  | proceeds
  | interrupted
  | fails (failure : Failure)
  deriving DecidableEq, Repr

structure Processes (Process Channel Message Point : Type) where
  point : Process → Option Point
  holds : Process → PipeEnd Channel → Bool
  queue : Channel → List Message

variable {Process Channel Message Failure Point : Type}

/-- The other process that the operation concerns. -/
def Operation.affects : Operation Process Channel Message Failure Point → Option Process
  | .fork child _ _ => some child
  | .kill victim _ => some victim
  | _ => none

namespace Processes

variable [DecidableEq Process] [DecidableEq Channel]

section Operations

variable (state : Processes Process Channel Message Point) (process : Process)

def moveTo (next : Point) : Processes Process Channel Message Point :=
  { state with point := Function.update state.point process (some next) }

def keep (kept : PipeEnd Channel → Bool) : Processes Process Channel Message Point :=
  { state with
    holds :=
      Function.update state.holds process fun pipeEnd =>
        state.holds process pipeEnd && kept pipeEnd }

/-- The child starts with the ends of its parent. -/
def spawnChild (child : Process) (entry : Point) : Processes Process Channel Message Point :=
  { state with
    point := Function.update state.point child (some entry)
    holds := Function.update state.holds child (state.holds process) }

def setQueue (channel : Channel) (messages : List Message) :
    Processes Process Channel Message Point :=
  { state with queue := Function.update state.queue channel messages }

end Operations

/-- Somebody holds this end of the pipe. -/
def Open (state : Processes Process Channel Message Point) (channel : Channel) (side : Side) :
    Prop :=
  ∃ process, state.holds process ⟨channel, side⟩ = true

instance [Fintype Process] (state : Processes Process Channel Message Point) (channel : Channel)
    (side : Side) : Decidable (state.Open channel side) :=
  inferInstanceAs (Decidable (∃ process, state.holds process ⟨channel, side⟩ = true))

end Processes

namespace ProcessCode

variable [DecidableEq Process] [DecidableEq Channel] [Fintype Process]
variable (program : ProcessCode Process Channel Message Failure Point)

/-- Signals end a process that lives, and do nothing else. -/
def deliverKill (victim : Process) (state : Processes Process Channel Message Point) :
    Processes Process Channel Message Point :=
  match state.point victim with
  | none => state
  | some point => if program.ended point then state else state.moveTo victim (program.killed point)

def perform (process : Process) (state : Processes Process Channel Message Point) :
    Operation Process Channel Message Failure Point → Choice Failure →
      Option (Processes Process Channel Message Point)
  | .close pipeEnd next, .proceeds =>
      some ((state.keep process fun other => other ≠ pipeEnd).moveTo process next)
  | .closeExcept kept next, .proceeds =>
      some ((state.keep process fun other => other = kept).moveTo process next)
  | .closeAll next, .proceeds => some ((state.keep process fun _ => false).moveTo process next)
  | .send channel message next, .proceeds =>
      if state.Open channel .read then
        some
          ((state.setQueue channel (state.queue channel ++ [message])).moveTo process (next true))
      else some (state.moveTo process (next false))
  | .receive channel next, .proceeds =>
      match state.queue channel with
      | message :: rest =>
          some ((state.setQueue channel rest).moveTo process (next (.message message)))
      | [] =>
          if state.Open channel .write then none
          else some (state.moveTo process (next .endOfFile))
  | .receive _ next, .interrupted => some (state.moveTo process (next .interrupted))
  | .call next _, .proceeds => some (state.moveTo process next)
  | .call _ failed, .fails failure => (failed failure).map (state.moveTo process)
  | .fork child next _, .proceeds =>
      if (state.point child).isSome then none
      else some ((state.spawnChild process child (program.entry child)).moveTo process next)
  | .fork _ _ failed, .fails failure => (failed failure).map (state.moveTo process)
  | .kill victim next, .proceeds => some ((program.deliverKill victim state).moveTo process next)
  | .await child next, .proceeds =>
      match state.point child with
      | some point => if program.ended point then some (state.moveTo process next) else none
      | none => none
  | _, _ => none

def system : TransitionSystem (Processes Process Channel Message Point)
    (Process × Choice Failure) where
  step state label :=
    match state.point label.1 with
    | none => none
    | some point => program.perform label.1 state (program.code label.1 point) label.2

/-- All that an operation can do. -/
inductive Effect (process : Process) (state : Processes Process Channel Message Point) :
    Operation Process Channel Message Failure Point → Choice Failure →
      Processes Process Channel Message Point → Prop where
  | closed (pipeEnd : PipeEnd Channel) (next : Point) :
      Effect process state (.close pipeEnd next) .proceeds
        ((state.keep process fun other => other ≠ pipeEnd).moveTo process next)
  | keptOne (kept : PipeEnd Channel) (next : Point) :
      Effect process state (.closeExcept kept next) .proceeds
        ((state.keep process fun other => other = kept).moveTo process next)
  | gaveUpAll (next : Point) :
      Effect process state (.closeAll next) .proceeds
        ((state.keep process fun _ => false).moveTo process next)
  | sent (channel : Channel) (message : Message) (next : Bool → Point)
      (isOpen : state.Open channel .read) :
      Effect process state (.send channel message next) .proceeds
        ((state.setQueue channel (state.queue channel ++ [message])).moveTo process (next true))
  | refused (channel : Channel) (message : Message) (next : Bool → Point)
      (unread : ¬state.Open channel .read) :
      Effect process state (.send channel message next) .proceeds
        (state.moveTo process (next false))
  | received (channel : Channel) (next : Received Message → Point) {message : Message}
      {rest : List Message} (queued : state.queue channel = message :: rest) :
      Effect process state (.receive channel next) .proceeds
        ((state.setQueue channel rest).moveTo process (next (.message message)))
  | endOfFile (channel : Channel) (next : Received Message → Point)
      (empty : state.queue channel = []) (unwritten : ¬state.Open channel .write) :
      Effect process state (.receive channel next) .proceeds
        (state.moveTo process (next .endOfFile))
  | interrupted (channel : Channel) (next : Received Message → Point) :
      Effect process state (.receive channel next) .interrupted
        (state.moveTo process (next .interrupted))
  | called (next : Point) (failed : Failure → Option Point) :
      Effect process state (.call next failed) .proceeds (state.moveTo process next)
  | callFailed (next : Point) {failed : Failure → Option Point} {failure : Failure}
      {after : Point} (isFailure : failed failure = some after) :
      Effect process state (.call next failed) (.fails failure) (state.moveTo process after)
  | forked {child : Process} (next : Point) (failed : Failure → Option Point)
      (unborn : state.point child = none) :
      Effect process state (.fork child next failed) .proceeds
        ((state.spawnChild process child (program.entry child)).moveTo process next)
  | forkFailed (child : Process) (next : Point) {failed : Failure → Option Point}
      {failure : Failure} {after : Point} (isFailure : failed failure = some after) :
      Effect process state (.fork child next failed) (.fails failure) (state.moveTo process after)
  | killed (victim : Process) (next : Point) :
      Effect process state (.kill victim next) .proceeds
        ((program.deliverKill victim state).moveTo process next)
  | awaited {child : Process} (next : Point) {point : Point}
      (alive : state.point child = some point) (ended : program.ended point = true) :
      Effect process state (.await child next) .proceeds (state.moveTo process next)

variable {program} {process : Process} {state next : Processes Process Channel Message Point}
  {operation : Operation Process Channel Message Failure Point} {choice : Choice Failure}

theorem perform_cases
    (performed : program.perform process state operation choice = some next) :
    program.Effect process state operation choice next := by
  unfold perform at performed
  split at performed
  · cases performed
    exact .closed _ _
  · cases performed
    exact .keptOne _ _
  · cases performed
    exact .gaveUpAll _
  · split at performed
    · rename_i isOpen
      cases performed
      exact .sent _ _ _ isOpen
    · rename_i unread
      cases performed
      exact .refused _ _ _ unread
  · split at performed
    · rename_i queued
      cases performed
      exact .received _ _ queued
    · rename_i empty
      split at performed
      · cases performed
      · rename_i unwritten
        cases performed
        exact .endOfFile _ _ empty unwritten
  · cases performed
    exact .interrupted _ _
  · cases performed
    exact .called _ _
  · rcases Option.map_eq_some_iff.mp performed with ⟨after, isFailure, rfl⟩
    exact .callFailed _ isFailure
  · split at performed
    · cases performed
    · rename_i unborn
      cases performed
      exact .forked _ _ (by simpa using unborn)
  · rcases Option.map_eq_some_iff.mp performed with ⟨after, isFailure, rfl⟩
    exact .forkFailed _ _ isFailure
  · cases performed
    exact .killed _ _
  · split at performed
    · rename_i alive
      split at performed
      · rename_i ended
        cases performed
        exact .awaited _ alive ended
      · cases performed
    · cases performed
  · cases performed

/-- A step is made by a process that has been born. -/
theorem step_cases {label : Process × Choice Failure}
    (step : program.system.step state label = some next) :
    ∃ point, state.point label.1 = some point ∧
      program.Effect label.1 state (program.code label.1 point) label.2 next := by
  simp only [system] at step
  split at step
  · cases step
  · rename_i point alive
    exact ⟨point, alive, perform_cases step⟩

/-- What every operation of every process keeps holds in every state. -/
theorem invariant_of_reaches
    {allowed : Processes Process Channel Message Point → Process × Choice Failure → Prop}
    {first : Processes Process Channel Message Point}
    (inv : Processes Process Channel Message Point → Prop)
    (reaches : program.system.Reaches allowed first state) (initially : inv first)
    (preserved : ∀ process choice point before after,
      program.system.Reaches allowed first before → inv before →
      allowed before (process, choice) → before.point process = some point →
      program.Effect process before (program.code process point) choice after → inv after) :
    inv state := by
  apply reaches.invariant initially
  rintro before ⟨process, choice⟩ after reached holds isAllowed step
  rcases step_cases step with ⟨point, here, effect⟩
  exact preserved process choice point before after reached holds isAllowed here effect

section Tables

variable (program) (owns : Process → Point → PipeEnd Channel → Bool)

/-- At both points the process has the same ends. -/
def SameEnds (process : Process) (point next : Point) : Prop :=
  ∀ pipeEnd, owns process next pipeEnd = owns process point pipeEnd

/-- The operation accounts for what the process has before and after it. -/
def Accounts (process : Process) (point : Point) :
    Operation Process Channel Message Failure Point → Prop
  | .close closed next =>
      ∀ pipeEnd, owns process next pipeEnd =
        (owns process point pipeEnd && decide (pipeEnd ≠ closed))
  | .closeExcept kept next =>
      ∀ pipeEnd, owns process next pipeEnd =
        (owns process point pipeEnd && decide (pipeEnd = kept))
  | .closeAll next => ∀ pipeEnd, owns process next pipeEnd = false
  | .send _ _ next => ∀ delivered, SameEnds owns process point (next delivered)
  | .receive _ next => ∀ answer, SameEnds owns process point (next answer)
  | .call next failed =>
      SameEnds owns process point next ∧
        ∀ failure after, failed failure = some after → SameEnds owns process point after
  | .fork child next failed =>
      child ≠ process ∧
        (∀ pipeEnd, owns child (program.entry child) pipeEnd = owns process point pipeEnd) ∧
        SameEnds owns process point next ∧
        ∀ failure after, failed failure = some after → SameEnds owns process point after
  | .kill _ next => SameEnds owns process point next
  | .await _ next => SameEnds owns process point next
  | .stop => True

/-- The code accounts for the ends that each process has at each point. -/
structure Ownership : Prop where
  accounts : ∀ process point, program.Accounts owns process point (program.code process point)
  killed : ∀ process point, SameEnds owns process point (program.killed point)

/-- What a process that has been born holds is what it has at its point. -/
def Owned (state : Processes Process Channel Message Point) : Prop :=
  ∀ process pipeEnd, state.holds process pipeEnd =
    (state.point process).elim false fun point => owns process point pipeEnd

variable {program} {owns}

omit [DecidableEq Channel] [Fintype Process] in
/-- One process moves, with the ends that it has at its new point. -/
theorem Owned.update {after : Processes Process Channel Message Point} {point : Point}
    (owned : Owned owns state)
    (others : ∀ other, other ≠ process →
      after.point other = state.point other ∧ after.holds other = state.holds other)
    (moved : after.point process = some point)
    (own : ∀ pipeEnd, after.holds process pipeEnd = owns process point pipeEnd) :
    Owned owns after := by
  intro other pipeEnd
  by_cases same : other = process
  · rw [same, moved, own]
    rfl
  · rw [(others other same).1, (others other same).2]
    exact owned other pipeEnd

omit [DecidableEq Channel] [Fintype Process] in
theorem Owned.moveTo {point after : Point} (owned : Owned owns state)
    (alive : state.point process = some point) (same : SameEnds owns process point after) :
    Owned owns (state.moveTo process after) := by
  refine owned.update (fun other differs => ?_) (Function.update_self ..) fun pipeEnd => ?_
  · exact ⟨Function.update_of_ne differs .., rfl⟩
  · rw [same]
    have before := owned process pipeEnd
    rwa [alive] at before

omit [DecidableEq Channel] [Fintype Process] in
theorem Owned.keep {point after : Point} {kept : PipeEnd Channel → Bool} (owned : Owned owns state)
    (alive : state.point process = some point)
    (accounts : ∀ pipeEnd, owns process after pipeEnd =
      (owns process point pipeEnd && kept pipeEnd)) :
    Owned owns ((state.keep process kept).moveTo process after) := by
  refine owned.update (fun other differs => ?_) (Function.update_self ..) fun pipeEnd => ?_
  · exact ⟨Function.update_of_ne differs .., Function.update_of_ne differs ..⟩
  · have before := owned process pipeEnd
    rw [alive] at before
    simp [Processes.moveTo, Processes.keep, before, accounts]

omit [DecidableEq Process] [Fintype Process] in
theorem Owned.setQueue (owned : Owned owns state) (channel : Channel) (messages : List Message) :
    Owned owns (state.setQueue channel messages) := owned

omit [DecidableEq Channel] [Fintype Process] in
theorem deliverKill_holds (victim : Process) :
    (program.deliverKill victim state).holds = state.holds := by
  rw [ProcessCode.deliverKill]
  split
  · rfl
  · split <;> rfl

omit [Fintype Process] in
theorem Owned.deliverKill (ownership : program.Ownership owns) (owned : Owned owns state)
    (victim : Process) : Owned owns (program.deliverKill victim state) := by
  rw [ProcessCode.deliverKill]
  split
  · exact owned
  · rename_i alive
    split
    · exact owned
    · exact owned.moveTo alive (ownership.killed victim _)

omit [Fintype Process] in
theorem Owned.effect (ownership : program.Ownership owns) (owned : Owned owns state) {point : Point}
    (alive : state.point process = some point)
    (effect : program.Effect process state (program.code process point) choice next) :
    Owned owns next := by
  have accounts := ownership.accounts process point
  generalize program.code process point = operation at effect accounts
  cases effect with
  | closed => exact owned.keep alive accounts
  | keptOne => exact owned.keep alive accounts
  | gaveUpAll => exact owned.keep alive fun pipeEnd => (accounts pipeEnd).trans (by simp)
  | sent => exact (owned.setQueue _ _).moveTo alive (accounts _)
  | refused => exact owned.moveTo alive (accounts _)
  | received => exact (owned.setQueue _ _).moveTo alive (accounts _)
  | endOfFile => exact owned.moveTo alive (accounts _)
  | interrupted => exact owned.moveTo alive (accounts _)
  | called => exact owned.moveTo alive accounts.1
  | callFailed _ isFailure => exact owned.moveTo alive (accounts.2 _ _ isFailure)
  | forkFailed _ _ isFailure => exact owned.moveTo alive (accounts.2.2.2 _ _ isFailure)
  | awaited => exact owned.moveTo alive accounts
  | killed victim after =>
      have killed := owned.deliverKill ownership victim
      refine killed.update (fun other differs => ?_) (Function.update_self ..) fun pipeEnd => ?_
      · exact ⟨Function.update_of_ne differs .., rfl⟩
      · have before := owned process pipeEnd
        rw [alive] at before
        rw [accounts]
        simpa [Processes.moveTo, deliverKill_holds] using before
  | @forked child after failed unborn =>
      rcases accounts with ⟨differs, inherits, same, -⟩
      have born : Owned owns (state.spawnChild process child (program.entry child)) := by
        refine owned.update (fun other others => ?_) (Function.update_self ..) fun pipeEnd => ?_
        · exact ⟨Function.update_of_ne others .., Function.update_of_ne others ..⟩
        · have before := owned process pipeEnd
          rw [alive] at before
          rw [inherits]
          simpa [Processes.spawnChild] using before
      refine born.moveTo ?_ same
      exact (Function.update_of_ne differs.symm ..).trans alive

theorem Owned.of_reaches {allowed : Processes Process Channel Message Point →
    Process × Choice Failure → Prop} {first : Processes Process Channel Message Point}
    (ownership : program.Ownership owns) (initially : Owned owns first)
    (reaches : program.system.Reaches allowed first state) : Owned owns state := by
  apply invariant_of_reaches (Owned owns) reaches initially
  intro process choice point before after _ owned _ alive effect
  exact owned.effect ownership alive effect

omit [DecidableEq Process] [DecidableEq Channel] [Fintype Process] in
/-- An end of a pipe is open as long as somebody is at a point where it is held. -/
theorem Owned.open_iff (owned : Owned owns state) {channel : Channel} {side : Side} :
    state.Open channel side ↔ ∃ process point, state.point process = some point ∧
      owns process point ⟨channel, side⟩ = true := by
  constructor
  · rintro ⟨process, holds⟩
    rw [owned process] at holds
    cases alive : state.point process with
    | none => simp [alive] at holds
    | some point => exact ⟨process, point, alive, by simpa [alive] using holds⟩
  · rintro ⟨process, point, alive, holds⟩
    exact ⟨process, by simp [owned process, alive, holds]⟩

end Tables

section Moves

/-- The points to which an operation can lead. -/
def Leads : Operation Process Channel Message Failure Point → Point → Prop
  | .close _ next, after => after = next
  | .closeExcept _ next, after => after = next
  | .closeAll next, after => after = next
  | .send _ _ next, after => ∃ delivered, after = next delivered
  | .receive _ next, after => ∃ answer, after = next answer
  | .call next failed, after => after = next ∨ ∃ failure, failed failure = some after
  | .fork _ next failed, after => after = next ∨ ∃ failure, failed failure = some after
  | .kill _ next, after => after = next
  | .await _ next, after => after = next
  | .stop, _ => False

omit [DecidableEq Channel] [Fintype Process] in
theorem moveTo_point (state : Processes Process Channel Message Point) (process : Process)
    (after : Point) : (state.moveTo process after).point process = some after :=
  Function.update_self ..

omit [Fintype Process] in
theorem Effect.leads (effect : program.Effect process state operation choice next) :
    ∃ after, Leads operation after ∧ next.point process = some after := by
  cases effect with
  | closed | keptOne | gaveUpAll | killed | awaited => exact ⟨_, rfl, moveTo_point ..⟩
  | sent | refused | received | endOfFile | interrupted => exact ⟨_, ⟨_, rfl⟩, moveTo_point ..⟩
  | called | forked => exact ⟨_, .inl rfl, moveTo_point ..⟩
  | callFailed _ isFailure => exact ⟨_, .inr ⟨_, isFailure⟩, moveTo_point ..⟩
  | forkFailed _ _ isFailure => exact ⟨_, .inr ⟨_, isFailure⟩, moveTo_point ..⟩

omit [DecidableEq Channel] [Fintype Process] in
theorem deliverKill_point {victim other : Process} (differs : other ≠ victim) :
    (program.deliverKill victim state).point other = state.point other := by
  rw [deliverKill]
  split
  · rfl
  · split
    · rfl
    · exact Function.update_of_ne differs ..

omit [DecidableEq Channel] [Fintype Process] in
theorem deliverKill_cases (program : ProcessCode Process Channel Message Failure Point)
    (state : Processes Process Channel Message Point) (victim : Process) :
    (program.deliverKill victim state).point victim = state.point victim ∧
        (∀ point, state.point victim = some point → program.ended point = true) ∨
      ∃ point, state.point victim = some point ∧ program.ended point = false ∧
        (program.deliverKill victim state).point victim = some (program.killed point) := by
  rw [deliverKill]
  split
  · rename_i unborn
    exact .inl ⟨rfl, by simp [unborn]⟩
  · rename_i point alive
    split
    · rename_i isEnded
      exact .inl ⟨rfl, by simpa [alive] using isEnded⟩
    · rename_i notEnded
      exact .inr ⟨point, alive, by simpa using notEnded, Function.update_self ..⟩

/-- What an operation can do to another process. -/
inductive Touched (program : ProcessCode Process Channel Message Failure Point)
    (state next : Processes Process Channel Message Point) (other : Process) :
    Operation Process Channel Message Failure Point → Prop where
  | untouched {operation : Operation Process Channel Message Failure Point}
      (same : next.point other = state.point other) : Touched program state next other operation
  | born (after : Point) (failed : Failure → Option Point) (unborn : state.point other = none)
      (begins : next.point other = some (program.entry other)) :
      Touched program state next other (.fork other after failed)
  | killed (after : Point) {point : Point} (alive : state.point other = some point)
      (notEnded : program.ended point = false)
      (dies : next.point other = some (program.killed point)) :
      Touched program state next other (.kill other after)

omit [Fintype Process] in
theorem Effect.touches {other : Process}
    (effect : program.Effect process state operation choice next)
    (differs : other ≠ process) : Touched program state next other operation := by
  cases effect with
  | closed | keptOne | gaveUpAll | sent | refused | received | endOfFile | interrupted | called
  | callFailed | forkFailed | awaited => exact .untouched (Function.update_of_ne differs ..)
  | @forked child after failed unborn =>
      by_cases isChild : other = child
      · subst child
        refine .born after failed unborn ?_
        exact (Function.update_of_ne differs ..).trans (Function.update_self ..)
      · refine .untouched ?_
        exact (Function.update_of_ne differs ..).trans (Function.update_of_ne isChild ..)
  | killed victim after =>
      have moved : ((program.deliverKill victim state).moveTo process after).point other =
          (program.deliverKill victim state).point other := Function.update_of_ne differs ..
      by_cases isVictim : other = victim
      · subst victim
        rcases deliverKill_cases program state other with ⟨same, -⟩ | ⟨point, alive, notEnded, dies⟩
        · exact .untouched (moved.trans same)
        · exact .killed after alive notEnded (moved.trans dies)
      · exact .untouched (moved.trans (deliverKill_point isVictim))

omit [Fintype Process] in
/-- An operation that does not concern another process leaves it where it is. -/
theorem Effect.point_eq {other : Process}
    (effect : program.Effect process state operation choice next)
    (differs : other ≠ process) (spared : operation.affects ≠ some other) :
    next.point other = state.point other := by
  cases effect.touches differs with
  | untouched same => exact same
  | born | killed => exact absurd rfl spared

/-- What holds where the processes begin, and is kept by every operation of the process itself,
holds wherever they are. -/
theorem points_of_reaches (fits : Process → Point → Prop)
    {allowed : Processes Process Channel Message Point → Process × Choice Failure → Prop}
    {first : Processes Process Channel Message Point}
    (reaches : program.system.Reaches allowed first state)
    (initially : ∀ process point, first.point process = some point → fits process point)
    (entries : ∀ child, fits child (program.entry child))
    (killed : ∀ process point, fits process point → fits process (program.killed point))
    (leads : ∀ process point after, fits process point →
      Leads (program.code process point) after → fits process after) :
    ∀ process point, state.point process = some point → fits process point := by
  apply invariant_of_reaches
    (fun state => ∀ process point, state.point process = some point → fits process point)
    reaches initially
  intro process choice start before after _ fitting _ here effect other point there
  by_cases same : other = process
  · subst same
    rcases effect.leads with ⟨next, isLed, moved⟩
    rw [moved] at there
    cases there
    exact leads _ start point (fitting _ start here) isLed
  · have touched := effect.touches same
    generalize program.code process start = operation at touched
    cases touched with
    | untouched unmoved => exact fitting other point (unmoved.symm.trans there)
    | born _ _ _ begins =>
        rw [begins] at there
        cases there
        exact entries other
    | killed _ alive _ dies =>
        rw [dies] at there
        cases there
        exact killed other _ (fitting other _ alive)

omit [Fintype Process] in
/-- Nobody who has been born disappears. -/
theorem Effect.born (effect : program.Effect process state operation choice next)
    {other : Process} (born : state.point other ≠ none) : next.point other ≠ none := by
  by_cases same : other = process
  · subst same
    rcases effect.leads with ⟨after, -, moved⟩
    simp [moved]
  · cases effect.touches same with
    | untouched unmoved => rwa [unmoved]
    | born _ _ unborn => exact absurd unborn born
    | killed _ _ _ dies => simp [dies]

theorem born_of_reaches
    {allowed : Processes Process Channel Message Point → Process × Choice Failure → Prop}
    {first : Processes Process Channel Message Point} {other : Process}
    (reaches : program.system.Reaches allowed first state) (born : first.point other ≠ none) :
    state.point other ≠ none := by
  apply invariant_of_reaches (fun state => state.point other ≠ none) reaches born
  intro process choice point before after _ born _ _ effect
  exact effect.born born

/-- The operation has to wait for another process, or there is nothing left to do. -/
def Waits (program : ProcessCode Process Channel Message Failure Point)
    (state : Processes Process Channel Message Point) :
    Operation Process Channel Message Failure Point → Prop
  | .receive channel _ => state.queue channel = [] ∧ state.Open channel .write
  | .await child _ => ∀ point, state.point child = some point → program.ended point = false
  | .fork child _ _ => (state.point child).isSome = true
  | .stop => True
  | _ => False

theorem proceeds_of_not_waits {point : Point} (alive : state.point process = some point)
    (goesOn : ¬program.Waits state (program.code process point)) :
    ∃ next, program.system.step state (process, .proceeds) = some next := by
  simp only [system, alive]
  generalize program.code process point = operation at goesOn
  cases operation with
  | close | closeExcept | closeAll | call | kill => exact ⟨_, rfl⟩
  | send channel message next =>
      simp only [perform]
      split <;> exact ⟨_, rfl⟩
  | receive channel next =>
      simp only [Waits, not_and] at goesOn
      simp only [perform]
      split
      · exact ⟨_, rfl⟩
      · rename_i empty
        rw [if_neg (goesOn empty)]
        exact ⟨_, rfl⟩
  | fork child next failed =>
      simp only [perform]
      rw [if_neg (by simpa [Waits] using goesOn)]
      exact ⟨_, rfl⟩
  | await child next =>
      simp only [Waits, not_forall, Bool.not_eq_false] at goesOn
      rcases goesOn with ⟨ending, alive, ended⟩
      simp [perform, alive, ended]
  | stop => exact absurd trivial goesOn

end Moves

section Rank

variable (program) (rank : Process → Point → ℕ)

/-- What a fork adds to the work that is left. -/
def forkCost : Operation Process Channel Message Failure Point → ℕ
  | .fork child _ _ => rank child (program.entry child)
  | _ => 0

/-- Every operation leaves less to do. -/
structure Descends : Prop where
  leads : ∀ process point after, Leads (program.code process point) after →
    rank process after + program.forkCost rank (program.code process point) < rank process point
  killed : ∀ process point, rank process (program.killed point) ≤ rank process point
  children : ∀ process point child after failed,
    program.code process point = .fork child after failed → child ≠ process

def rankAt (state : Processes Process Channel Message Point) (process : Process) : ℕ :=
  (state.point process).elim 0 (rank process)

/-- The work that is left. -/
def workLeft (state : Processes Process Channel Message Point) : ℕ :=
  ∑ process, rankAt rank state process

variable {program} {rank}

omit [DecidableEq Process] [DecidableEq Channel] [Fintype Process] in
/-- Only a child that is born has more to do than before. -/
theorem Touched.rankAt_le (descends : program.Descends rank) {other : Process}
    (touched : Touched program state next other operation) :
    rankAt rank next other ≤ rankAt rank state other ∨
      ∃ after failed, operation = .fork other after failed ∧
        rankAt rank next other = program.forkCost rank operation := by
  cases touched with
  | untouched same => exact .inl (by simp [rankAt, same])
  | killed after alive notEnded dies =>
      exact .inl (by simpa [rankAt, alive, dies] using descends.killed other _)
  | born after failed unborn begins =>
      exact .inr ⟨after, failed, rfl, by simp [rankAt, begins, forkCost]⟩

omit [DecidableEq Channel] in
/-- The other processes together have at most the cost of a fork more to do. -/
theorem sum_others_le (descends : program.Descends rank) {process : Process}
    (children : ∀ child after failed, operation = .fork child after failed → child ≠ process)
    (touched : ∀ other, other ≠ process → Touched program state next other operation) :
    ∑ other ∈ Finset.univ.erase process, rankAt rank next other ≤
      ∑ other ∈ Finset.univ.erase process, rankAt rank state other +
        program.forkCost rank operation := by
  by_cases forks : ∃ child after failed, operation = .fork child after failed
  · rcases forks with ⟨child, after, failed, rfl⟩
    have isOther : child ∈ Finset.univ.erase process := by
      simpa using children child after failed rfl
    rw [← Finset.add_sum_erase _ _ isOther, ← Finset.add_sum_erase _ (rankAt rank state) isOther]
    have rest : ∑ other ∈ (Finset.univ.erase process).erase child, rankAt rank next other ≤
        ∑ other ∈ (Finset.univ.erase process).erase child, rankAt rank state other := by
      refine Finset.sum_le_sum fun other mem => ?_
      simp only [Finset.mem_erase, Finset.mem_univ, and_true] at mem
      rcases (touched other mem.2).rankAt_le descends with less | ⟨_, _, isFork, -⟩
      · exact less
      · exact absurd (Operation.fork.inj isFork).1.symm mem.1
    rcases (touched child (children child after failed rfl)).rankAt_le descends with
      less | ⟨_, _, -, cost⟩ <;> omega
  · refine (Finset.sum_le_sum fun other mem => ?_).trans (Nat.le_add_right _ _)
    rcases (touched other (Finset.ne_of_mem_erase mem)).rankAt_le descends with
      less | ⟨after, failed, isFork, -⟩
    · exact less
    · exact absurd ⟨other, after, failed, isFork⟩ forks

/-- Every step leaves less to do. -/
theorem Descends.workLeft_lt (descends : program.Descends rank) {label : Process × Choice Failure}
    (step : program.system.step state label = some next) :
    workLeft rank next < workLeft rank state := by
  rcases step_cases step with ⟨point, alive, effect⟩
  rcases effect.leads with ⟨after, leads, moved⟩
  have less := descends.leads label.1 point after leads
  have others := sum_others_le descends (descends.children label.1 point)
    fun other differs => effect.touches differs
  have before : rankAt rank state label.1 = rank label.1 point := by simp [rankAt, alive]
  have behind : rankAt rank next label.1 = rank label.1 after := by simp [rankAt, moved]
  rw [workLeft, workLeft, ← Finset.add_sum_erase _ _ (Finset.mem_univ label.1),
    ← Finset.add_sum_erase _ (rankAt rank state) (Finset.mem_univ label.1)]
  omega

/-- A schedule is not longer than the work that is left at its beginning. -/
theorem Descends.length_le (descends : program.Descends rank)
    {schedule : List (Process × Choice Failure)}
    (ran : program.system.run state schedule = some next) :
    schedule.length ≤ workLeft rank state := by
  have bound := TransitionSystem.length_add_measure_le
    (fun _ _ _ _ step => descends.workLeft_lt step)
    (TransitionSystem.admits_unrestricted schedule state) ran
  omega

end Rank

end ProcessCode

end OnlineJudge.Library
