import OnlineJudge.Judge.LocalExecutor
import OnlineJudge.Library.Processes

/-!
# From the fork to the program

The part of `LocalExecutor::spawn` that runs in four processes: the parent, the middle
process P, the init process G of the new namespace, and the payload H that becomes the
program. Four pipes connect them: over `sync1` P asks for its user maps, over `sync2` the
parent tells it that they are written, over `pid` P hands back the payload, and over `exec`
the children report a failure, or nothing, by closing it with `execve`. The streams of the
program are pipes, too, but nobody reads them before the launch is decided.

Without a sandbox there is neither the exchange about the maps nor the init process.

The four processes are alone with their pipes: no other thread of the server forks while the
launch is under way, so that nobody else inherits an end of one of them, and up to the
decision nobody is killed from outside. What the loop of the supervisor kills comes later.
-/

namespace OnlineJudge.Judge

namespace Launching

open Library

inductive Member where
  | parent
  /-- P. -/
  | middle
  /-- G. -/
  | init
  /-- H. -/
  | payload
  deriving DecidableEq, Repr

instance : Fintype Member :=
  ⟨{.parent, .middle, .init, .payload}, fun member => by cases member <;> simp⟩

inductive Channel where
  | sync1
  | sync2
  | pid
  | exec
  deriving DecidableEq, Repr

inductive Message where
  | token
  | pid
  | failure (failure : ExecFailure)
  deriving DecidableEq, Repr

abbrev End := PipeEnd Channel

inductive ParentStage where
  | forking
  | abandoning
  | notForked
  | closing (pipeEnd : End)
  /-- `again` is set for the second attempt of a read that was interrupted. -/
  | awaitingReady (again : Bool)
  | mapping (ready : Bool)
  | answering
  | closingSync (pipeEnd : End)
  | awaitingPid (again : Bool)
  | closingPid
  | awaitingFailure (again : Bool)
  | closingFailure (failure : Option ExecFailure)
  | reaping (failure : ExecFailure)
  | failed (failure : ExecFailure)
  | launched
  deriving DecidableEq, Repr

inductive MiddleStage where
  | closing (pipeEnd : End)
  | unsharing
  | signalling
  | awaitingMaps
  | forkingInit
  | forkingPayload
  | killingInit (failure : ExecFailure)
  | awaitingInit (failure : ExecFailure)
  | sendingPid
  | dropping (pipeEnd : End)
  | awaitingPayload
  | endingInit
  | awaitingEnd
  | leaving
  | done
  | reporting (failure : ExecFailure)
  /-- `_exit(127)`, with what was reported before. -/
  | exiting (reported : Option ExecFailure)
  | gone (reported : Option ExecFailure)
  deriving DecidableEq, Repr

inductive InitStage where
  | closing (pipeEnd : End)
  | reaping
  /-- Killed, with the descriptors from `pipeEnd` on still open. -/
  | dying (pipeEnd : Option End)
  | gone
  deriving DecidableEq, Repr

inductive PayloadStage where
  | connecting
  | closing (pipeEnd : End)
  | enteringRoot
  | closingExtra
  | limiting
  | filtering
  | changingDirectory
  | executing
  /-- `execve` has succeeded and closes what is left. -/
  | starting
  | running
  | ended
  | reporting (held : List End) (failure : ExecFailure)
  | exiting (held : List End) (failure : ExecFailure)
  | gone (failure : ExecFailure)
  deriving DecidableEq, Repr

inductive Point where
  /-- `mapped` is history: whether `write_user_maps` was called, whatever came of it. -/
  | parent (stage : ParentStage) (mapped : Bool)
  | middle (stage : MiddleStage)
  | init (stage : InitStage)
  | payload (stage : PayloadStage)
  deriving DecidableEq, Repr

abbrev Request := Operation Member Channel Message ExecFailure Point

def readEnd (channel : Channel) : End := ⟨channel, .read⟩

def writeEnd (channel : Channel) : End := ⟨channel, .write⟩

/-- What is still open when the turn of `pipeEnd` comes. -/
def remaining (order : List End) (pipeEnd : End) : List End :=
  order.dropWhile (· ≠ pipeEnd)

/-- The end that is closed after `pipeEnd`, if there is one. -/
def following (order : List End) (pipeEnd : End) : Option End :=
  (remaining order pipeEnd).tail.head?

def parentOrder : List End :=
  [writeEnd .exec, writeEnd .sync1, readEnd .sync2, writeEnd .pid]

def syncOrder : List End := [readEnd .sync1, writeEnd .sync2]

def middleOrder : List End :=
  [readEnd .exec, readEnd .sync1, writeEnd .sync2, readEnd .pid]

/-- `pid_w` first, then the rest; the descriptors of the streams are left out. -/
def dropOrder : List End :=
  [writeEnd .pid, writeEnd .exec, writeEnd .sync1, readEnd .sync2]

/-- What the init process has inherited; the other ends were closed by P. -/
def initOrder : List End :=
  [writeEnd .exec, writeEnd .sync1, readEnd .sync2, writeEnd .pid]

def payloadOrder : List End := [writeEnd .sync1, readEnd .sync2]

/-- One `reset` after the other, then on. -/
def closeInOrder (order : List End) (pipeEnd : End) (again : End → Point) (onwards : Point) :
    Request :=
  if pipeEnd ∈ order then
    .close pipeEnd <|
      match following order pipeEnd with
      | some other => again other
      | none => onwards
  else .stop

/-- A read that is tried again once when it is interrupted. -/
def readTwice (channel : Channel) (again : Bool) (retry : Point)
    (next : Received Message → Point) : Request :=
  .receive channel fun
    | .interrupted => if again then next .interrupted else retry
    | answer => next answer

section Code

variable (sandbox : Bool)

def parentCode (mapped : Bool) : ParentStage → Request
  | .forking =>
      .fork .middle (.parent (.closing (writeEnd .exec)) mapped) fun _ =>
        some (.parent .abandoning mapped)
  | .abandoning => .closeAll (.parent .notForked mapped)
  | .closing pipeEnd =>
      closeInOrder parentOrder pipeEnd (fun other => .parent (.closing other) mapped)
        (if sandbox then .parent (.awaitingReady false) mapped
        else .parent (.closingSync (readEnd .sync1)) mapped)
  | .awaitingReady again =>
      readTwice .sync1 again (.parent (.awaitingReady true) mapped) fun
        | .message _ => .parent (.mapping true) mapped
        | _ => .parent (.mapping false) mapped
  -- The maps are written if there was a token; whether that succeeds is not looked at.
  | .mapping ready => .call (.parent .answering ready) fun _ => none
  | .answering =>
      .send .sync2 .token fun _ => .parent (.closingSync (readEnd .sync1)) mapped
  | .closingSync pipeEnd =>
      closeInOrder syncOrder pipeEnd (fun other => .parent (.closingSync other) mapped)
        (.parent (.awaitingPid false) mapped)
  | .awaitingPid again =>
      readTwice .pid again (.parent (.awaitingPid true) mapped) fun _ => .parent .closingPid mapped
  | .closingPid => .close (readEnd .pid) (.parent (.awaitingFailure false) mapped)
  | .awaitingFailure again =>
      readTwice .exec again (.parent (.awaitingFailure true) mapped) fun
        | .message (.failure failure) => .parent (.closingFailure (some failure)) mapped
        | _ => .parent (.closingFailure none) mapped
  | .closingFailure (some failure) =>
      .close (readEnd .exec) (.parent (.reaping failure) mapped)
  | .closingFailure none => .close (readEnd .exec) (.parent .launched mapped)
  | .reaping failure => .await .middle (.parent (.failed failure) mapped)
  | .notForked => .stop
  | .failed _ => .stop
  | .launched => .stop

/-- A failure of the given stage. -/
def failsAt (stages : List SandboxStage) (report : ExecFailure → Point) (failure : ExecFailure) :
    Option Point :=
  if failure.stage ∈ stages then some (report failure) else none

def middleCode : MiddleStage → Request
  | .closing pipeEnd =>
      closeInOrder middleOrder pipeEnd (fun other => .middle (.closing other))
        (if sandbox then .middle .unsharing else .middle .forkingPayload)
  | .unsharing =>
      .call (.middle .signalling) (failsAt [.unshare] fun failure => .middle (.reporting failure))
  | .signalling =>
      .send .sync1 .token fun
        | true => .middle .awaitingMaps
        | false => .middle (.exiting none)
  | .awaitingMaps =>
      .receive .sync2 fun
        | .message _ => .middle .forkingInit
        -- `EIO`.
        | _ => .middle (.reporting ⟨.unshare, 5⟩)
  | .forkingInit =>
      .fork .init (.middle .forkingPayload)
        (failsAt [.root] fun failure => .middle (.reporting failure))
  | .forkingPayload =>
      .fork .payload (.middle .sendingPid)
        (failsAt [.root] fun failure =>
          if sandbox then .middle (.killingInit failure) else .middle (.reporting failure))
  | .killingInit failure => .kill .init (.middle (.awaitingInit failure))
  | .awaitingInit failure => .await .init (.middle (.reporting failure))
  | .sendingPid => .send .pid .pid fun _ => .middle (.dropping (writeEnd .pid))
  | .dropping pipeEnd =>
      closeInOrder dropOrder pipeEnd (fun other => .middle (.dropping other))
        (.middle .awaitingPayload)
  | .awaitingPayload =>
      .await .payload (if sandbox then .middle .endingInit else .middle .leaving)
  | .endingInit => .kill .init (.middle .awaitingEnd)
  | .awaitingEnd => .await .init (.middle .leaving)
  | .leaving => .closeAll (.middle .done)
  | .reporting failure =>
      .send .exec (.failure failure) fun _ => .middle (.exiting (some failure))
  | .exiting reported => .closeAll (.middle (.gone reported))
  | .done => .stop
  | .gone _ => .stop

def initCode : InitStage → Request
  | .closing pipeEnd =>
      closeInOrder initOrder pipeEnd (fun other => .init (.closing other)) (.init .reaping)
  | .reaping => .stop
  | .dying _ => .closeAll (.init .gone)
  | .gone => .stop

/-- What the payload still holds when the first two ends are closed. -/
def boxEnds : List End := [writeEnd .exec, writeEnd .pid]

def payloadCode : PayloadStage → Request
  -- `dup2` of the streams.
  | .connecting =>
      .call (.payload (.closing (writeEnd .sync1)))
        (failsAt [.exec] fun failure => .payload (.reporting (payloadOrder ++ boxEnds) failure))
  | .closing pipeEnd =>
      closeInOrder payloadOrder pipeEnd (fun other => .payload (.closing other))
        (if sandbox then .payload .enteringRoot else .payload .closingExtra)
  | .enteringRoot =>
      .call (.payload .closingExtra)
        (failsAt [.root, .chroot, .chdir] fun failure => .payload (.reporting boxEnds failure))
  | .closingExtra =>
      .closeExcept (writeEnd .exec)
        (if sandbox then .payload .limiting else .payload .changingDirectory)
  | .limiting =>
      .call (.payload .filtering)
        (failsAt [.limits] fun failure => .payload (.reporting [writeEnd .exec] failure))
  | .filtering =>
      .call (.payload .executing)
        (failsAt [.seccomp] fun failure => .payload (.reporting [writeEnd .exec] failure))
  | .changingDirectory =>
      .call (.payload .executing)
        (failsAt [.chdir] fun failure => .payload (.reporting [writeEnd .exec] failure))
  | .executing =>
      .call (.payload .starting)
        (failsAt [.exec] fun failure => .payload (.reporting [writeEnd .exec] failure))
  | .starting => .closeAll (.payload .running)
  | .running => .closeAll (.payload .ended)
  | .reporting held failure =>
      .send .exec (.failure failure) fun _ => .payload (.exiting held failure)
  | .exiting _ failure => .closeAll (.payload (.gone failure))
  | .ended => .stop
  | .gone _ => .stop

def Point.owner : Point → Member
  | .parent _ _ => .parent
  | .middle _ => .middle
  | .init _ => .init
  | .payload _ => .payload

def Point.request : Point → Request
  | .parent stage mapped => parentCode sandbox mapped stage
  | .middle stage => middleCode sandbox stage
  | .init stage => initCode stage
  | .payload stage => payloadCode sandbox stage

def entry : Member → Point
  | .parent => .parent .forking false
  | .middle => .middle (.closing (readEnd .exec))
  | .init => .init (.closing (writeEnd .exec))
  | .payload => .payload .connecting

/-- Up to the decision only the init process is killed, by P. -/
def Point.killed : Point → Point
  | .init (.closing pipeEnd) => .init (.dying (some pipeEnd))
  | .init .reaping => .init (.dying none)
  | point => point

def Point.ended : Point → Bool
  | .parent .notForked _ => true
  | .parent (.failed _) _ => true
  | .parent .launched _ => true
  | .middle .done => true
  | .middle (.gone _) => true
  | .init .gone => true
  | .payload .ended => true
  | .payload (.gone _) => true
  | _ => false

/-- The four processes; only at a point of its own a process has anything to do. -/
def program : ProcessCode Member Channel Message ExecFailure Point where
  code member point := if point.owner = member then point.request sandbox else .stop
  entry := entry
  killed := Point.killed
  ended := Point.ended

abbrev State := Processes Member Channel Message Point

/-- The parent before the fork, with all the pipes, which nobody else has. -/
def start : State where
  point member := if member = .parent then some (entry .parent) else none
  holds member _ := member = .parent
  queue _ := []

end Code

end Launching

end OnlineJudge.Judge
