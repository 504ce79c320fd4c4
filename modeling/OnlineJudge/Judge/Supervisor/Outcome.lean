import OnlineJudge.Judge.Supervisor

/-!
# What the result of a process says

Whatever the kernel, the clock and the token answer: the loop ends a process for one
reason at most, with one signal to its group, and the result names this reason. The memory
in the result is the largest sample, the two outputs are the beginnings of what was read,
and what was written to the process is a beginning of its input.
-/

namespace OnlineJudge.Judge

open Library TransitionSystem

namespace Loop

def state : Loop → Supervisor
  | .running state => state
  | .left state _ => state

end Loop

namespace Supervisor

variable {spec : Supervision} {rounds : List Round} {round : Round} {state : Supervisor}

/-- The reasons in the result: cancelled, timed out, too much memory. -/
def reasons (state : Supervisor) : Bool × Bool × Bool :=
  (state.cancelled, state.timedOut, state.memoryExceeded)

/-- For which reason the loop has ended the process, if it has, and in which of its turns. -/
inductive Account (spec : Supervision) (rounds : List Round) (state : Supervisor) : Prop where
  | spared (notKilled : state.killed = false) (kills : state.history.kills = [])
      (reasons : state.reasons = (false, false, false))
  | cancelled {round : Round} {reaped : Bool} (seen : round ∈ rounds)
      (asked : (spec.cancellable && round.cancelled) = true) (killed : state.killed = true)
      (kills : state.history.kills = [⟨round.now, reaped⟩])
      (reasons : state.reasons = (true, false, false))
  | timedOut {round : Round} (seen : round ∈ rounds) (late : spec.deadline.timePoint ≤ round.now)
      (killed : state.killed = true) (kills : state.history.kills = [⟨round.now, false⟩])
      (reasons : state.reasons = (false, true, false))
  | exceeded {round : Round} (seen : round ∈ rounds) (limited : 0 < spec.memoryLimitKb)
      (above : spec.memoryLimitKb < spec.readRss round.rssKb) (killed : state.killed = true)
      (kills : state.history.kills = [⟨round.now, false⟩])
      (reasons : state.reasons = (false, false, true))
  /-- The streams were given up after the process had ended by itself. -/
  | abandoned {round : Round} (seen : round ∈ rounds) (killed : state.killed = true)
      (kills : state.history.kills = [⟨round.now, true⟩])
      (reasons : state.reasons = (false, false, false))

/-- The parts of the state that an account is about; later turns do not matter to it. -/
theorem Account.congr {other : Supervisor} {later : List Round}
    (account : state.Account spec rounds) (goesOn : rounds ⊆ later)
    (killed : other.killed = state.killed) (kills : other.history.kills = state.history.kills)
    (same : other.reasons = state.reasons) : other.Account spec later := by
  cases account with
  | spared notKilled noKills reasons =>
      exact .spared (killed.trans notKilled) (kills.trans noKills) (same.trans reasons)
  | cancelled seen asked isKilled kill reasons =>
      exact .cancelled (goesOn seen) asked (killed.trans isKilled) (kills.trans kill)
        (same.trans reasons)
  | timedOut seen late isKilled kill reasons =>
      exact .timedOut (goesOn seen) late (killed.trans isKilled) (kills.trans kill)
        (same.trans reasons)
  | exceeded seen limited above isKilled kill reasons =>
      exact .exceeded (goesOn seen) limited above (killed.trans isKilled) (kills.trans kill)
        (same.trans reasons)
  | abandoned seen isKilled kill reasons =>
      exact .abandoned (goesOn seen) (killed.trans isKilled) (kills.trans kill)
        (same.trans reasons)

/-- A process that was not ended by the loop has no reason against it. -/
theorem Account.of_spared (account : state.Account spec rounds) (spared : state.killed = false) :
    state.history.kills = [] ∧ state.reasons = (false, false, false) := by
  cases account with
  | spared _ kills reasons => exact ⟨kills, reasons⟩
  | cancelled _ _ killed | timedOut _ _ killed | exceeded _ _ _ killed | abandoned _ killed =>
      simp [killed] at spared

theorem Account.reap (account : state.Account spec rounds) :
    (state.reap round).Account spec rounds := by
  have cases := reap_cases round state
  generalize state.reap round = looked at cases
  cases cases with
  | unchanged => exact account
  | reaped => exact account.congr (List.Subset.refl _) rfl rfl rfl

theorem Account.check (account : state.Account spec rounds) (seen : round ∈ rounds) :
    (state.check spec round).Account spec rounds := by
  have cases := check_cases spec round state
  generalize state.check spec round = checked at cases
  have looked : (state.readClock round).Account spec rounds :=
    account.congr (List.Subset.refl _) rfl rfl rfl
  cases cases with
  | unchanged => exact looked
  | sampled => exact looked.congr (List.Subset.refl _) rfl rfl rfl
  | cancelled spared asked =>
      rcases looked.of_spared spared with ⟨kills, reasons⟩
      simp only [Supervisor.reasons, Prod.mk.injEq] at reasons
      exact .cancelled seen asked rfl (by simp [kill, kills]; rfl)
        (by simp [Supervisor.reasons, kill, reasons])
  | timedOut spared alive late =>
      rcases looked.of_spared spared with ⟨kills, reasons⟩
      simp only [Supervisor.reasons, Prod.mk.injEq] at reasons
      exact .timedOut seen late rfl (by simp [kill, kills, alive])
        (by simp [Supervisor.reasons, kill, reasons])
  | exceeded spared alive limited above =>
      rcases looked.of_spared spared with ⟨kills, reasons⟩
      simp only [Supervisor.reasons, Prod.mk.injEq] at reasons
      exact .exceeded seen limited above rfl
        (by simp [kill, takeSample, recordSample, kills, alive])
        (by simp [Supervisor.reasons, kill, takeSample, recordSample, reasons])

/-- The status that `waitpid` gives for the process: that of the answer that ends it. -/
def endedWith : List WaitAnswer → Option WaitStatus
  | [] => none
  | .reaped status :: _ => some status
  | .noChild :: _ => none
  | .running :: rest => endedWith rest
  | .failed :: rest => endedWith rest

/-- What is known of the end of the process, whatever `waitpid` answers later. -/
def Waited (rounds : List Round) (state : Supervisor) : Prop :=
  (state.childReaped = false → state.status = none) ∧
    ∀ later, endedWith (rounds.map (·.wait) ++ later) =
      if state.childReaped then state.status else endedWith later

theorem Waited.congr {other : Supervisor} (waited : state.Waited rounds)
    (childReaped : other.childReaped = state.childReaped)
    (status : other.status = state.status) : other.Waited rounds := by
  simp only [Waited, childReaped, status]
  exact waited

theorem Waited.reap (waited : state.Waited rounds) :
    (state.reap round).Waited (rounds ++ [round]) := by
  refine ⟨?_, fun later => ?_⟩
  · have cases := reap_cases round state
    generalize state.reap round = looked at cases
    cases cases with
    | unchanged => exact waited.1
    | reaped =>
        intro alive
        cases alive
  · have before := waited.2 (round.wait :: later)
    rw [List.map_append, List.append_assoc, List.map_singleton, List.singleton_append, before,
      Supervisor.reap]
    split
    · simp
    · rename_i alive
      rw [Bool.not_eq_true] at alive
      cases wait : round.wait <;> simp [endedWith, alive, waited.1 alive]

theorem feed_cases (event : InputEvent) :
    state.feed spec event = state ∨
      (state.feed spec event = { state with inputOpen := false }) ∨
      ∃ count, state.feed spec event = state.writeInput spec (.took count) := by
  unfold feed
  split
  · cases event with
    | quiet => exact .inl rfl
    | broken => exact .inr (.inl rfl)
    | writable answer =>
        cases answer with
        | took count => exact .inr (.inr ⟨count, rfl⟩)
        | again => exact .inl rfl
        | failed => exact .inr (.inl rfl)
  · exact .inl rfl

/-- Serving the streams touches nothing but the streams. -/
theorem serve_eq (spec : Supervision) (state : Supervisor)
    (output errors : Option (List ReadAnswer)) (input : InputEvent) :
    ∃ inputOpen inputOffset outputPipe errorsPipe sent outputRead errorsRead,
      state.serve spec output errors input =
        { state with
          inputOpen := inputOpen
          inputOffset := inputOffset
          output := outputPipe
          errors := errorsPipe
          history :=
            { state.history with
              sent := sent
              outputRead := outputRead
              errorsRead := errorsRead } } := by
  rw [serve]
  rcases @feed_cases spec ((state.readOutput spec (output.getD [])).readErrors spec
      (errors.getD [])) input with same | same | ⟨count, same⟩
  all_goals
    rw [same]
    exact ⟨_, _, _, _, _, _, _, rfl⟩

/-- The peak of the memory and the samples that are over the limit. -/
structure MemoryExact (spec : Supervision) (state : Supervisor) : Prop where
  peak : state.peakMemoryKb = (state.history.samples.map (·.rssKb)).foldl max 0
  exceeded : state.memoryExceeded = true ↔
    ∃ sample ∈ state.history.samples,
      sample.enforced = true ∧ spec.memoryLimitKb < sample.rssKb

theorem MemoryExact.congr {other : Supervisor} (exact : state.MemoryExact spec)
    (peak : other.peakMemoryKb = state.peakMemoryKb)
    (exceeded : other.memoryExceeded = state.memoryExceeded)
    (samples : other.history.samples = state.history.samples) : other.MemoryExact spec := by
  constructor
  · rw [peak, samples, exact.peak]
  · rw [exceeded, samples, exact.exceeded]

/-- A sample that is not over the limit, or does not count against it. -/
theorem MemoryExact.recordSample (exact : state.MemoryExact spec) {sample : MemorySample}
    (harmless : sample.enforced = true → sample.rssKb ≤ spec.memoryLimitKb) :
    (state.recordSample sample).MemoryExact spec := by
  constructor
  · simp [Supervisor.recordSample, exact.peak]
  · have notOver : ¬(sample.enforced = true ∧ spec.memoryLimitKb < sample.rssKb) := by
      rintro ⟨enforced, above⟩
      have within := harmless enforced
      omega
    simp only [Supervisor.recordSample, List.mem_append, List.mem_singleton, or_and_right,
      exists_or, exists_eq_left, notOver, or_false]
    exact exact.exceeded

theorem MemoryExact.begin (initialRssKb : ℤ) : (begin spec initialRssKb).MemoryExact spec := by
  have fresh : MemoryExact spec
      { inputOpen := spec.input ≠ []
        lastMemoryCheck := spec.start
        history := { lastLook := spec.start } } := ⟨rfl, by simp⟩
  simp only [Supervisor.begin]
  split
  · exact fresh.recordSample (by simp)
  · exact fresh

theorem MemoryExact.reap (exact : state.MemoryExact spec) :
    (state.reap round).MemoryExact spec := by
  have cases := reap_cases round state
  generalize state.reap round = looked at cases
  cases cases with
  | unchanged => exact exact
  | reaped => exact exact.congr rfl rfl rfl

theorem MemoryExact.check (exact : state.MemoryExact spec) :
    (state.check spec round).MemoryExact spec := by
  have cases := check_cases spec round state
  generalize state.check spec round = checked at cases
  have looked : (state.readClock round).MemoryExact spec := exact.congr rfl rfl rfl
  cases cases with
  | unchanged => exact looked
  | sampled _ _ _ _ within => exact (looked.recordSample fun _ => within).congr rfl rfl rfl
  | cancelled | timedOut => exact looked.congr rfl rfl rfl
  | exceeded _ _ _ above =>
      constructor
      · simp [kill, takeSample, Supervisor.recordSample, looked.peak]
      · simp only [true_iff]
        exact ⟨_, List.mem_append_right _ List.mem_cons_self, rfl, above⟩

/-- What has gone through the three streams so far. -/
structure Streams (spec : Supervision) (state : Supervisor) : Prop where
  output : state.output.capture.Holds spec.stdoutLimit state.history.outputRead
  errors : state.errors.capture.Holds spec.stderrLimit state.history.errorsRead
  sent : state.history.sent = spec.input.take state.inputOffset
  offset_le : state.inputOffset ≤ spec.input.length

theorem Streams.congr {other : Supervisor} (streams : state.Streams spec)
    (output : other.output.capture = state.output.capture)
    (errors : other.errors.capture = state.errors.capture)
    (offset : other.inputOffset = state.inputOffset)
    (sent : other.history.sent = state.history.sent)
    (outputRead : other.history.outputRead = state.history.outputRead)
    (errorsRead : other.history.errorsRead = state.history.errorsRead) :
    other.Streams spec := by
  constructor
  · rw [output, outputRead]
    exact streams.output
  · rw [errors, errorsRead]
    exact streams.errors
  · rw [sent, offset]
    exact streams.sent
  · rw [offset]
    exact streams.offset_le

theorem Streams.begin (initialRssKb : ℤ) : (begin spec initialRssKb).Streams spec := by
  simp only [Supervisor.begin]
  split <;> exact ⟨Capture.holds_nil, Capture.holds_nil, rfl, Nat.zero_le _⟩

theorem Streams.reap (streams : state.Streams spec) : (state.reap round).Streams spec := by
  have cases := reap_cases round state
  generalize state.reap round = looked at cases
  cases cases with
  | unchanged => exact streams
  | reaped => exact streams.congr rfl rfl rfl rfl rfl rfl

theorem Streams.check (streams : state.Streams spec) :
    (state.check spec round).Streams spec := by
  have cases := check_cases spec round state
  generalize state.check spec round = checked at cases
  have looked : (state.readClock round).Streams spec := streams.congr rfl rfl rfl rfl rfl rfl
  cases cases with
  | unchanged => exact looked
  | sampled | cancelled | timedOut | exceeded => exact looked.congr rfl rfl rfl rfl rfl rfl

theorem Streams.readOutput (streams : state.Streams spec) (answers : List ReadAnswer) :
    (state.readOutput spec answers).Streams spec :=
  ⟨Pipe.poll_holds streams.output answers, streams.errors, streams.sent, streams.offset_le⟩

theorem Streams.readErrors (streams : state.Streams spec) (answers : List ReadAnswer) :
    (state.readErrors spec answers).Streams spec :=
  ⟨streams.output, Pipe.poll_holds streams.errors answers, streams.sent, streams.offset_le⟩

/-- The pipe takes the next bytes of the input. -/
theorem Streams.feed (streams : state.Streams spec) (event : InputEvent) :
    (state.feed spec event).Streams spec := by
  rcases @feed_cases spec state event with same | same | ⟨count, same⟩
  · rw [same]
    exact streams
  · rw [same]
    exact streams.congr rfl rfl rfl rfl rfl rfl
  · rw [same]
    refine ⟨streams.output, streams.errors, ?_, ?_⟩
    · simp only [writeInput, streams.sent, List.take_add, List.length_take]
      rw [← List.take_eq_take_min]
    · have offset_le := streams.offset_le
      simp only [writeInput, List.length_take, List.length_drop]
      omega

theorem Streams.serve (streams : state.Streams spec) (output errors : Option (List ReadAnswer))
    (input : InputEvent) : (state.serve spec output errors input).Streams spec :=
  ((streams.readOutput _).readErrors _).feed input

/-- All that holds in the middle of the loop and behind it, after the turns so far. -/
structure Sound (spec : Supervision) (rounds : List Round) (state : Supervisor) : Prop where
  account : state.Account spec rounds
  waited : state.Waited rounds
  memory : state.MemoryExact spec
  streams : state.Streams spec

theorem Sound.begin (spec : Supervision) (initialRssKb : ℤ) :
    (begin spec initialRssKb).Sound spec [] := by
  refine ⟨?_, ?_, .begin initialRssKb, .begin initialRssKb⟩
  · simp only [Supervisor.begin]
    split <;> exact .spared rfl rfl rfl
  · simp only [Supervisor.begin]
    split <;> exact ⟨fun _ => rfl, fun _ => rfl⟩

theorem Sound.reap (sound : state.Sound spec rounds) :
    (state.reap round).Sound spec (rounds ++ [round]) :=
  ⟨sound.account.reap.congr (List.subset_append_left _ _) rfl rfl rfl, sound.waited.reap,
    sound.memory.reap, sound.streams.reap⟩

theorem Sound.check (sound : state.Sound spec rounds) (seen : round ∈ rounds) :
    (state.check spec round).Sound spec rounds := by
  refine ⟨sound.account.check seen, ?_, sound.memory.check, sound.streams.check⟩
  have cases := check_cases spec round state
  generalize state.check spec round = checked at cases
  have looked : (state.readClock round).Waited rounds := sound.waited.congr rfl rfl
  cases cases with
  | unchanged => exact looked
  | sampled | cancelled | timedOut | exceeded => exact looked.congr rfl rfl

theorem Sound.serve (sound : state.Sound spec rounds) (output errors : Option (List ReadAnswer))
    (input : InputEvent) : (state.serve spec output errors input).Sound spec rounds := by
  have streams := sound.streams.serve output errors input
  rcases serve_eq spec state output errors input with ⟨_, _, _, _, _, _, _, same⟩
  rw [same] at streams ⊢
  exact ⟨sound.account.congr (List.Subset.refl _) rfl rfl rfl, sound.waited.congr rfl rfl,
    sound.memory.congr rfl rfl rfl, streams⟩

/-- Giving up the streams needs a signal only if the process was spared; it has been reaped. -/
theorem Sound.abandon (sound : state.Sound spec rounds) (seen : round ∈ rounds)
    (above : state.graceOver round = true) : (state.abandon round).Sound spec rounds := by
  simp only [graceOver, Bool.and_eq_true] at above
  have reaped : state.childReaped = true := above.1.1
  simp only [Supervisor.abandon]
  split
  · exact
      ⟨sound.account.congr (List.Subset.refl _) rfl rfl rfl, sound.waited.congr rfl rfl,
        sound.memory.congr rfl rfl rfl, sound.streams.congr rfl rfl rfl rfl rfl rfl⟩
  · rename_i spared
    rw [Bool.not_eq_true] at spared
    rcases sound.account.of_spared spared with ⟨kills, reasons⟩
    exact
      ⟨.abandoned seen rfl (by simp [kill, kills, reaped]) reasons, sound.waited.congr rfl rfl,
        sound.memory.congr rfl rfl rfl, sound.streams.congr rfl rfl rfl rfl rfl rfl⟩

end Supervisor

namespace Supervision

variable {spec : Supervision}

theorem turn_sound {state : Supervisor} {rounds : List Round} (sound : state.Sound spec rounds)
    (round : Round) : (spec.turn state round).state.Sound spec (rounds ++ [round]) := by
  have seen : round ∈ rounds ++ [round] := List.mem_append_right _ List.mem_cons_self
  have looked : (state.reap round).Sound spec (rounds ++ [round]) := sound.reap
  have checked : ((state.reap round).check spec round).Sound spec (rounds ++ [round]) :=
    looked.check seen
  rcases turn_cases spec state round with ⟨-, -, -, finished⟩ | ⟨-, turned⟩
  · rw [finished]
    exact looked
  · generalize spec.turn state round = next at turned
    cases turned with
    | abandoned above => exact checked.abandon seen above
    | pollFailed => exact checked
    | idle => exact checked
    | served output errors input => exact checked.serve output errors input

theorem sound_of_run {initialRssKb : ℤ} {rounds : List Round} {loop : Loop}
    (ran : spec.system.run (.running (.begin spec initialRssKb)) rounds = some loop) :
    loop.state.Sound spec rounds := by
  have initially : (Loop.running (.begin spec initialRssKb)).state.Sound spec [] :=
    Supervisor.Sound.begin spec initialRssKb
  apply invariant_of_run (fun rounds (loop : Loop) => loop.state.Sound spec rounds) initially ?_ ran
  intro done before round next sound step
  cases before with
  | left => cases step
  | running state =>
      rcases Option.some.inj step with rfl
      exact turn_sound sound round

end Supervision

namespace Supervisor

variable {spec : Supervision} {rounds : List Round} {state : Supervisor}

/-- One reason at most. -/
theorem Account.reasons_cases (account : state.Account spec rounds) :
    state.reasons = (false, false, false) ∨ state.reasons = (true, false, false) ∨
      state.reasons = (false, true, false) ∨ state.reasons = (false, false, true) := by
  cases account with
  | spared _ _ reasons | cancelled _ _ _ _ reasons | timedOut _ _ _ _ reasons
  | exceeded _ _ _ _ _ reasons | abandoned _ _ _ reasons => simp [reasons]

theorem await_eq (state : Supervisor) (closing : Closing) :
    ∃ childReaped status,
      state.await closing = { state with childReaped := childReaped, status := status } := by
  rw [await]
  split
  · exact ⟨_, _, rfl⟩
  · split <;> exact ⟨_, _, rfl⟩

/-- What follows the loop leaves the reasons and the streams alone; only after a failure of `poll`
there is another signal. -/
theorem close_cases (spec : Supervision) (state : Supervisor) (readFailed : Bool)
    (closing : Closing) :
    (state.close spec readFailed closing).reasons = state.reasons ∧
      ((state.close spec readFailed closing).history.kills = state.history.kills ∨
        readFailed = true ∧
          (state.close spec readFailed closing).history.kills =
            state.history.kills ++ [⟨closing.killedAt, false⟩]) ∧
      (state.MemoryExact spec → (state.close spec readFailed closing).MemoryExact spec) ∧
      (state.Streams spec → (state.close spec readFailed closing).Streams spec) := by
  have unwatched : ∃ kills, (kills = state.history.kills ∨
      readFailed = true ∧ kills = state.history.kills ++ [⟨closing.killedAt, false⟩]) ∧
      state.killUnwatched readFailed closing =
        { state with history := { state.history with kills := kills } } := by
    rw [killUnwatched]
    split
    · rename_i failed
      rw [Bool.and_eq_true] at failed
      exact ⟨_, .inr ⟨failed.1, rfl⟩, rfl⟩
    · exact ⟨_, .inl rfl, rfl⟩
  rcases unwatched with ⟨kills, kills_eq, unwatched⟩
  rcases await_eq (state.killUnwatched readFailed closing) closing with ⟨_, _, awaited⟩
  rw [unwatched] at awaited
  simp only [close, unwatched, awaited]
  split
  · refine ⟨rfl, kills_eq, fun exact => ?_, fun streams => ?_⟩
    · apply MemoryExact.recordSample
      · exact exact.congr rfl rfl rfl
      · simp
    · exact streams.congr rfl rfl rfl rfl rfl rfl
  · refine ⟨rfl, kills_eq, fun exact => ?_, fun streams => ?_⟩
    · exact exact.congr rfl rfl rfl
    · exact streams.congr rfl rfl rfl rfl rfl rfl

/-- The status in the result is that of the answer that ended the process, in the loop or in the
wait behind it. -/
theorem Waited.close (waited : state.Waited rounds) (readFailed : Bool) (closing : Closing) :
    (state.close spec readFailed closing).status =
      endedWith (rounds.map (·.wait) ++ [closing.wait]) := by
  have status_eq : (state.close spec readFailed closing).status =
      ((state.killUnwatched readFailed closing).await closing).status := by
    simp only [Supervisor.close]
    split <;> rfl
  have unwatched : (state.killUnwatched readFailed closing).childReaped = state.childReaped ∧
      (state.killUnwatched readFailed closing).status = state.status := by
    rw [killUnwatched]
    split <;> exact ⟨rfl, rfl⟩
  rw [status_eq, waited.2, await, unwatched.1]
  split
  · exact unwatched.2
  · rename_i alive
    rw [Bool.not_eq_true] at alive
    cases wait : closing.wait <;> simp [endedWith, unwatched.2, waited.1 alive]

end Supervisor

/-- What a status looks like in a result: whether the process has exited, its code, its signal. -/
def WaitStatus.report : Option WaitStatus → Bool × ℤ × ℤ
  | none => (false, 0, 0)
  | some (.exited code) => (true, code, 0)
  | some (.signaled signal _) => (false, 0, signal)

/-- What the status of a process that the loop has not ended means. -/
def WaitStatus.meaning : Option WaitStatus → TerminationReason
  | none => .launchFailure
  | some (.exited code) => if code = 0 then .completed else .nonZeroExit
  | some (.signaled _ _) => .signaled

/-- What the result of a process, together with what was seen of it and done to it, amounts to. -/
structure Explained (spec : Supervision) (rounds : List Round) (readFailed : Bool)
    (closing : Closing) (final : Supervisor) (result : ProcessResult) : Prop where
  /-- The result gives one reason at most, since it has one termination. -/
  cancelled : result.termination = .cancelled ↔ result.cancelled = true
  timedOut : result.termination = .timedOut ↔ result.timedOut = true
  memoryExceeded : result.termination = .memoryExceeded ↔ result.memoryExceeded = true
  /-- A turn has found the token set, and killed the group. -/
  asked : result.cancelled = true → ∃ round ∈ rounds,
    (spec.cancellable && round.cancelled) = true ∧
      ∃ reaped, ⟨round.now, reaped⟩ ∈ final.history.kills
  /-- A turn has found the deadline passed, and killed the group of a process that still ran. -/
  onTime : result.timedOut = true → ∃ round ∈ rounds,
    spec.deadline.timePoint ≤ round.now ∧ ⟨round.now, false⟩ ∈ final.history.kills
  /-- A turn has found too much memory in use, and killed the group of a process that still ran. -/
  tooLarge : result.memoryExceeded = true → ∃ round ∈ rounds,
    0 < spec.memoryLimitKb ∧ spec.memoryLimitKb < spec.readRss round.rssKb ∧
      ⟨round.now, false⟩ ∈ final.history.kills
  /-- The exit or the signal is that of the answer of `waitpid` that has ended the process. -/
  status : (result.exited, result.exitCode, result.termSignal) =
    WaitStatus.report (Supervisor.endedWith (rounds.map (·.wait) ++ [closing.wait]))
  /-- Without a reason the termination is what that status means. -/
  byStatus : (result.cancelled, result.timedOut, result.memoryExceeded) = (false, false, false) →
    result.termination =
      WaitStatus.meaning (Supervisor.endedWith (rounds.map (·.wait) ++ [closing.wait]))
  overLimit : result.memoryExceeded = true ↔
    ∃ sample ∈ final.history.samples, sample.enforced = true ∧ spec.memoryLimitKb < sample.rssKb
  peak : result.memoryKb = (final.history.samples.map (·.rssKb)).foldl max 0
  /-- Without a reason the process has ended by itself. -/
  byItself : final.reasons = (false, false, false) → readFailed = false →
    ∀ kill ∈ final.history.kills, kill.reaped = true
  kills : final.history.kills.length ≤ 1 + readFailed.toNat

namespace Supervisor

variable {spec : Supervision} {rounds : List Round} {state : Supervisor}

theorem peak_nonneg (samples : List ℤ) (bound : ℤ) : bound ≤ samples.foldl max bound := by
  induction samples generalizing bound with
  | nil => exact le_rfl
  | cons sample rest ih => exact (le_max_left bound sample).trans (ih _)

theorem Account.kills_length_le (account : state.Account spec rounds) :
    state.history.kills.length ≤ 1 := by
  cases account with
  | spared _ kills | cancelled _ _ _ kills | timedOut _ _ _ kills | exceeded _ _ _ _ kills
  | abandoned _ _ kills => simp [kills]

theorem Account.of_no_reason (account : state.Account spec rounds)
    (none : state.reasons = (false, false, false)) :
    ∀ kill ∈ state.history.kills, kill.reaped = true := by
  cases account with
  | spared _ kills | abandoned _ _ kills => simp [kills]
  | cancelled _ _ _ _ reasons | timedOut _ _ _ _ reasons | exceeded _ _ _ _ _ reasons =>
      simp [reasons] at none

theorem Account.of_cancelled (account : state.Account spec rounds)
    (cancelled : state.cancelled = true) :
    ∃ round ∈ rounds, (spec.cancellable && round.cancelled) = true ∧
      ∃ reaped, ⟨round.now, reaped⟩ ∈ state.history.kills := by
  cases account with
  | @cancelled _ reaped seen asked _ kills => exact ⟨_, seen, asked, reaped, by simp [kills]⟩
  | spared _ _ reasons | timedOut _ _ _ _ reasons | exceeded _ _ _ _ _ reasons
  | abandoned _ _ _ reasons => simp [Supervisor.reasons, cancelled] at reasons

theorem Account.of_timedOut (account : state.Account spec rounds)
    (timedOut : state.timedOut = true) :
    ∃ round ∈ rounds, spec.deadline.timePoint ≤ round.now ∧
      ⟨round.now, false⟩ ∈ state.history.kills := by
  cases account with
  | timedOut seen late _ kills => exact ⟨_, seen, late, by simp [kills]⟩
  | spared _ _ reasons | cancelled _ _ _ _ reasons | exceeded _ _ _ _ _ reasons
  | abandoned _ _ _ reasons => simp [Supervisor.reasons, timedOut] at reasons

theorem Account.of_exceeded (account : state.Account spec rounds)
    (exceeded : state.memoryExceeded = true) :
    ∃ round ∈ rounds, 0 < spec.memoryLimitKb ∧ spec.memoryLimitKb < spec.readRss round.rssKb ∧
      ⟨round.now, false⟩ ∈ state.history.kills := by
  cases account with
  | exceeded seen limited above _ kills => exact ⟨_, seen, limited, above, by simp [kills]⟩
  | spared _ _ reasons | cancelled _ _ _ _ reasons | timedOut _ _ _ _ reasons
  | abandoned _ _ _ reasons => simp [Supervisor.reasons, exceeded] at reasons

theorem report_eq (state : Supervisor) :
    (state.exited, state.exitCode, state.termSignal) = WaitStatus.report state.status := by
  cases status : state.status with
  | none => simp [exited, exitCode, termSignal, status, WaitStatus.report]
  | some ended => cases ended <;> simp [exited, exitCode, termSignal, status, WaitStatus.report]

theorem status_of_exited (exited : state.exited = true) (exitCode : state.exitCode = 0) :
    state.status = some (.exited 0) := by
  cases status : state.status with
  | none => simp [Supervisor.exited, status] at exited
  | some ended =>
      cases ended with
      | exited code => simpa [Supervisor.exitCode, status] using exitCode
      | signaled => simp [Supervisor.exited, status] at exited

/-- The process was not ended by the loop: then the termination is about its status. -/
theorem termination_of_no_reason (none : state.reasons = (false, false, false)) :
    state.termination = WaitStatus.meaning state.status := by
  simp only [Supervisor.reasons, Prod.mk.injEq] at none
  have report := report_eq state
  cases status : state.status with
  | none =>
      simp only [status, WaitStatus.report, Prod.mk.injEq] at report
      simp [termination, none, report, WaitStatus.meaning]
  | some ended =>
      cases ended with
      | exited code =>
          simp only [status, WaitStatus.report, Prod.mk.injEq] at report
          by_cases success : code = 0 <;>
            simp [termination, none, report, success, WaitStatus.meaning]
      | signaled signal positive =>
          simp only [status, WaitStatus.report, Prod.mk.injEq] at report
          simp [termination, none, report, WaitStatus.meaning, positive.ne']

/-- A status is none of the three reasons. -/
theorem meaning_ne (status : Option WaitStatus) :
    WaitStatus.meaning status ≠ .cancelled ∧ WaitStatus.meaning status ≠ .timedOut ∧
      WaitStatus.meaning status ≠ .memoryExceeded := by
  cases status with
  | none => simp [WaitStatus.meaning]
  | some ended =>
      cases ended with
      | exited code => by_cases success : code = 0 <;> simp [WaitStatus.meaning, success]
      | signaled => simp [WaitStatus.meaning]

theorem termination_of_reason {cancelled timedOut memoryExceeded : Bool}
    (reasons : state.reasons = (cancelled, timedOut, memoryExceeded))
    (some : (cancelled || timedOut || memoryExceeded) = true) :
    state.termination =
      if cancelled then .cancelled else if timedOut then .timedOut else .memoryExceeded := by
  simp only [Supervisor.reasons, Prod.mk.injEq] at reasons
  simp only [termination, reasons]
  cases cancelled <;> cases timedOut <;> simp_all

theorem Sound.explained (sound : state.Sound spec rounds) (readFailed : Bool)
    (closing : Closing) (finishedAt : ℤ) :
    Explained spec rounds readFailed closing (state.close spec readFailed closing)
      ((state.close spec readFailed closing).result spec finishedAt) := by
  rcases close_cases spec state readFailed closing with ⟨reasons, kills, memory, -⟩
  have exact := memory sound.memory
  have status : (state.close spec readFailed closing).status = _ :=
    sound.waited.close readFailed closing
  generalize state.close spec readFailed closing = final at *
  have cases := sound.account.reasons_cases
  rw [← reasons] at cases
  have given : (final.termination = .cancelled ↔ final.cancelled = true) ∧
      (final.termination = .timedOut ↔ final.timedOut = true) ∧
      (final.termination = .memoryExceeded ↔ final.memoryExceeded = true) := by
    rcases cases with cases | cases | cases | cases
    · have ended := termination_of_no_reason cases
      have flags := cases
      simp only [Supervisor.reasons, Prod.mk.injEq] at flags
      simp [ended, flags, meaning_ne]
    all_goals
      have ended := termination_of_reason cases rfl
      have flags := cases
      simp only [Supervisor.reasons, Prod.mk.injEq] at flags
      simp [ended, flags]
  have killed : state.history.kills ⊆ final.history.kills := by
    rcases kills with kills | ⟨-, kills⟩
    · exact kills ▸ List.Subset.refl _
    · exact kills ▸ List.subset_append_left _ _
  rcases given with ⟨cancelled, timedOut, memoryExceeded⟩
  simp only [Supervisor.reasons, Prod.mk.injEq] at reasons
  refine
    { cancelled, timedOut, memoryExceeded, asked := ?_, onTime := ?_, tooLarge := ?_
      status := ?_, byStatus := ?_, overLimit := exact.exceeded, peak := ?_, byItself := ?_
      kills := ?_ }
  · intro isCancelled
    rcases sound.account.of_cancelled (reasons.1.symm.trans isCancelled) with
      ⟨round, seen, asked, reaped, mem⟩
    exact ⟨round, seen, asked, reaped, killed mem⟩
  · intro isLate
    rcases sound.account.of_timedOut (reasons.2.1.symm.trans isLate) with ⟨round, seen, late, mem⟩
    exact ⟨round, seen, late, killed mem⟩
  · intro isExceeded
    rcases sound.account.of_exceeded (reasons.2.2.symm.trans isExceeded) with
      ⟨round, seen, limited, above, mem⟩
    exact ⟨round, seen, limited, above, killed mem⟩
  · rw [← status]
    exact report_eq final
  · intro none
    rw [← status]
    exact termination_of_no_reason none
  · have nonneg : 0 ≤ final.peakMemoryKb := exact.peak ▸ peak_nonneg _ 0
    change max 0 final.peakMemoryKb = _
    rw [max_eq_right nonneg, exact.peak]
  · intro none notFailed
    rcases kills with kills | ⟨failed, -⟩
    · rw [kills]
      refine sound.account.of_no_reason ?_
      simp only [Supervisor.reasons, Prod.mk.injEq] at none ⊢
      exact ⟨reasons.1.symm.trans none.1, reasons.2.1.symm.trans none.2.1,
        reasons.2.2.symm.trans none.2.2⟩
    · simp [failed] at notFailed
  · have few := sound.account.kills_length_le
    rcases kills with kills | ⟨failed, kills⟩
    · rw [kills]
      omega
    · rw [kills, failed]
      simpa using few

end Supervisor

namespace Supervision

/-- Whatever happens to a process in the loop and behind it, its result is explained by what the
turns have found and done. -/
theorem result_explained (spec : Supervision) {initialRssKb : ℤ} {rounds : List Round}
    {state : Supervisor} {readFailed : Bool}
    (ran : spec.system.run (.running (.begin spec initialRssKb)) rounds =
      some (.left state readFailed)) (closing : Closing) :
    Explained spec rounds readFailed closing (state.close spec readFailed closing)
      ((state.close spec readFailed closing).result spec closing.finishedAt) :=
  (sound_of_run ran : state.Sound spec rounds).explained readFailed closing closing.finishedAt

/-- A process that still runs at its deadline, one millisecond after the launch. -/
def overdue : Supervision where
  start := 0
  input := [1, 2, 3]
  timeLimitMs := 1
  stdoutLimit := 2
  stderrLimit := 2
  memoryLimitKb := 0
  cancellable := false
  sampled := false

/-- The turn in which it is killed. -/
def killRound : Round where
  wait := .running
  reapedAt := 0
  now := 1000000
  cancelled := false
  rssKb := 0
  poll := .timeout

/-- It has been reaped, and what it has written is still read. -/
def drainRound : Round where
  wait := .reaped (.signaled 9 (by decide))
  reapedAt := 1500000
  now := 1600000
  cancelled := true
  rssKb := 0
  poll := .ready (some [.data [7, 8, 9] (by decide), .endOfFile]) (some [.endOfFile]) .quiet

/-- In the first turn, before the deadline, it takes two bytes of its input. -/
def overdueRounds : List Round :=
  [{ killRound with now := 500000, poll := .ready none none (.writable (.took 2)) }, killRound,
    drainRound, { drainRound with now := 1700000 }]

def overdueClosing : Closing where
  wait := .running
  killedAt := 0
  finishedAt := 1800000
  rssKb := 0

theorem result_explained_overdue :
    ∃ state,
      overdue.system.run (.running (.begin overdue 0)) overdueRounds = some (.left state false) ∧
      ((state.close overdue false overdueClosing).result overdue 1800000).termination =
        .timedOut ∧
      ((state.close overdue false overdueClosing).result overdue 1800000).termSignal = 9 ∧
      Explained overdue overdueRounds false overdueClosing
        (state.close overdue false overdueClosing)
        ((state.close overdue false overdueClosing).result overdue 1800000) := by
  have ran : overdue.system.run (.running (.begin overdue 0)) overdueRounds =
      some (.left _ false) := rfl
  exact ⟨_, ran, rfl, rfl, result_explained overdue ran overdueClosing⟩

/-- The process gets a beginning of its input, and of both outputs the result holds the beginning
that fits, with a flag that tells if there was more. -/
theorem result_streams (spec : Supervision) {initialRssKb : ℤ} {state : Supervisor}
    {readFailed : Bool}
    (reaches : spec.system.Reaches Unrestricted (.running (.begin spec initialRssKb))
      (.left state readFailed)) (closing : Closing) :
    let final := state.close spec readFailed closing
    let result := final.result spec closing.finishedAt
    final.history.sent <+: spec.input ∧
      result.stdoutData = final.history.outputRead.take spec.stdoutLimit ∧
      (result.stdoutTruncated = true ↔
        spec.stdoutLimit < final.history.outputRead.length) ∧
      result.stderrData = final.history.errorsRead.take spec.stderrLimit ∧
      (result.stderrTruncated = true ↔
        spec.stderrLimit < final.history.errorsRead.length) := by
  rcases exists_run_of_reaches reaches with ⟨rounds, ran⟩
  have sound : state.Sound spec rounds := sound_of_run ran
  rcases Supervisor.close_cases spec state readFailed closing with ⟨-, -, -, closed⟩
  have streams := closed sound.streams
  refine ⟨?_, streams.output.buffer, streams.output.truncated, streams.errors.buffer,
    streams.errors.truncated⟩
  rw [streams.sent]
  exact List.take_prefix _ _

theorem result_streams_overdue :
    ∃ state,
      overdue.system.Reaches Unrestricted (.running (.begin overdue 0)) (.left state false) ∧
      (state.close overdue false overdueClosing).history.sent = [1, 2] ∧
      ((state.close overdue false overdueClosing).result overdue 1800000).stdoutData = [7, 8] ∧
      ((state.close overdue false overdueClosing).result overdue 1800000).stdoutTruncated =
        true := by
  have ran : overdue.system.Reaches Unrestricted (.running (.begin overdue 0)) (.left _ false) :=
    reaches_of_run (admits_unrestricted overdueRounds _) rfl
  have streams := result_streams overdue ran overdueClosing
  exact ⟨_, ran, rfl, streams.2.1, streams.2.2.1.mpr (by decide)⟩

end Supervision

end OnlineJudge.Judge
