import OnlineJudge.Judge.Supervisor.Outcome

/-!
# How long a process is supervised

The loop depends on the kernel for its pace: `poll` has to return in time, and a process
that was killed has to be reaped. On a host that is prompt in both, the loop looks at the
clock for the last time at most a fixed span after the deadline: the wait of `poll` never
goes beyond the deadline, the first look after it kills the process, and a process that
was reaped is left after the grace period, whoever holds its streams.
-/

namespace OnlineJudge.Judge

open Library TransitionSystem

/-- How late the host is at most, in nanoseconds. -/
structure Host where
  /-- From the end of the wait of `poll` to the next look at the clock. -/
  slack : ℤ
  /-- From a signal to the group until `waitpid` reaps the process. -/
  reaping : ℤ
  slack_nonneg : 0 ≤ slack
  reaping_nonneg : 0 ≤ reaping

/-- The answer of `waitpid` by which the process counts as reaped. -/
def WaitAnswer.Ended : WaitAnswer → Prop
  | .reaped _ => True
  | .noChild => True
  | .running => False
  | .failed => False

instance (answer : WaitAnswer) : Decidable answer.Ended :=
  match answer with
  | .reaped _ | .noChild => isTrue trivial
  | .running | .failed => isFalse id

/-- A turn of the loop on a prompt host. -/
structure Host.Prompt (host : Host) (spec : Supervision) (state : Supervisor) (round : Round) :
    Prop where
  onTime : round.now ≤ state.history.lastLook +
    state.pollTimeoutMs spec state.history.lastLook * nanosPerMs + host.slack
  reapedBefore : round.reapedAt ≤ round.now
  reaps : ∀ kill ∈ state.history.kills, kill.time + host.reaping < round.now → round.wait.Ended

instance (host : Host) (spec : Supervision) (state : Supervisor) (round : Round) :
    Decidable (host.Prompt spec state round) :=
  decidable_of_iff
    (round.now ≤ state.history.lastLook +
        state.pollTimeoutMs spec state.history.lastLook * nanosPerMs + host.slack ∧
      round.reapedAt ≤ round.now ∧
      (state.history.kills.all fun kill =>
        kill.time + host.reaping < round.now → round.wait.Ended) = true)
    ⟨fun holds => ⟨holds.1, holds.2.1, by
        simpa only [List.all_eq_true, decide_eq_true_eq] using holds.2.2⟩,
      fun prompt => ⟨prompt.onTime, prompt.reapedBefore, by
        simpa only [List.all_eq_true, decide_eq_true_eq] using prompt.reaps⟩⟩

/-- The loop of a process on a prompt host. -/
def Host.Allows (host : Host) (spec : Supervision) : Loop → Round → Prop
  | .running state, round => host.Prompt spec state round
  | .left _ _, _ => False

instance (host : Host) (spec : Supervision) (loop : Loop) (round : Round) :
    Decidable (host.Allows spec loop round) :=
  match loop with
  | .running state => inferInstanceAs (Decidable (host.Prompt spec state round))
  | .left _ _ => isFalse id

namespace Supervisor

variable {host : Host} {spec : Supervision} {state : Supervisor} {round : Round}

/-- When a process has been reaped at the latest. -/
def reapedBy (host : Host) (spec : Supervision) : ℤ :=
  spec.deadline.timePoint + host.reaping + 2 * host.slack + pollCapMs * nanosPerMs

/-- Where the clock can be between two turns. -/
structure InTime (host : Host) (spec : Supervision) (state : Supervisor) : Prop where
  watched : state.killed = false → state.childReaped = false →
    state.history.lastLook < spec.deadline.timePoint
  dying : state.killed = true → state.childReaped = false →
    ∃ kill ∈ state.history.kills, kill.time ≤ spec.deadline.timePoint + host.slack ∧
      state.history.lastLook ≤ kill.time + host.reaping
  reaped : state.childReaped = true →
    state.childReapedAt ≤ reapedBy host spec ∧
      state.history.lastLook ≤ state.childReapedAt + graceMs * nanosPerMs

/-- The wait of `poll` ends with the deadline, unless the process is being killed. -/
theorem add_pollTimeoutMs_le {now : ℤ} (spared : state.killed = false)
    (early : now ≤ spec.deadline.timePoint) :
    now + state.pollTimeoutMs spec now * nanosPerMs ≤ spec.deadline.timePoint := by
  have rest : 0 ≤ spec.deadline.timePoint - now := by omega
  simp only [pollTimeoutMs, spared, Bool.false_eq_true, if_false,
    Int.tdiv_eq_ediv_of_nonneg rest, nanosPerMs]
  omega

theorem pollTimeoutMs_le (spec : Supervision) (now : ℤ) (state : Supervisor) :
    state.pollTimeoutMs spec now ≤ pollCapMs := by
  rw [pollTimeoutMs]
  split
  · exact le_rfl
  · exact min_le_right _ _

theorem reap_alive (alive : (state.reap round).childReaped = false) :
    state.reap round = state ∧ ¬round.wait.Ended := by
  rw [reap] at alive ⊢
  split at alive
  · rename_i reaped
    simp [reaped] at alive
  · cases wait : round.wait with
    | reaped | noChild => simp [wait] at alive
    | running | failed => simp [*, WaitAnswer.Ended]

theorem reap_kept (round : Round) (state : Supervisor) :
    (state.reap round).killed = state.killed ∧
      (state.reap round).history = state.history ∧
      (state.childReaped = true → state.reap round = state) ∧
      (state.childReaped = false → (state.reap round).childReaped = true →
        (state.reap round).childReapedAt = round.reapedAt) := by
  have cases := reap_cases round state
  have again (reaped : state.childReaped = true) : state.reap round = state := by
    simp [reap, reaped]
  generalize state.reap round = looked at *
  cases cases with
  | unchanged => exact ⟨rfl, rfl, again, fun alive reaped => by simp [alive] at reaped⟩
  | reaped => exact ⟨rfl, rfl, again, fun _ _ => rfl⟩

/-- What the checks leave alone, and how they find the process. -/
theorem check_kept (spec : Supervision) (round : Round) (state : Supervisor) :
    (state.check spec round).childReaped = state.childReaped ∧
      (state.check spec round).childReapedAt = state.childReapedAt ∧
      (state.check spec round).output = state.output ∧
      (state.check spec round).errors = state.errors ∧
      (state.check spec round).history.lastLook = round.now ∧
      ((state.check spec round).killed = false →
        state.childReaped = true ∨ round.now < spec.deadline.timePoint) ∧
      ((state.check spec round).killed = true →
        state.killed = true ∧ (state.check spec round).history.kills = state.history.kills ∨
          state.killed = false ∧
            ⟨round.now, state.childReaped⟩ ∈ (state.check spec round).history.kills) := by
  have cases := check_cases spec round state
  generalize state.check spec round = checked at cases
  cases cases with
  | unchanged settled =>
      refine ⟨rfl, rfl, rfl, rfl, rfl, fun spared => ?_, fun killed => .inl ⟨killed, rfl⟩⟩
      rcases settled with killed | settled
      · exact absurd (killed.symm.trans spared) (by simp)
      · exact settled
  | sampled spared _ early =>
      refine ⟨rfl, rfl, rfl, rfl, rfl, fun _ => .inr early, fun killed => ?_⟩
      exact absurd (killed.symm.trans spared) (by simp)
  | cancelled spared | timedOut spared | exceeded spared =>
      refine ⟨rfl, rfl, rfl, rfl, rfl, fun notKilled => ?_, fun _ => .inr ⟨spared, ?_⟩⟩
      · exact absurd notKilled (by simp [kill])
      · exact List.mem_append_right _ List.mem_cons_self

theorem InTime.congr {other : Supervisor} (inTime : state.InTime host spec)
    (killed : other.killed = state.killed) (childReaped : other.childReaped = state.childReaped)
    (reapedAt : other.childReapedAt = state.childReapedAt)
    (kills : other.history.kills = state.history.kills)
    (lastLook : other.history.lastLook = state.history.lastLook) :
    other.InTime host spec := by
  constructor
  · rw [killed, childReaped, lastLook]
    exact inTime.watched
  · rw [killed, childReaped, lastLook, kills]
    exact inTime.dying
  · rw [childReaped, reapedAt, lastLook]
    exact inTime.reaped

/-- The next look at the clock, for a process that was not reaped before. -/
theorem InTime.now_le_reapedBy (inTime : state.InTime host spec)
    (prompt : host.Prompt spec state round) (alive : state.childReaped = false) :
    round.now ≤ reapedBy host spec ∧
      (state.killed = false → round.now ≤ spec.deadline.timePoint + host.slack) := by
  have onTime := prompt.onTime
  have slack := host.slack_nonneg
  have reaping := host.reaping_nonneg
  have capped := state.pollTimeoutMs_le spec state.history.lastLook
  cases killed : state.killed with
  | false =>
      have wait := add_pollTimeoutMs_le killed (inTime.watched killed alive).le
      simp only [reapedBy, nanosPerMs, pollCapMs] at *
      omega
  | true =>
      rcases inTime.dying killed alive with ⟨kill, -, time_le, look_le⟩
      refine ⟨?_, by simp⟩
      simp only [reapedBy, nanosPerMs, pollCapMs] at *
      omega

/-- A turn that does not end the loop. -/
theorem InTime.check (inTime : state.InTime host spec) (prompt : host.Prompt spec state round)
    (isOpen : (state.reap round).childReaped = true →
      ((state.reap round).output.isOpen || (state.reap round).errors.isOpen) = true)
    (within : ((state.reap round).check spec round).graceOver round = false) :
    ((state.reap round).check spec round).InTime host spec := by
  rcases reap_kept round state with ⟨killed_eq, history_eq, again, fresh⟩
  rcases check_kept spec round (state.reap round) with
    ⟨reaped_eq, reapedAt_eq, output_eq, errors_eq, look_eq, spared, killed⟩
  constructor
  · intro notKilled alive
    rw [reaped_eq] at alive
    rw [look_eq]
    rcases spared notKilled with reaped | early
    · simp [reaped] at alive
    · exact early
  · intro isKilled alive
    rw [reaped_eq] at alive
    rcases reap_alive alive with ⟨same, notEnded⟩
    rw [same] at alive killed ⊢
    rw [same] at look_eq
    rcases killed (same ▸ isKilled) with ⟨before, kills_eq⟩ | ⟨before, mem⟩
    · rcases inTime.dying before alive with ⟨kill, mem, time_le, -⟩
      refine ⟨kill, kills_eq ▸ mem, time_le, ?_⟩
      rw [look_eq]
      by_contra late
      exact notEnded (prompt.reaps kill mem (by omega))
    · refine ⟨_, mem, (inTime.now_le_reapedBy prompt alive).2 before, ?_⟩
      have reaping := host.reaping_nonneg
      rw [look_eq]
      simpa using reaping
  · intro reaped
    rw [reaped_eq] at reaped
    rw [reapedAt_eq, look_eq]
    constructor
    · cases before : state.childReaped with
      | true =>
          rw [again before]
          exact (inTime.reaped before).1
      | false =>
          rw [fresh before reaped]
          exact prompt.reapedBefore.trans (inTime.now_le_reapedBy prompt before).1
    · simp only [graceOver, reaped_eq, reaped, output_eq, errors_eq, isOpen reaped, reapedAt_eq,
        Bool.true_and, Bool.and_self, decide_eq_false_iff_not] at within
      omega

/-- The last look at the clock. -/
def lastLookBy (host : Host) (spec : Supervision) : ℤ :=
  reapedBy host spec + (graceMs + pollCapMs) * nanosPerMs + host.slack

theorem InTime.now_le (inTime : state.InTime host spec) (prompt : host.Prompt spec state round) :
    round.now ≤ lastLookBy host spec := by
  have slack := host.slack_nonneg
  cases reaped : state.childReaped with
  | false =>
      have now_le := (inTime.now_le_reapedBy prompt reaped).1
      simp only [lastLookBy, nanosPerMs, pollCapMs, graceMs] at *
      omega
  | true =>
      have onTime := prompt.onTime
      have capped := state.pollTimeoutMs_le spec state.history.lastLook
      rcases inTime.reaped reaped with ⟨reapedAt_le, look_le⟩
      simp only [lastLookBy, nanosPerMs, pollCapMs, graceMs] at *
      omega

end Supervisor

namespace Supervision

open Supervisor

variable {host : Host} {spec : Supervision} {state : Supervisor} {round : Round}

theorem turn_inTime (inTime : state.InTime host spec) (prompt : host.Prompt spec state round)
    (before : state.history.lastLook ≤ lastLookBy host spec) :
    (spec.turn state round).state.history.lastLook ≤ lastLookBy host spec ∧
      ∀ next, spec.turn state round = .running next → next.InTime host spec := by
  rcases reap_kept round state with ⟨-, history_eq, -, -⟩
  rcases check_kept spec round (state.reap round) with ⟨-, -, -, -, look_eq, -, -⟩
  have now_le : ((state.reap round).check spec round).history.lastLook ≤ lastLookBy host spec := by
    rw [look_eq]
    exact inTime.now_le prompt
  rcases turn_cases spec state round with ⟨-, -, -, finished⟩ | ⟨isOpen, turned⟩
  · rw [finished]
    refine ⟨?_, by simp⟩
    simpa [Loop.state, history_eq] using before
  · generalize spec.turn state round = next at turned
    cases turned with
    | abandoned =>
        refine ⟨?_, by simp⟩
        simp only [Loop.state, Supervisor.abandon]
        split <;> exact now_le
    | pollFailed => exact ⟨now_le, by simp⟩
    | idle within =>
        refine ⟨now_le, fun next isNext => ?_⟩
        cases isNext
        exact inTime.check prompt isOpen within
    | served output errors input within =>
        rcases serve_eq spec ((state.reap round).check spec round) output errors input with
          ⟨_, _, _, _, _, _, _, served⟩
        rw [served]
        refine ⟨now_le, fun next isNext => ?_⟩
        cases isNext
        exact (inTime.check prompt isOpen within).congr rfl rfl rfl rfl rfl

theorem begin_inTime (host : Host) (positive : 0 < spec.timeLimitMs) (initialRssKb : ℤ) :
    (Supervisor.begin spec initialRssKb).InTime host spec ∧
      (Supervisor.begin spec initialRssKb).history.lastLook = spec.start ∧
      spec.start ≤ lastLookBy host spec := by
  have slack := host.slack_nonneg
  have reaping := host.reaping_nonneg
  have early : spec.start < spec.deadline.timePoint := by
    simp only [deadline, Deadline.afterMs, nanosPerMs]
    omega
  have fresh (begun : Supervisor) (killed : begun.killed = false)
      (alive : begun.childReaped = false) (look : begun.history.lastLook = spec.start) :
      begun.InTime host spec := by
    refine ⟨fun _ _ => look ▸ early, ?_, ?_⟩ <;> simp [killed, alive]
  refine ⟨?_, ?_, ?_⟩
  · simp only [Supervisor.begin]
    split <;> exact fresh _ rfl rfl rfl
  · simp only [Supervisor.begin]
    split <;> rfl
  · simp only [lastLookBy, reapedBy, nanosPerMs, pollCapMs, graceMs]
    omega

/-- On a prompt host the loop looks at the clock for the last time at most 240 ms and the
lateness of the host after the deadline, whatever the process does and whoever holds its
streams. -/
theorem supervised_in_time (host : Host) (spec : Supervision) (positive : 0 < spec.timeLimitMs)
    (initialRssKb : ℤ) {loop : Loop}
    (reaches : spec.system.Reaches (host.Allows spec)
      (.running (.begin spec initialRssKb)) loop) :
    loop.state.history.lastLook ≤
      spec.start + (spec.timeLimitMs + 240) * nanosPerMs + host.reaping + 3 * host.slack := by
  have bound : lastLookBy host spec =
      spec.start + (spec.timeLimitMs + 240) * nanosPerMs + host.reaping + 3 * host.slack := by
    simp only [lastLookBy, reapedBy, deadline, Deadline.afterMs, nanosPerMs, pollCapMs, graceMs]
    omega
  rw [← bound]
  rcases begin_inTime host positive initialRssKb with ⟨begins, start_eq, start_le⟩
  suffices holds : loop.state.history.lastLook ≤ lastLookBy host spec ∧
      ∀ state, loop = .running state → state.InTime host spec from holds.1
  apply invariant_of_reaches (fun loop => loop.state.history.lastLook ≤ lastLookBy host spec ∧
    ∀ state, loop = .running state → state.InTime host spec) reaches
  · refine ⟨start_eq.le.trans start_le, fun state isBegun => ?_⟩
    cases isBegun
    exact begins
  · intro state round holds prompt
    exact turn_inTime (holds.2 state rfl) prompt holds.1

/-- A host that looks at the clock sixty milliseconds late and takes five milliseconds to reap a
process. -/
def slowHost : Host := ⟨60000000, 5000000, by decide, by decide⟩

/-- The process is killed at its deadline and still there in the next turn; after it has been
reaped somebody holds its streams open. -/
def lingeringRounds : List Round :=
  [killRound, { killRound with now := 5000000 }] ++
    [25000000, 105000000, 185000000, 265000000].map fun now =>
      { killRound with wait := drainRound.wait, reapedAt := 24000000, now := now }

/-- The loop gives the streams up when the process has been reaped for more than 200 ms. -/
theorem supervised_in_time_lingering :
    ∃ state, overdue.system.run (.running (.begin overdue 0)) lingeringRounds =
        some (.left state false) ∧
      state.history.kills = [⟨1000000, false⟩] ∧ state.childReapedAt = 24000000 ∧
        state.history.lastLook = 265000000 ∧
          state.history.lastLook ≤ 0 + (1 + 240) * nanosPerMs + 5000000 + 3 * 60000000 := by
  have ran : ∃ state, overdue.system.run (.running (.begin overdue 0)) lingeringRounds =
        some (.left state false) ∧
      state.history.kills = [⟨1000000, false⟩] ∧ state.childReapedAt = 24000000 ∧
        state.history.lastLook = 265000000 := ⟨_, rfl, rfl, rfl, rfl⟩
  rcases ran with ⟨state, ran, kills, reaped, looked⟩
  have admits : overdue.system.Admits (slowHost.Allows overdue) (.running (.begin overdue 0))
      lingeringRounds := by decide
  exact ⟨state, ran, kills, reaped, looked,
    supervised_in_time slowHost overdue (by decide) 0 (reaches_of_run admits ran)⟩

end Supervision

end OnlineJudge.Judge
