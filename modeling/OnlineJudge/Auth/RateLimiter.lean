import Mathlib.Algebra.Order.Group.Int
import OnlineJudge.Library.SlidingWindow
import OnlineJudge.Library.TransitionSystem
import OnlineJudge.Text

/-!
# The rate limiter of logins

`RateLimiter`: a deque of admission times for each key, cleaned lazily, with a sweep over
all keys every so many calls. Times are ticks of the steady clock, in nanoseconds. The
deques track the log of admissions since the last `clear`, so that the answers are those
of a plain count over a sliding window.

`max_failures` is an `int`; a deque never holds more times than that (or than one), so the
cast of its size to `int` is exact.
-/

namespace OnlineJudge

namespace Auth

open Library Library.SlidingWindow

/-- `std::chrono::seconds(1)` in ticks. -/
def second : ℤ := 1000000000

def sweepInterval : ℕ := 1024

namespace RateLimiter

structure Config where
  maxFailures : ℤ := 5
  windowSeconds : ℤ := 300
  deriving DecidableEq, Repr

inductive Status where
  | allowed
  | blocked
  deriving DecidableEq, Repr

structure Result where
  status : Status := .allowed
  retryAfterSeconds : ℤ := 0
  deriving DecidableEq, Repr

def Config.window (config : Config) : ℤ := config.windowSeconds * second

end RateLimiter

open RateLimiter

structure RateLimiter where
  failures : Bytes → Option (List ℤ) := fun _ => none
  sweepCounter : ℕ := 0

namespace RateLimiter

/-- The sweep on one entry: it is erased when nothing is left of it. -/
def sweepEntry (window now : ℤ) (times : List ℤ) : Option (List ℤ) :=
  match expire window now times with
  | [] => none
  | oldest :: rest => some (oldest :: rest)

/-- Counts the call, and sweeps over all entries when it is time to. -/
def sweep (config : Config) (limiter : RateLimiter) (now : ℤ) : RateLimiter :=
  if sweepInterval ≤ limiter.sweepCounter + 1 then
    { failures := fun key => (limiter.failures key).bind (sweepEntry config.window now)
      sweepCounter := 0 }
  else { limiter with sweepCounter := limiter.sweepCounter + 1 }

/-- `failures_[key].push_back(now)`. -/
def occupy (limiter : RateLimiter) (key : Bytes) (now : ℤ) : RateLimiter :=
  { limiter with
    failures := Function.update limiter.failures key
      (some ((limiter.failures key).getD [] ++ [now])) }

/-- The seconds that a blocked caller is told to wait, for the ticks that are left. -/
def retryAfter (remaining : ℤ) : ℤ :=
  let rounded := (remaining + second - 1).tdiv second
  if rounded < 1 then 1 else rounded

def allow (config : Config) (limiter : RateLimiter) (key : Bytes) (now : ℤ) :
    Result × RateLimiter :=
  let swept := limiter.sweep config now
  match swept.failures key with
  | none => ({ status := .allowed }, swept.occupy key now)
  | some times =>
      match expire config.window now times with
      | [] =>
          ({ status := .allowed },
            occupy { swept with failures := Function.update swept.failures key none } key now)
      | oldest :: rest =>
          let kept : RateLimiter :=
            { swept with failures := Function.update swept.failures key (some (oldest :: rest)) }
          if config.maxFailures ≤ (oldest :: rest).length then
            ({ status := .blocked
               retryAfterSeconds := retryAfter (config.window - (now - oldest)) }, kept)
          else ({ status := .allowed }, kept.occupy key now)

def clear (limiter : RateLimiter) (key : Bytes) : RateLimiter :=
  { limiter with failures := Function.update limiter.failures key none }

/-- The deque of a key, empty when the key is not in the map. -/
def deque (limiter : RateLimiter) (key : Bytes) : List ℤ := (limiter.failures key).getD []

/-- No key with an empty deque is in the map. -/
def Tidy (limiter : RateLimiter) : Prop := ∀ key, limiter.failures key ≠ some []

inductive Call where
  | allow (key : Bytes) (now : ℤ)
  | clear (key : Bytes)

inductive Entry where
  | allow (key : Bytes) (now : ℤ) (result : Result)
  | clear (key : Bytes)

/-- The limiter after some calls, the time of the latest, and the calls, oldest first. -/
structure Run where
  limiter : RateLimiter
  clock : ℤ
  history : List Entry

def Run.initial (start : ℤ) : Run := { limiter := {}, clock := start, history := [] }

/-- One call after the other, with a clock that does not go back. -/
def system (config : Config) : TransitionSystem Run Call where
  step run
    | .allow key now =>
        if run.clock ≤ now then
          some
            { limiter := (run.limiter.allow config key now).2
              clock := now
              history := run.history ++ [.allow key now (run.limiter.allow config key now).1] }
        else none
    | .clear key =>
        some
          { run with
            limiter := run.limiter.clear key
            history := run.history ++ [.clear key] }

/-- What an entry means for the admissions of a key. -/
def noteAdmission (key : Bytes) (times : List ℤ) : Entry → List ℤ
  | .allow other now result =>
      if other = key ∧ result.status = .allowed then times ++ [now] else times
  | .clear other => if other = key then [] else times

/-- The times at which `allow` admitted the key since its last `clear`. -/
def admissions (history : List Entry) (key : Bytes) : List ℤ := history.foldl (noteAdmission key) []

@[simp]
theorem admissions_append (history : List Entry) (entry : Entry) (key : Bytes) :
    admissions (history ++ [entry]) key = noteAdmission key (admissions history key) entry := by
  simp [admissions]

section Operations

variable {config : Config} {limiter : RateLimiter} {key other : Bytes} {now : ℤ}
  {log : List ℤ}

theorem sweepEntry_getD (window now : ℤ) (times : List ℤ) :
    (sweepEntry window now times).getD [] = expire window now times := by
  unfold sweepEntry
  split <;> simp_all

theorem sweep_tidy (tidy : limiter.Tidy) : (limiter.sweep config now).Tidy := by
  unfold sweep
  split
  · intro key isEmpty
    rcases Option.bind_eq_some_iff.mp isEmpty with ⟨times, -, swept⟩
    unfold sweepEntry at swept
    split at swept <;> simp at swept
  · exact tidy

/-- The sweep drops only what has expired. -/
theorem sweep_tracks (tracks : Tracks config.window now (limiter.deque key) log) :
    Tracks config.window now ((limiter.sweep config now).deque key) log := by
  unfold sweep
  split
  · simp only [deque] at tracks ⊢
    cases stored : limiter.failures key with
    | none => simpa [stored] using tracks
    | some times =>
        simp only [stored, Option.getD_some] at tracks
        rw [Option.bind_some, sweepEntry_getD]
        exact tracks.expire
  · exact tracks

/-- The deque of the key after the lazy expiry of `allow`. -/
def recent (config : Config) (limiter : RateLimiter) (key : Bytes) (now : ℤ) : List ℤ :=
  expire config.window now ((limiter.sweep config now).deque key)

theorem allow_other (differs : other ≠ key) :
    (limiter.allow config key now).2.failures other =
      (limiter.sweep config now).failures other := by
  unfold allow
  dsimp only
  split
  · simp [occupy, Function.update_of_ne differs]
  · split
    · simp [occupy, Function.update_of_ne differs]
    · split <;> simp [occupy, Function.update_of_ne differs]

/-- `allow` admits the key when its recent deque is empty or short enough, and then logs it. -/
theorem allow_own :
    ((limiter.allow config key now).1.status = .allowed ∧
        ((limiter.recent config key now) = [] ∨
          (limiter.recent config key now).length < config.maxFailures) ∧
        (limiter.allow config key now).2.failures key =
          some (limiter.recent config key now ++ [now])) ∨
      ∃ oldest rest, limiter.recent config key now = oldest :: rest ∧
        config.maxFailures ≤ (limiter.recent config key now).length ∧
        (limiter.allow config key now).1 =
          { status := .blocked
            retryAfterSeconds := retryAfter (config.window - (now - oldest)) } ∧
        (limiter.allow config key now).2.failures key = some (oldest :: rest) := by
  unfold allow recent deque
  dsimp only
  cases stored : (limiter.sweep config now).failures key with
  | none => exact Or.inl ⟨rfl, Or.inl rfl, by simp [occupy, stored, expire]⟩
  | some times =>
      simp only [Option.getD_some]
      cases left : expire config.window now times with
      | nil => exact Or.inl ⟨rfl, Or.inl rfl, by simp [occupy]⟩
      | cons oldest rest =>
          dsimp only
          split
          case isTrue full =>
            exact Or.inr ⟨oldest, rest, rfl, full, rfl, by simp⟩
          case isFalse room =>
            exact Or.inl ⟨rfl, Or.inr (not_le.mp room), by simp [occupy]⟩

end Operations

/-- What a limiter may keep for a key: as many times as it admits, and one at least. -/
def Config.capacity (config : Config) : ℤ := max 1 config.maxFailures

/-- The limiter answers for the log of its admissions. -/
structure Faithful (config : Config) (run : Run) : Prop where
  tidy : run.limiter.Tidy
  tracks : ∀ key, Tracks config.window run.clock (run.limiter.deque key)
    (admissions run.history key)
  bounded : ∀ key,
    (within config.window run.clock (admissions run.history key)).length ≤ config.capacity

theorem Faithful.initial (config : Config) (start : ℤ) :
    Faithful config (Run.initial start) where
  tidy := nofun
  tracks := fun _ => Tracks.nil
  bounded := fun _ => le_max_of_le_left (by simp [Run.initial, admissions, within])

section Faithful

variable {config : Config} {run next : Run} {key : Bytes} {now : ℤ}

theorem Faithful.swept (faithful : Faithful config run) (order : run.clock ≤ now) (key : Bytes) :
    Tracks config.window now ((run.limiter.sweep config now).deque key)
      (admissions run.history key) :=
  sweep_tracks ((faithful.tracks key).advance order)

/-- What `allow` counts is what the log has within the window. -/
theorem Faithful.recent_eq (faithful : Faithful config run) (order : run.clock ≤ now) :
    run.limiter.recent config key now =
      within config.window now (admissions run.history key) :=
  (faithful.swept order key).expire_eq

/-- `allow` admits exactly when the window has room. -/
theorem Faithful.allowed_iff (faithful : Faithful config run) (order : run.clock ≤ now) :
    (run.limiter.allow config key now).1.status = .allowed ↔
      (within config.window now (admissions run.history key)).length < config.capacity := by
  rw [← faithful.recent_eq order]
  rcases @allow_own config run.limiter key now with
    ⟨allowed, room, -⟩ | ⟨oldest, rest, front, full, isBlocked, -⟩
  · refine iff_of_true allowed ?_
    rcases room with empty | room
    · exact lt_max_of_lt_left (by simp [empty])
    · exact lt_max_of_lt_right room
  · refine iff_of_false (by simp [isBlocked]) (not_lt.mpr (max_le ?_ full))
    simp [front]

theorem noteAdmission_allow_other {other : Bytes} (differs : other ≠ key) (times : List ℤ)
    (result : Result) : noteAdmission other times (.allow key now result) = times :=
  if_neg fun same => differs same.1.symm

private theorem Faithful.allows (faithful : Faithful config run) (order : run.clock ≤ now) :
    Faithful config
      { limiter := (run.limiter.allow config key now).2
        clock := now
        history := run.history ++ [.allow key now (run.limiter.allow config key now).1] } := by
  have shrinks : ∀ other, ((within config.window now (admissions run.history other)).length : ℤ) ≤
      config.capacity := fun other =>
    (Int.ofNat_le.mpr (within_length_le order _)).trans (faithful.bounded other)
  have recentTracks : Tracks config.window now (run.limiter.recent config key now)
      (admissions run.history key) := (faithful.swept order key).expire
  refine ⟨fun other => ?_, fun other => ?_, fun other => ?_⟩
  · by_cases same : other = key
    · subst same
      rcases @allow_own config run.limiter other now with
        ⟨-, -, stored⟩ | ⟨oldest, rest, -, -, -, stored⟩
      · simp [stored]
      · simp [stored]
    · rw [allow_other same]
      exact sweep_tidy faithful.tidy other
  · by_cases same : other = key
    · subst same
      rw [admissions_append, deque]
      rcases @allow_own config run.limiter other now with
        ⟨allowed, -, stored⟩ | ⟨oldest, rest, front, -, isBlocked, stored⟩
      · rw [stored, Option.getD_some, noteAdmission, if_pos ⟨rfl, allowed⟩]
        exact recentTracks.push
      · rw [stored, Option.getD_some, ← front, noteAdmission, if_neg (by simp [isBlocked])]
        exact recentTracks
    · rw [admissions_append, noteAdmission_allow_other same, deque, allow_other same]
      exact faithful.swept order other
  · rw [admissions_append]
    by_cases admitted : key = other ∧ (run.limiter.allow config key now).1.status = .allowed
    · rcases admitted with ⟨rfl, allowed⟩
      rw [noteAdmission, if_pos ⟨rfl, allowed⟩, within_append]
      have room := (faithful.allowed_iff order).mp allowed
      have one : (within config.window now [now]).length ≤ 1 := List.length_filter_le _ _
      rw [List.length_append]
      dsimp only
      omega
    · rw [noteAdmission, if_neg admitted]
      exact shrinks other

private theorem Faithful.clears (faithful : Faithful config run) :
    Faithful config
      { run with
        limiter := run.limiter.clear key
        history := run.history ++ [.clear key] } := by
  refine ⟨fun other => ?_, fun other => ?_, fun other => ?_⟩
  · by_cases same : other = key
    · simp [clear, same]
    · simp only [clear, Function.update_of_ne same]
      exact faithful.tidy other
  · rw [admissions_append, noteAdmission]
    by_cases same : key = other
    · subst same
      rw [if_pos rfl]
      simp only [deque, clear, Function.update_self, Option.getD_none]
      exact Tracks.nil
    · rw [if_neg same]
      have differs : other ≠ key := fun isKey => same isKey.symm
      simp only [deque, clear, Function.update_of_ne differs]
      exact faithful.tracks other
  · rw [admissions_append, noteAdmission]
    split
    · exact le_max_of_le_left (by simp [within])
    · exact faithful.bounded other

theorem Faithful.step {call : Call} (faithful : Faithful config run)
    (step : (system config).step run call = some next) : Faithful config next := by
  cases call with
  | allow key now =>
      simp only [system, Option.ite_none_right_eq_some, Option.some.injEq] at step
      rcases step with ⟨order, rfl⟩
      exact faithful.allows order
  | clear key =>
      rcases Option.some.inj step with rfl
      exact faithful.clears

theorem Faithful.of_reaches {allowed : Run → Call → Prop}
    (reaches : (system config).Reaches allowed run next) (faithful : Faithful config run) :
    Faithful config next :=
  reaches.invariant faithful fun _ _ _ _ before _ step => before.step step

end Faithful

/-- After any calls, `allow` admits a key exactly when fewer than `max_failures` of its
admissions since its last `clear` lie within the window. -/
theorem allow_iff_window {config : Config} (positive : 1 ≤ config.maxFailures) {start : ℤ}
    {run : Run}
    (reaches : (system config).Reaches TransitionSystem.Unrestricted (Run.initial start) run) :
    run.limiter.Tidy ∧ ∀ key now, run.clock ≤ now →
      ((run.limiter.allow config key now).1.status = .allowed ↔
        (within config.window now (admissions run.history key)).length < config.maxFailures) := by
  have faithful := Faithful.of_reaches reaches (Faithful.initial config start)
  refine ⟨faithful.tidy, fun key now order => ?_⟩
  rw [faithful.allowed_iff order, Config.capacity, max_eq_right positive]

def twoPerMinute : Config := { maxFailures := 2, windowSeconds := 60 }

/-- Two failures at time zero, and a third attempt exactly one window later. -/
def boundaryCalls : List Call := [.allow [1] 0, .allow [1] 0]

theorem allow_iff_window_boundary :
    ∃ run : Run, (system twoPerMinute).run (Run.initial 0) boundaryCalls = some run ∧
      ¬(run.limiter.allow twoPerMinute [1] (60 * second)).1.status = .allowed := by
  have execution : ∃ run : Run,
      (system twoPerMinute).run (Run.initial 0) boundaryCalls = some run ∧ run.clock = 0 ∧
        admissions run.history [1] = [0, 0] := ⟨_, rfl, rfl, rfl⟩
  rcases execution with ⟨run, execution, clock, log⟩
  refine ⟨run, execution, ?_⟩
  have window := allow_iff_window (by decide : 1 ≤ twoPerMinute.maxFailures)
    (TransitionSystem.reaches_of_run (TransitionSystem.admits_unrestricted _ _) execution)
  rw [window.2 [1] (60 * second) (by rw [clock]; decide), log]
  decide

/-- The ticks until the oldest recent failure leaves the window, `0` without one. -/
def remaining (config : Config) (limiter : RateLimiter) (key : Bytes) (now : ℤ) : ℤ :=
  match limiter.recent config key now with
  | [] => 0
  | oldest :: _ => config.window - (now - oldest)

def Call.key : Call → Bytes
  | .allow key _ => key
  | .clear key => key

/-- A caller that was told to wait and waits, while nobody else uses its key, is admitted. -/
def RetrySuffices (config : Config) (after : Run) (key : Bytes) (now seconds : ℤ) : Prop :=
  1 ≤ seconds ∧
    ∀ later, (system config).Reaches (fun _ call => call.key ≠ key) after later →
      ∀ again, now + seconds * second ≤ again → later.clock ≤ again →
        (later.limiter.allow config key again).1.status = .allowed

section RetryAfter

variable {config : Config} {run after later : Run} {key : Bytes} {now seconds : ℤ}

/-- Calls on other keys leave the admissions of a key alone. -/
theorem admissions_of_reaches
    (reaches : (system config).Reaches (fun _ call => call.key ≠ key) run later) :
    admissions later.history key = admissions run.history key := by
  induction reaches with
  | refl => rfl
  | tail _ edge same =>
      rcases edge with ⟨call, differs, step⟩
      rw [← same]
      cases call with
      | allow other now =>
          simp only [system, Option.ite_none_right_eq_some, Option.some.injEq] at step
          rcases step with ⟨-, rfl⟩
          have elsewhere : key ≠ other := fun isKey => differs isKey.symm
          rw [admissions_append, noteAdmission_allow_other elsewhere]
      | clear other =>
          rcases Option.some.inj step with rfl
          have elsewhere : other ≠ key := differs
          rw [admissions_append, noteAdmission, if_neg elsewhere]

/-- The seconds to wait cover what is left, and cover more than that unless a whole number of
seconds is left. -/
theorem retryAfter_covers {left : ℤ} (nonneg : 0 ≤ left) :
    1 ≤ retryAfter left ∧ left ≤ retryAfter left * second ∧
      (left < retryAfter left * second ↔ ¬(0 < left ∧ second ∣ left)) := by
  have rounds : (left + second - 1).tdiv second = (left + second - 1) / second :=
    Int.tdiv_eq_ediv_of_nonneg (by unfold second; omega)
  unfold retryAfter
  rw [rounds]
  unfold second
  dsimp only
  split <;> omega

/-- A blocked call: what the log has, and what is left to wait. -/
theorem Faithful.blocked (faithful : Faithful config run) (order : run.clock ≤ now)
    (blocked : (run.limiter.allow config key now).1 =
      { status := .blocked, retryAfterSeconds := seconds }) :
    ∃ oldest rest, within config.window now (admissions run.history key) = oldest :: rest ∧
      config.capacity ≤ (oldest :: rest).length ∧ (oldest :: rest).Pairwise (· ≤ ·) ∧
        remaining config run.limiter key now = config.window - (now - oldest) ∧
          0 ≤ config.window - (now - oldest) ∧
            seconds = retryAfter (config.window - (now - oldest)) := by
  have recent : run.limiter.recent config key now =
      within config.window now (admissions run.history key) := faithful.recent_eq order
  rcases @allow_own config run.limiter key now with
    ⟨allowed, -, -⟩ | ⟨oldest, rest, front, full, isBlocked, -⟩
  · rw [blocked] at allowed
    cases allowed
  · have window : within config.window now (admissions run.history key) = oldest :: rest := by
      rw [← recent, front]
    have inside : oldest ∈ within config.window now (admissions run.history key) := by
      simp [window]
    have sorted := ((faithful.swept order key).expire).sorted
    rw [blocked] at isBlocked
    refine ⟨oldest, rest, window, max_le (by simp) (front ▸ full), ?_, ?_, ?_, ?_⟩
    · rw [← front]
      exact sorted
    · simp [remaining, front]
    · have recent : now - oldest ≤ config.window := of_decide_eq_true (List.mem_filter.mp inside).2
      omega
    · exact (Result.mk.inj isBlocked).2

/-- Waiting suffices exactly unless a whole number of seconds was left: then the caller comes back
one tick too early. -/
theorem retry_after_sufficient_iff {start : ℤ}
    (reaches : (system config).Reaches TransitionSystem.Unrestricted (Run.initial start) run)
    (step : (system config).step run (.allow key now) = some after)
    (blocked : (run.limiter.allow config key now).1 =
      { status := .blocked, retryAfterSeconds := seconds }) :
    RetrySuffices config after key now seconds ↔
      ¬(0 < remaining config run.limiter key now ∧
        second ∣ remaining config run.limiter key now) := by
  have faithful := Faithful.of_reaches reaches (Faithful.initial config start)
  have afterFaithful := faithful.step step
  simp only [system, Option.ite_none_right_eq_some, Option.some.injEq] at step
  rcases step with ⟨order, rfl⟩
  rcases faithful.blocked order blocked with
    ⟨oldest, rest, window, full, sorted, isRemaining, nonneg, isSeconds⟩
  rcases retryAfter_covers nonneg with ⟨positive, covers, exceeds⟩
  rw [isRemaining, ← exceeds, isSeconds]
  have log : admissions (run.history ++
      [.allow key now (run.limiter.allow config key now).1]) key = admissions run.history key := by
    rw [admissions_append, noteAdmission, if_neg (by simp [blocked])]
  constructor
  · rintro ⟨-, sufficient⟩
    by_contra notLonger
    -- One window after the oldest admission it still counts.
    have boundary : now + retryAfter (config.window - (now - oldest)) * second =
        oldest + config.window := by omega
    have admitted := sufficient _ Relation.ReflTransGen.refl
      (now + retryAfter (config.window - (now - oldest)) * second) le_rfl
      (by dsimp only; omega)
    have same : within config.window (oldest + config.window) (oldest :: rest) =
        oldest :: rest := by
      refine List.filter_eq_self.mpr fun time mem => decide_eq_true ?_
      rcases List.mem_cons.mp mem with rfl | mem
      · omega
      · have later := (List.pairwise_cons.mp sorted).1 time mem
        omega
    rw [afterFaithful.allowed_iff (by dsimp only; omega), log, boundary,
      ← within_within (by omega : now ≤ oldest + config.window), window, same] at admitted
    omega
  · intro long
    refine ⟨positive, fun later reachesLater again waits after => ?_⟩
    have laterFaithful := Faithful.of_reaches reachesLater afterFaithful
    rw [laterFaithful.allowed_iff after, admissions_of_reaches reachesLater, log]
    have shorter : (within config.window again (admissions run.history key)).length <
        (within config.window now (admissions run.history key)).length :=
      within_length_lt (by omega) window (by omega)
    have bounded := faithful.bounded key
    have shrinks : (within config.window now (admissions run.history key)).length ≤
        (within config.window run.clock (admissions run.history key)).length :=
      within_length_le order _
    omega

end RetryAfter

def oncePerMinute : Config := { maxFailures := 1, windowSeconds := 60 }

/-- Half a second after its only failure, a caller is told to wait for sixty seconds. -/
theorem retry_after_sufficient_iff_half : ∃ after : Run,
    (system oncePerMinute).run (Run.initial 0) [.allow [1] 0, .allow [1] 500000000] =
      some after ∧ RetrySuffices oncePerMinute after [1] 500000000 60 := by
  have execution : ∃ run after : Run,
      (system oncePerMinute).run (Run.initial 0) [.allow [1] 0] = some run ∧
        (system oncePerMinute).step run (.allow [1] 500000000) = some after ∧
          (run.limiter.allow oncePerMinute [1] 500000000).1 =
            { status := .blocked, retryAfterSeconds := 60 } ∧
            remaining oncePerMinute run.limiter [1] 500000000 = 59500000000 :=
    ⟨_, _, rfl, rfl, rfl, rfl⟩
  rcases execution with ⟨run, after, execution, step, blocked, left⟩
  have suffices' := retry_after_sufficient_iff
    (TransitionSystem.reaches_of_run (TransitionSystem.admits_unrestricted _ _) execution) step
    blocked
  rw [left] at suffices'
  refine ⟨after, ?_, suffices'.mpr (by decide)⟩
  simp only [TransitionSystem.run, Option.bind_eq_some_iff] at execution ⊢
  rcases execution with ⟨next, first, ⟨⟩⟩
  exact ⟨run, first, after, step, rfl⟩

/-- A caller that is blocked at the time of its failure itself, and waits for sixty seconds, is
blocked again. -/
theorem retry_after_insufficient :
    ¬∀ (config : Config) (start : ℤ) (run after : Run) (key : Bytes) (now seconds : ℤ),
      (system config).Reaches TransitionSystem.Unrestricted (Run.initial start) run →
        (system config).step run (.allow key now) = some after →
          (run.limiter.allow config key now).1 =
            { status := .blocked, retryAfterSeconds := seconds } →
            RetrySuffices config after key now seconds := by
  intro claim
  have execution : ∃ run after : Run,
      (system oncePerMinute).run (Run.initial 0) [.allow [1] 0] = some run ∧
        (system oncePerMinute).step run (.allow [1] 0) = some after ∧ after.clock = 0 ∧
          (run.limiter.allow oncePerMinute [1] 0).1 =
            { status := .blocked, retryAfterSeconds := 60 } ∧
            (after.limiter.allow oncePerMinute [1] (60 * second)).1.status = .blocked :=
    ⟨_, _, rfl, rfl, rfl, rfl, rfl⟩
  rcases execution with ⟨run, after, execution, step, clock, blocked, again⟩
  have admitted := (claim oncePerMinute 0 run after [1] 0 60
    (TransitionSystem.reaches_of_run (TransitionSystem.admits_unrestricted _ _) execution) step
    blocked).2 after Relation.ReflTransGen.refl (60 * second) (by decide)
    (by rw [clock]; decide)
  rw [again] at admitted
  cases admitted

end RateLimiter

end Auth

end OnlineJudge
