import OnlineJudge.Library.TransitionSystem

/-!
# The compile gate

`judge/compile_gate.cpp` bounds how many judge calls compile at the same time. A call asks
for a permit through a guard on its stack, gives the permit back when it has compiled, and
the destructor of the guard gives back what is still held when the call ends early. Many
threads make such calls, one after the other; what one of them does under the mutex of the
gate is one step.
-/

namespace OnlineJudge.Judge

open Library

structure CompileGate where
  maxConcurrent : ℤ
  active : ℤ
  deriving DecidableEq, Repr

namespace CompileGate

def create (maxConcurrent : ℤ) : CompileGate where
  maxConcurrent := if maxConcurrent < 1 then 1 else maxConcurrent
  active := 0

/-- One look of `CompileGate::acquire` at the gate. The answer is missing if the call has to wait
for a notification or for 20 ms, after which it looks again. -/
def look (gate : CompileGate) (cancelled expired : Bool) : CompileGate × Option Bool :=
  if gate.maxConcurrent ≤ gate.active then
    if cancelled then (gate, some false)
    else if expired then (gate, some false)
    else (gate, none)
  else ({ gate with active := gate.active + 1 }, some true)

def release (gate : CompileGate) : CompileGate :=
  if 0 < gate.active then { gate with active := gate.active - 1 } else gate

/-- A look at the gate takes a permit that is there, or changes nothing. -/
theorem look_cases (gate : CompileGate) (cancelled expired : Bool) :
    gate.active < gate.maxConcurrent ∧
        gate.look cancelled expired = ({ gate with active := gate.active + 1 }, some true) ∨
      gate.look cancelled expired = (gate, some false) ∨
      gate.look cancelled expired = (gate, none) := by
  unfold look
  split_ifs with full
  · exact .inr (.inl rfl)
  · exact .inr (.inl rfl)
  · exact .inr (.inr rfl)
  · exact .inl ⟨by omega, rfl⟩

end CompileGate

/-- A `CompileGateGuard`. Without a gate (`gate_ == nullptr`) it counts as acquired. -/
structure CompileGateGuard where
  gated : Bool
  acquired : Bool
  /-- History: what the gate answered. -/
  granted : Bool
  /-- History: how often the guard called `release`. -/
  releases : ℕ
  deriving DecidableEq, Repr

/-- Where `JudgeEngine::judge` is while its guard is alive. -/
inductive GuardedPoint where
  /-- Before the test of `acquired()`. -/
  | entered
  | compiling
  /-- At the test in `release_now`. -/
  | releaseNow
  /-- In the call of `release` that `release_now` makes. -/
  | releasing
  /-- Before `release_now` clears `acquired_`. -/
  | released
  | running
  /-- At the test in the destructor. -/
  | leaving
  /-- In the call of `release` that the destructor makes. -/
  | destroying
  deriving DecidableEq, Repr

/-- What a thread does with the gate. -/
inductive GateCall where
  | outside
  /-- In `acquire`, before a look at the gate. -/
  | acquiring
  /-- Back in the constructor of the guard. -/
  | answered (granted : Bool)
  | guarded (guard : CompileGateGuard) (point : GuardedPoint)
  deriving DecidableEq, Repr

inductive GateEvent where
  /-- The guard is constructed, for a judge with or without a gate. -/
  | enter (gated : Bool)
  /-- A look at the gate; what the cancellation token and the deadline say at that time. -/
  | look (cancelled expired : Bool)
  /-- The code goes on. -/
  | proceed
  /-- The scope is left, by a return or an exception. -/
  | leave
  deriving DecidableEq, Repr

/-- What a step of a call does: the gate, the call, and the guard it has destroyed, if any. -/
abbrev GateStep := CompileGate × GateCall × Option CompileGateGuard

/-- The next step of the code while the guard is alive. -/
def CompileGateGuard.proceed (gate : CompileGate) (guard : CompileGateGuard) :
    GuardedPoint → Option GateStep
  -- Without a permit the judge returns before it compiles.
  | .entered =>
      some (gate, .guarded guard (if guard.acquired then .compiling else .leaving), none)
  | .compiling => some (gate, .guarded guard .releaseNow, none)
  | .releaseNow =>
      some (gate, .guarded guard (if guard.acquired && guard.gated then .releasing else .running),
        none)
  | .releasing =>
      some (gate.release, .guarded { guard with releases := guard.releases + 1 } .released, none)
  | .released => some (gate, .guarded { guard with acquired := false } .running, none)
  | .running => none
  | .leaving =>
      if guard.acquired && guard.gated then some (gate, .guarded guard .destroying, none)
      else some (gate, .outside, some guard)
  | .destroying =>
      some (gate.release, .outside, some { guard with releases := guard.releases + 1 })

/-- The scope of the guard can be left while the compiler runs, before or after it, too: the time
may have run out by then, and what is called there may throw. -/
def GuardedPoint.mayLeave : GuardedPoint → Bool
  | .compiling => true
  | .running => true
  | _ => false

def GateCall.step (gate : CompileGate) : GateCall → GateEvent → Option GateStep
  | .outside, .enter gated =>
      if gated then some (gate, .acquiring, none)
      else
        some (gate,
          .guarded { gated := false, acquired := true, granted := false, releases := 0 } .entered,
          none)
  | .acquiring, .look cancelled expired =>
      let (gate', answer) := gate.look cancelled expired
      some (gate', (match answer with | none => .acquiring | some granted => .answered granted),
        none)
  | .answered granted, .proceed =>
      some (gate,
        .guarded { gated := true, acquired := granted, granted := granted, releases := 0 }
          .entered, none)
  | .guarded guard point, .proceed => guard.proceed gate point
  | .guarded guard point, .leave =>
      if point.mayLeave then some (gate, .guarded guard .leaving, none) else none
  | _, _ => none

structure GateState (ι : Type) where
  gate : CompileGate
  calls : ι → GateCall
  /-- History: the guards that have been destroyed. -/
  destroyed : List CompileGateGuard

def GateState.initial (ι : Type) (maxConcurrent : ℤ) : GateState ι where
  gate := .create maxConcurrent
  calls := fun _ => .outside
  destroyed := []

/-- The threads of `ι` with one gate between them. -/
def gateSystem (ι : Type) [DecidableEq ι] : TransitionSystem (GateState ι) (ι × GateEvent) where
  step state label :=
    ((state.calls label.1).step state.gate label.2).map fun (gate, call, destroyed) =>
      { gate := gate
        calls := Function.update state.calls label.1 call
        destroyed := state.destroyed ++ destroyed.toList }

namespace CompileGateGuard

variable {guard : CompileGateGuard} {point : GuardedPoint}

/-- The gate has given the guard a permit, which has not been given back. -/
def HoldsPermit (guard : CompileGateGuard) (point : GuardedPoint) : Prop :=
  guard.gated = true ∧ guard.acquired = true ∧ point ≠ .released

instance : DecidablePred (guard.HoldsPermit) := fun _ =>
  inferInstanceAs (Decidable (_ ∧ _ ∧ _))

/-- How often the guard is to call `release`: once for a permit, else never. -/
def due (guard : CompileGateGuard) : ℕ := if guard.gated ∧ guard.granted then 1 else 0

/-- The guard has given back what it does not hold, once. In `release` it has a permit to give
back. -/
structure Accounted (guard : CompileGateGuard) (point : GuardedPoint) : Prop where
  balance : guard.releases + (if guard.HoldsPermit point then 1 else 0) = guard.due
  releasing : point = .releasing ∨ point = .destroying → guard.HoldsPermit point

end CompileGateGuard

namespace GateCall

/-- The call holds a permit: one that its guard has, or one that it brings to the guard. -/
def HoldsPermit : GateCall → Prop
  | .outside => False
  | .acquiring => False
  | .answered granted => granted = true
  | .guarded guard point => guard.HoldsPermit point

instance : DecidablePred HoldsPermit := fun call =>
  match call with
  | .outside => isFalse id
  | .acquiring => isFalse id
  | .answered granted => inferInstanceAs (Decidable (granted = true))
  | .guarded guard point => inferInstanceAs (Decidable (guard.HoldsPermit point))

def permits (call : GateCall) : ℕ := if call.HoldsPermit then 1 else 0

def Sound : GateCall → Prop
  | .guarded guard point => guard.Accounted point
  | _ => True

/-- There is a guard, or a permit on its way to one. -/
def Alive : GateCall → Prop
  | .outside => False
  | .acquiring => False
  | _ => True

variable {gate gate' : CompileGate} {call call' : GateCall} {event : GateEvent}
  {destroyed : Option CompileGateGuard}

/-- What a step of one call does: the gate counts the permit that the call gets or gives back,
never beyond its bound, and a guard that is destroyed has given back what it got. -/
structure Moves (gate : CompileGate) (call : GateCall) (gate' : CompileGate) (call' : GateCall)
    (destroyed : Option CompileGateGuard) : Prop where
  bound : gate'.maxConcurrent = gate.maxConcurrent
  counted : gate'.active + call.permits = gate.active + call'.permits
  within : gate.active ≤ gate.maxConcurrent → gate'.active ≤ gate.maxConcurrent
  sound : call'.Sound
  settled : ∀ guard ∈ destroyed, guard.releases = guard.due

/-- A step that leaves the gate alone and destroys no guard. -/
theorem Moves.of_same_gate (same : call'.permits = call.permits) (sound : call'.Sound) :
    Moves gate call gate call' none where
  bound := rfl
  counted := by rw [same]
  within := id
  sound := sound
  settled := by simp

/-- A step that gives a permit back. -/
theorem Moves.of_release (held : call.permits = 1) (given_back : call'.permits = 0)
    (positive : 1 ≤ gate.active) (sound : call'.Sound)
    (settled : ∀ guard ∈ destroyed, guard.releases = guard.due) :
    Moves gate call gate.release call' destroyed where
  bound := by
    rw [CompileGate.release]
    split <;> rfl
  counted := by
    rw [CompileGate.release, if_pos (by omega), held, given_back]
    simp
  within := by
    intro within
    rw [CompileGate.release, if_pos (by omega)]
    dsimp only
    omega
  sound := sound
  settled := settled

theorem permits_guarded (guard : CompileGateGuard) (point : GuardedPoint) :
    (guarded guard point).permits = if guard.HoldsPermit point then 1 else 0 := rfl

/-- Only `release_now` can change what the guard holds by going on to another place. -/
theorem holdsPermit_congr {guard : CompileGateGuard} {point point' : GuardedPoint}
    (before : point ≠ .released) (after : point' ≠ .released) :
    guard.HoldsPermit point' ↔ guard.HoldsPermit point := by
  simp [CompileGateGuard.HoldsPermit, before, after]

/-- Going on to a place where nothing is given back. -/
theorem moves_of_point {guard : CompileGateGuard} {point point' : GuardedPoint}
    (accounted : guard.Accounted point) (before : point ≠ .released)
    (after : point' ≠ .released)
    (releasing : point' = .releasing ∨ point' = .destroying → guard.HoldsPermit point') :
    Moves gate (guarded guard point) gate (guarded guard point') none := by
  have same : guard.HoldsPermit point' ↔ guard.HoldsPermit point := holdsPermit_congr before after
  refine .of_same_gate (by simp only [permits_guarded, same]) ⟨?_, releasing⟩
  simpa only [same] using accounted.balance

theorem moves_of_proceed {guard : CompileGateGuard} {point : GuardedPoint}
    (accounted : guard.Accounted point)
    (positive : guard.HoldsPermit point → 1 ≤ gate.active)
    (stepped : guard.proceed gate point = some (gate', call', destroyed)) :
    Moves gate (guarded guard point) gate' call' destroyed := by
  have balance := accounted.balance
  cases point with
  | entered =>
      obtain ⟨rfl, rfl, rfl⟩ : gate = gate' ∧ _ = call' ∧ none = destroyed := by
        simpa [CompileGateGuard.proceed] using stepped
      split <;> exact moves_of_point accounted (by simp) (by simp) (by simp)
  | compiling =>
      obtain ⟨rfl, rfl, rfl⟩ : gate = gate' ∧ _ = call' ∧ none = destroyed := by
        simpa [CompileGateGuard.proceed] using stepped
      exact moves_of_point accounted (by simp) (by simp) (by simp)
  | releaseNow =>
      obtain ⟨rfl, rfl, rfl⟩ : gate = gate' ∧ _ = call' ∧ none = destroyed := by
        simpa [CompileGateGuard.proceed] using stepped
      split
      case isTrue holds =>
        exact moves_of_point accounted (by simp) (by simp) fun _ => ⟨holds.2, holds.1, by simp⟩
      case isFalse => exact moves_of_point accounted (by simp) (by simp) (by simp)
  | releasing =>
      obtain ⟨rfl, rfl, rfl⟩ : gate.release = gate' ∧ _ = call' ∧ none = destroyed := by
        simpa [CompileGateGuard.proceed] using stepped
      have holds := accounted.releasing (.inl rfl)
      rw [if_pos holds] at balance
      refine .of_release (by rw [permits_guarded, if_pos holds]) ?_ (positive holds) ⟨?_, ?_⟩
        (by simp)
      · simp [permits_guarded, CompileGateGuard.HoldsPermit]
      · rw [if_neg (by simp [CompileGateGuard.HoldsPermit])]
        exact balance
      · simp
  | released =>
      obtain ⟨rfl, rfl, rfl⟩ : gate = gate' ∧ _ = call' ∧ none = destroyed := by
        simpa [CompileGateGuard.proceed] using stepped
      have holdsNot : ¬guard.HoldsPermit .released := by simp [CompileGateGuard.HoldsPermit]
      rw [if_neg holdsNot] at balance
      refine .of_same_gate (by simp [permits_guarded, CompileGateGuard.HoldsPermit]) ⟨?_, ?_⟩
      · rw [if_neg (by simp [CompileGateGuard.HoldsPermit])]
        exact balance
      · simp
  | running => simp [CompileGateGuard.proceed] at stepped
  | leaving =>
      simp only [CompileGateGuard.proceed] at stepped
      split at stepped
      case isTrue holds =>
        obtain ⟨rfl, rfl, rfl⟩ : gate = gate' ∧ _ = call' ∧ none = destroyed := by
          simpa using stepped
        simp only [Bool.and_eq_true] at holds
        exact moves_of_point accounted (by simp) (by simp) fun _ => ⟨holds.2, holds.1, by simp⟩
      case isFalse free =>
        obtain ⟨rfl, rfl, rfl⟩ : gate = gate' ∧ _ = call' ∧ some guard = destroyed := by
          simpa using stepped
        have holdsNot : ¬guard.HoldsPermit .leaving := by
          rintro ⟨gated, acquired, -⟩
          simp [gated, acquired] at free
        rw [if_neg holdsNot] at balance
        exact
          { bound := rfl
            counted := by rw [permits_guarded, if_neg holdsNot]; rfl
            within := id
            sound := trivial
            settled := by simpa using balance }
  | destroying =>
      obtain ⟨rfl, rfl, rfl⟩ : gate.release = gate' ∧ _ = call' ∧
          some { guard with releases := guard.releases + 1 } = destroyed := by
        simpa [CompileGateGuard.proceed] using stepped
      have holds := accounted.releasing (.inr rfl)
      rw [if_pos holds] at balance
      refine .of_release (by rw [permits_guarded, if_pos holds]) rfl (positive holds) trivial ?_
      rintro _ ⟨⟩
      exact balance

theorem moves_of_step (sound : call.Sound) (positive : call.HoldsPermit → 1 ≤ gate.active)
    (stepped : call.step gate event = some (gate', call', destroyed)) :
    Moves gate call gate' call' destroyed := by
  cases call with
  | outside =>
      cases event with
      | enter gated =>
          simp only [step] at stepped
          split at stepped
          · obtain ⟨rfl, rfl, rfl⟩ : gate = gate' ∧ .acquiring = call' ∧ none = destroyed := by
              simpa using stepped
            exact .of_same_gate rfl trivial
          · obtain ⟨rfl, rfl, rfl⟩ : gate = gate' ∧ _ = call' ∧ none = destroyed := by
              simpa using stepped
            refine .of_same_gate (by simp [permits, HoldsPermit, CompileGateGuard.HoldsPermit]) ?_
            exact ⟨by simp [CompileGateGuard.HoldsPermit, CompileGateGuard.due], by simp⟩
      | look | proceed | leave => simp [step] at stepped
  | acquiring =>
      cases event with
      | look cancelled expired =>
          simp only [step] at stepped
          rcases gate.look_cases cancelled expired with ⟨free, looked⟩ | looked | looked
          · obtain ⟨rfl, rfl, rfl⟩ : { gate with active := gate.active + 1 } = gate' ∧
                .answered true = call' ∧ none = destroyed := by
              simpa [looked] using stepped
            exact
              { bound := rfl
                counted := by simp [permits, HoldsPermit]
                within := fun _ => by dsimp only; omega
                sound := trivial
                settled := by simp }
          · obtain ⟨rfl, rfl, rfl⟩ : gate = gate' ∧ .answered false = call' ∧ none = destroyed := by
              simpa [looked] using stepped
            exact .of_same_gate (by simp [permits, HoldsPermit]) trivial
          · obtain ⟨rfl, rfl, rfl⟩ : gate = gate' ∧ .acquiring = call' ∧ none = destroyed := by
              simpa [looked] using stepped
            exact .of_same_gate rfl trivial
      | enter | proceed | leave => simp [step] at stepped
  | answered granted =>
      cases event with
      | proceed =>
          obtain ⟨rfl, rfl, rfl⟩ : gate = gate' ∧ _ = call' ∧ none = destroyed := by
            simpa [step] using stepped
          refine .of_same_gate (by cases granted <;> rfl) ?_
          exact ⟨by simp [CompileGateGuard.HoldsPermit, CompileGateGuard.due], by simp⟩
      | enter | look | leave => simp [step] at stepped
  | guarded guard point =>
      cases event with
      | proceed => exact moves_of_proceed sound positive stepped
      | leave =>
          simp only [step] at stepped
          split at stepped
          case isTrue may =>
            obtain ⟨rfl, rfl, rfl⟩ : gate = gate' ∧ _ = call' ∧ none = destroyed := by
              simpa using stepped
            refine moves_of_point sound ?_ (by simp) (by simp)
            rintro rfl
            simp [GuardedPoint.mayLeave] at may
          case isFalse => cases stepped
      | enter | look => simp [step] at stepped

end GateCall

section Runs

variable {ι : Type} [Fintype ι] {maxConcurrent : ℤ} {state next : GateState ι}

/-- The gate counts the permits that are out, which are never too many, and every guard has
given back what it got and does not hold. -/
structure GateState.Sound (maxConcurrent : ℤ) (state : GateState ι) : Prop where
  bound : state.gate.maxConcurrent = max 1 maxConcurrent
  counted : state.gate.active = countWhere GateCall.HoldsPermit state.calls
  within : state.gate.active ≤ state.gate.maxConcurrent
  sound : ∀ thread, (state.calls thread).Sound
  settled : ∀ guard ∈ state.destroyed, guard.releases = guard.due

theorem GateState.sound_initial (maxConcurrent : ℤ) :
    (GateState.initial ι maxConcurrent).Sound maxConcurrent where
  bound := by
    simp only [initial, CompileGate.create]
    omega
  counted := by
    have none_held : countWhere GateCall.HoldsPermit (initial ι maxConcurrent).calls = 0 :=
      countWhere_eq_zero_iff.mpr fun _ => id
    rw [none_held]
    rfl
  within := by
    simp only [initial, CompileGate.create]
    omega
  sound := fun _ => trivial
  settled := by simp [initial]

theorem GateState.Sound.positive (sound : state.Sound maxConcurrent) {thread : ι}
    (holds : (state.calls thread).HoldsPermit) : 1 ≤ state.gate.active := by
  have some_held : countWhere GateCall.HoldsPermit state.calls ≠ 0 := fun none_held =>
    countWhere_eq_zero_iff.mp none_held thread holds
  rw [sound.counted]
  omega

variable [DecidableEq ι]

theorem GateState.Sound.step (sound : state.Sound maxConcurrent) {label : ι × GateEvent}
    (stepped : (gateSystem ι).step state label = some next) : next.Sound maxConcurrent := by
  rcases label with ⟨thread, event⟩
  rcases Option.map_eq_some_iff.mp stepped with ⟨⟨gate, call, destroyed⟩, ran, rfl⟩
  have moves := GateCall.moves_of_step (sound.sound thread) sound.positive ran
  have update := countWhere_update GateCall.HoldsPermit state.calls thread call
  have counted := moves.counted
  simp only [GateCall.permits] at counted
  exact
    { bound := moves.bound.trans sound.bound
      counted := by
        have before := sound.counted
        dsimp only
        omega
      within := by
        dsimp only
        rw [moves.bound]
        exact moves.within sound.within
      sound := by
        intro other
        dsimp only
        by_cases same : other = thread
        · rw [same, Function.update_self]
          exact moves.sound
        · rw [Function.update_of_ne same]
          exact sound.sound other
      settled := by
        intro guard mem
        rcases List.mem_append.mp mem with old | isNew
        · exact sound.settled guard old
        · exact moves.settled guard (Option.mem_toList.mp isNew) }

theorem GateState.Sound.of_reaches
    (reaches : (gateSystem ι).Reaches TransitionSystem.Unrestricted
      (GateState.initial ι maxConcurrent) state) : state.Sound maxConcurrent :=
  reaches.invariant (GateState.sound_initial maxConcurrent) fun _ _ _ _ sound _ stepped =>
    sound.step stepped

/-- In every state that any number of threads reaches, the gate counts the guards that hold a
permit, and there are never too many of them. A guard without a permit releases nothing, one
that has given its permit back, early or when it is destroyed, does so once, and without any
guard no permit is out. -/
theorem compile_gate_exact
    (reaches : (gateSystem ι).Reaches TransitionSystem.Unrestricted
      (GateState.initial ι maxConcurrent) state) :
    state.gate.active = countWhere GateCall.HoldsPermit state.calls ∧
      state.gate.active ≤ max 1 maxConcurrent ∧
      (∀ thread guard point, state.calls thread = .guarded guard point →
        (guard.granted = false → guard.releases = 0) ∧
          guard.releases + (if guard.HoldsPermit point then 1 else 0) = guard.due ∧
            guard.releases ≤ 1) ∧
      (∀ guard ∈ state.destroyed,
        guard.releases = if guard.gated ∧ guard.granted then 1 else 0) ∧
      ((∀ thread, ¬(state.calls thread).Alive) → state.gate.active = 0) := by
  have sound := GateState.Sound.of_reaches reaches
  refine ⟨sound.counted, sound.bound ▸ sound.within, ?_, sound.settled, ?_⟩
  · intro thread guard point at_point
    have accounted := sound.sound thread
    rw [at_point] at accounted
    have balance := accounted.balance
    refine ⟨?_, balance, ?_⟩
    · intro refused
      simp only [CompileGateGuard.due, refused] at balance
      simp at balance
      omega
    · have due_le : guard.due ≤ 1 := by
        rw [CompileGateGuard.due]
        split <;> omega
      omega
  · intro dead
    rw [sound.counted]
    have none_held : countWhere GateCall.HoldsPermit state.calls = 0 := by
      rw [countWhere_eq_zero_iff]
      intro thread holds
      apply dead thread
      cases call : state.calls thread with
      | outside => rw [call] at holds; exact holds
      | acquiring => rw [call] at holds; exact holds
      | answered | guarded => trivial
    rw [none_held]
    rfl

/-- One of two threads compiles and is stopped by an exception, the other one waits meanwhile. -/
def thrownSchedule : List (Fin 2 × GateEvent) :=
  let thrown : Fin 2 := ⟨0, Nat.two_pos⟩
  let waiting : Fin 2 := ⟨1, Nat.one_lt_two⟩
  [(thrown, .enter true), (waiting, .enter true), (thrown, .look false false),
    (waiting, .look false false), (thrown, .proceed), (thrown, .proceed), (thrown, .leave),
    (thrown, .proceed), (thrown, .proceed), (waiting, .look false true)]

theorem compile_gate_exact_thrown :
    ∃ state, (gateSystem (Fin 2)).run (GateState.initial (Fin 2) 0) thrownSchedule = some state ∧
      state.gate.active = countWhere GateCall.HoldsPermit state.calls ∧
      state.gate.active ≤ max 1 0 := by
  refine ⟨_, rfl, ?_⟩
  have exact := compile_gate_exact (TransitionSystem.reaches_of_run
    (TransitionSystem.admits_unrestricted thrownSchedule (GateState.initial (Fin 2) 0)) rfl)
  exact ⟨exact.1, exact.2.1⟩

end Runs

end OnlineJudge.Judge
