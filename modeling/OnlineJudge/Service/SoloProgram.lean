import OnlineJudge.Library.SoloRun
import OnlineJudge.Service.Footprint

/-!
# Programs of the services alone

How the pieces that every call is made of run by themselves: the beginning and the ends of
a transaction and a statement in it, with calls that may fail and with calls that do not.
-/

namespace OnlineJudge

namespace Service

open Judge Db Library Library.SharedConnection

section Endings

variable {fails : Prop} {event success failure : Event} {connection final : Connection Db}
  {events : List Event}

theorem solo_finish (solo : Solo Db.execute fails (Program.finish event) connection events final) :
    events = [event] ∧ final = connection := by
  cases solo with
  | emit rest =>
      cases rest
      exact ⟨rfl, rfl⟩

theorem solo_unlockWith
    (solo : Solo Db.execute fails (Program.unlockWith event) connection events final) :
    events = [event] ∧ final = connection := by
  cases solo with
  | unlock rest => exact solo_finish rest

/-- A rollback leaves the contents that the transaction started from. -/
theorem solo_rollbackWith
    (solo : Solo Db.execute fails (Program.rollbackWith event) connection events final) :
    events = [event] ∧ final = { connection with work := none } := by
  cases solo with
  | rollback rest => exact solo_unlockWith rest

theorem solo_commitWith {work : Db} (is_open : connection.work = some work)
    (solo : Solo Db.execute fails (Program.commitWith success failure) connection events final) :
    (events = [success] ∧ final = { committed := work, work := none }) ∨
      events = [failure] ∧ final = { connection with work := none } := by
  cases solo with
  | commits opened rest =>
      rw [is_open] at opened
      rcases Option.some.inj opened with rfl
      exact .inl (solo_unlockWith rest)
  | commitFails _ rest => exact .inr (solo_rollbackWith rest)

theorem solo_beginWith {next : Program}
    (solo : Solo Db.execute fails (Program.beginWith failure next) connection events final) :
    (events = [failure] ∧ final = connection) ∨
      Solo Db.execute fails next { connection with work := some connection.committed } events
        final := by
  cases solo with
  | lock rest =>
      cases rest with
      | begins _ rest => exact .inr rest
      | beginFails _ rest => exact .inl (solo_unlockWith rest)

/-- A statement outside of a transaction that reads only. -/
theorem solo_read {base : Db} {stmt : Stmt} {next : Option (Reply stmt) → Program}
    (reads : ∀ reply after, Db.execute stmt base = some (reply, after) → after = base)
    (solo : Solo Db.execute fails (.exec stmt next) { committed := base, work := none } events
      final) :
    Solo Db.execute fails (next none) { committed := base, work := none } events final ∨
      ∃ reply, Db.execute stmt base = some (reply, base) ∧
        Solo Db.execute fails (next (some reply)) { committed := base, work := none } events
          final := by
  cases solo with
  | execFails _ rest => exact .inl rest
  | @executes _ _ _ _ _ reply after executed rest =>
      rcases reads reply after executed with rfl
      exact .inr ⟨reply, executed, rest⟩

end Endings

section Conclusions

variable {fails : Prop} {base work after : Db} {success failure : Event} {allowed : Db → Prop}
  {events : List Event} {final : Connection Db}

/-- A transaction fails and leaves the contents that it started from, or it ends with the event of
its success and with contents of a given kind. -/
inductive Concludes (fails : Prop) (base : Db) (failure success : Event) (allowed : Db → Prop) :
    List Event → Db → Prop where
  | failed (mayFail : fails) : Concludes fails base failure success allowed [failure] base
  | succeeded {after : Db} (isAllowed : allowed after) :
      Concludes fails base failure success allowed [success] after

theorem concludes_rollbackWith (mayFail : fails)
    (solo : Solo Db.execute fails (Program.rollbackWith failure)
      { committed := base, work := some work } events final) :
    Concludes fails base failure success allowed events final.committed := by
  rcases solo_rollbackWith solo with ⟨rfl, rfl⟩
  exact .failed mayFail

/-- The transaction finds nothing to do. -/
theorem concludes_nothing (isAllowed : allowed base)
    (solo : Solo Db.execute fails (Program.rollbackWith success)
      { committed := base, work := some work } events final) :
    Concludes fails base failure success allowed events final.committed := by
  rcases solo_rollbackWith solo with ⟨rfl, rfl⟩
  exact .succeeded isAllowed

theorem concludes_commitWith (isAllowed : allowed work)
    (solo : Solo Db.execute fails (Program.commitWith success failure)
      { committed := base, work := some work } events final) :
    Concludes fails base failure success allowed events final.committed := by
  cases solo with
  | commits is_open rest =>
      rcases Option.some.inj is_open with rfl
      rcases solo_unlockWith rest with ⟨rfl, rfl⟩
      exact .succeeded isAllowed
  | commitFails failed rest =>
      refine concludes_rollbackWith (failed.resolve_right ?_) rest
      simp

/-- A statement that the contents accept, in a transaction that ends when a statement fails. -/
theorem concludes_exec {stmt : Stmt} {next : Option (Reply stmt) → Program} {reply : Reply stmt}
    (accepted : Db.execute stmt work = some (reply, after))
    (refused : next none = Program.rollbackWith failure)
    (continues : Solo Db.execute fails (next (some reply))
      { committed := base, work := some after } events final →
        Concludes fails base failure success allowed events final.committed)
    (solo : Solo Db.execute fails (.exec stmt next) { committed := base, work := some work } events
      final) :
    Concludes fails base failure success allowed events final.committed := by
  cases solo with
  | executes executed rest =>
      change Db.execute stmt work = _ at executed
      rw [accepted] at executed
      rcases Prod.mk.inj (Option.some.inj executed) with ⟨rfl, rfl⟩
      exact continues rest
  | execFails failed rest =>
      change fails ∨ Db.execute stmt work = none at failed
      rw [accepted] at failed
      rw [refused] at rest
      exact concludes_rollbackWith (failed.resolve_right (by simp)) rest

theorem concludes_beginWith {next : Program}
    (continues : Solo Db.execute fails next { committed := base, work := some base } events final →
      Concludes fails base failure success allowed events final.committed)
    (solo : Solo Db.execute fails (Program.beginWith failure next)
      { committed := base, work := none } events final) :
    Concludes fails base failure success allowed events final.committed := by
  cases solo with
  | lock rest =>
      cases rest with
      | begins _ rest => exact continues rest
      | beginFails failed rest =>
          rcases solo_unlockWith rest with ⟨rfl, rfl⟩
          exact .failed (failed.resolve_right (by simp))

end Conclusions

section Successes

variable {event success failure : Event} {connection final : Connection Db} {events : List Event}

/-- A statement that the contents accept is executed, when no call fails. -/
theorem solo_exec {stmt : Stmt} {next : Option (Reply stmt) → Program} {reply : Reply stmt}
    {after : Db} (executed : Db.execute stmt connection.view = some (reply, after))
    (solo : Solo Db.execute False (.exec stmt next) connection events final) :
    Solo Db.execute False (next (some reply)) (connection.store after) events final := by
  cases solo with
  | executes other rest =>
      rw [executed] at other
      cases other
      exact rest
  | execFails failed _ =>
      rcases failed with failed | refused
      · exact failed.elim
      · rw [executed] at refused
        cases refused

theorem solo_begins {next : Program} (free : connection.work = none)
    (solo : Solo Db.execute False (Program.beginWith failure next) connection events final) :
    Solo Db.execute False next { connection with work := some connection.committed } events
      final := by
  cases solo with
  | lock rest =>
      cases rest with
      | begins _ rest => exact rest
      | beginFails failed _ => exact absurd free (failed.resolve_left id)

theorem solo_commits {work : Db} (is_open : connection.work = some work)
    (solo : Solo Db.execute False (Program.commitWith success failure) connection events final) :
    events = [success] ∧ final = { committed := work, work := none } := by
  cases solo with
  | commits opened rest =>
      rw [is_open] at opened
      rcases Option.some.inj opened with rfl
      exact solo_unlockWith rest
  | commitFails failed _ =>
      rw [is_open] at failed
      exact absurd (failed.resolve_left id) nofun

end Successes

section Calls

variable {dump : Dump} {before : Db} {call : Call} {holds : List Event → Db → Prop}

/-- The call, when it runs by itself and the database may fail at any time, always ends so. -/
def Ends (dump : Dump) (before : Db) (call : Call) (holds : List Event → Db → Prop) : Prop :=
  ∀ (state : State) (thread : SharedConnection.Thread Reply Event Call),
    (server dump).system.Reaches (Alone 0 True) ((server dump).spawn (.initial before) call) state →
      state.threads 0 = some thread → thread.program = some .done →
        holds thread.events state.committed

theorem spawn_initial : ((server dump).spawn (.initial before) call).threads 0 =
    some { call := call, program := some (call.body dump 0), events := [], startedAt := 0 } := by
  simp [SharedConnection.Service.spawn, State.initial, server]

/-- What a call leaves that has run by itself. -/
theorem solo_of_alone {fails : Prop} {state : State}
    {thread : SharedConnection.Thread Reply Event Call}
    (reaches : (server dump).system.Reaches (Alone 0 fails)
      ((server dump).spawn (.initial before) call) state)
    (born : state.threads 0 = some thread) (returned : thread.program = some .done) :
    Solo Db.execute fails (call.body dump 0) { committed := before, work := none } thread.events
      state.connection := by
  obtain ⟨events, events_eq, solo⟩ :=
    SharedConnection.Service.solo_of_reaches reaches spawn_initial rfl born returned
  rw [List.nil_append] at events_eq
  rw [events_eq]
  exact solo

theorem ends_of_solo
    (solo : ∀ events final, Solo Db.execute True (call.body dump 0)
      { committed := before, work := none } events final → holds events final.committed) :
    Ends dump before call holds :=
  fun _ _ reaches born returned => solo _ _ (solo_of_alone reaches born returned)

theorem finishes_alone :
    Finishes (server dump) False 0 ((server dump).spawn (.initial before) call) :=
  (Call.uses dump 0 call).finishes spawn_initial rfl rfl

/-- One of the ends is the one without a failure. -/
theorem Ends.exists_solo (ends : Ends dump before call holds) :
    ∃ events final, Solo Db.execute False (call.body dump 0)
      { committed := before, work := none } events final ∧ holds events final.committed := by
  obtain ⟨state, thread, reaches, born, returned⟩ :=
    (finishes_alone : Finishes (server dump) False 0 ((server dump).spawn (.initial before) call))
  have mayFail : (server dump).system.Reaches (Alone 0 True)
      ((server dump).spawn (.initial before) call) state :=
    reaches.weaken fun _ _ alone => alone.imp id fun failed => failed.1.elim
  exact ⟨thread.events, state.connection, solo_of_alone reaches born returned,
    ends state thread mayFail born returned⟩

end Calls

end Service

end OnlineJudge
