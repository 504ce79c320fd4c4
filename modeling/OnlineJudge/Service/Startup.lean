import OnlineJudge.Db.Schema
import OnlineJudge.Library.SoloRun
import OnlineJudge.Service.Administrators

/-!
# Starting the server

`initialize_schema` prepares the file of the database before the server starts: it brings
the schema up to date and creates the first administrator. A process is started any number
of times on the same file; between two starts it serves calls, in any order of their steps.
-/

namespace OnlineJudge

namespace Service

open Judge Db Library Library.SharedConnection

inductive StartupError where
  | database
  | passwordMissing
  | hashing
  deriving DecidableEq, Repr

inductive StartupEvent where
  | initialized
  | failed (error : StartupError)
  deriving DecidableEq, Repr

abbrev Startup := Library.Program SchemaStmt.Reply StartupEvent

/-- What the start finds in its environment. -/
structure StartupOptions where
  /-- `OJ_ADMIN_PASSWORD`. -/
  adminPassword : Option Bytes
  /-- The answer of `hash_password`. -/
  hash : Bytes → Option Bytes
  /-- The database's clock. -/
  now : Bytes

namespace Startup

/-- `kSchemaStatements`. -/
def schemaTables : List Table :=
  [.users, .problems, .testcases, .submissions, .userProblemStatus, .inFlightTasks]

/-- `kIndexStatements`. -/
def schemaIndexes : List Index :=
  [.problemsVisible, .problemsSeedKey, .testcasesProblemOrd, .submissionsUser,
    .submissionsUserCreated, .submissionsProblem, .userProblemStatusProblem, .inFlightState,
    .inFlightProblem]

def failWith (error : StartupError) : Startup := .rollback (.emit (.failed error) .done)

def finish : Startup :=
  .commit fun committed =>
    if committed then .emit .initialized .done else failWith .database

/-- A statement whose answer is not needed. -/
def perform (stmt : SchemaStmt) (next : Startup) : Startup :=
  .exec stmt fun answer => if answer.isSome then next else failWith .database

def ensureColumn (column : AddedColumn) (next : Startup) : Startup :=
  .exec (.columnExists column) fun
    | none => failWith .database
    | some true => next
    | some false => perform (.addColumn column) next

def applySchema (next : Startup) : Startup :=
  schemaTables.foldr (fun table => perform (.createTable table)) <|
    ensureColumn .isSample <| ensureColumn .seedKey <|
      schemaIndexes.foldr (fun index => perform (.createIndex index)) next

/-- The administrator is created once; the password comes from the environment. -/
def createAdmin (options : StartupOptions) : Startup :=
  .exec .adminExists fun
    | none => failWith .database
    | some true => finish
    | some false =>
        if options.adminPassword.getD [] = [] then failWith .passwordMissing
        else
          match options.hash (options.adminPassword.getD []) with
          | none => failWith .hashing
          | some passwordHash => perform (.insertAdminIfAbsent passwordHash options.now) finish

end Startup

def initializeSchema (options : StartupOptions) : Startup :=
  .begin fun begun =>
    if begun then Startup.applySchema (Startup.createAdmin options)
    else .emit (.failed .database) .done

section Preparation

variable {fails : Prop} {base work : DatabaseFile} {events : List StartupEvent}
  {final : Connection DatabaseFile}

/-- Whoever has the account of the first administrator was created as one, and since then the roles
never left the server without an administrator. -/
structure Startable (db : Db) : Prop where
  wellFormed : db.users.WellFormed
  provided : db.users.hasAccount adminName = true → db.users.admins ≠ []

/-- The start ends with a database that has an administrator, or fails and changes nothing. -/
structure Prepared (base : DatabaseFile) (events : List StartupEvent)
    (final : Connection DatabaseFile) : Prop where
  closed : final.work = none
  outcome : events = [.initialized] ∧ final.committed.contents.users.WellFormed ∧
      final.committed.contents.users.admins ≠ [] ∨
    (∃ error, events = [.failed error]) ∧ final.committed = base

theorem prepared_failWith {error : StartupError}
    (solo : Solo executeSchema fails (Startup.failWith error)
      { committed := base, work := some work } events final) : Prepared base events final := by
  cases solo with
  | rollback rest =>
      cases rest with
      | emit rest =>
          cases rest
          exact ⟨rfl, .inr ⟨⟨error, rfl⟩, rfl⟩⟩

theorem prepared_finish (wellFormed : work.contents.users.WellFormed)
    (has : work.contents.users.admins ≠ [])
    (solo : Solo executeSchema fails Startup.finish { committed := base, work := some work } events
      final) : Prepared base events final := by
  cases solo with
  | commits is_open rest =>
      rcases Option.some.inj is_open with rfl
      cases rest with
      | emit rest =>
          cases rest
          exact ⟨rfl, .inl ⟨rfl, wellFormed, has⟩⟩
  | commitFails _ rest => exact prepared_failWith rest

theorem prepared_perform {stmt : SchemaStmt} {next : Startup}
    (continues : ∀ reply after events final,
      executeSchema stmt work = some (reply, after) →
        Solo executeSchema fails next { committed := base, work := some after } events final →
          Prepared base events final)
    (solo : Solo executeSchema fails (Startup.perform stmt next)
      { committed := base, work := some work } events final) : Prepared base events final := by
  cases solo with
  | executes executed rest => exact continues _ _ _ _ executed rest
  | execFails _ rest => exact prepared_failWith rest

/-- The statements about the schema leave the contents alone. -/
def SchemaOnly : SchemaStmt → Prop
  | .adminExists => False
  | .insertAdminIfAbsent .. => False
  | _ => True

theorem SchemaOnly.contents {stmt : SchemaStmt} {after : DatabaseFile} {reply : stmt.Reply}
    (only : SchemaOnly stmt) (executed : executeSchema stmt work = some (reply, after)) :
    after.contents = work.contents := by
  cases stmt with
  | adminExists | insertAdminIfAbsent => exact only.elim
  | columnExists column =>
      rcases Option.some.inj executed with ⟨⟩
      rfl
  | createTable table =>
      simp only [executeSchema] at executed
      split at executed <;> rcases Option.some.inj executed with ⟨⟩ <;> rfl
  | addColumn column =>
      simp only [executeSchema] at executed
      split at executed
      · rcases Option.some.inj executed with ⟨⟩
        rfl
      · cases executed
  | createIndex index =>
      simp only [executeSchema] at executed
      split at executed
      · rcases Option.some.inj executed with ⟨⟩
        rfl
      split at executed
      · rcases Option.some.inj executed with ⟨⟩
        rfl
      · cases executed

/-- From whatever schema, with the contents of the file, the rest of the start prepares the file. -/
def Prepares (fails : Prop) (base : DatabaseFile) (rest : Startup) : Prop :=
  ∀ work events final, work.contents = base.contents →
    Solo executeSchema fails rest { committed := base, work := some work } events final →
      Prepared base events final

theorem Prepares.perform {stmt : SchemaStmt} {rest : Startup} (only : SchemaOnly stmt)
    (prepares : Prepares fails base rest) : Prepares fails base (Startup.perform stmt rest) := by
  intro work events final same solo
  refine prepared_perform ?_ solo
  intro reply after events final executed solo
  exact prepares after events final ((only.contents executed).trans same) solo

theorem Prepares.ensureColumn {column : AddedColumn} {rest : Startup}
    (prepares : Prepares fails base rest) :
    Prepares fails base (Startup.ensureColumn column rest) := by
  intro work events final same solo
  cases solo with
  | execFails _ rest => exact prepared_failWith rest
  | executes executed rest =>
      rename_i after reply
      have after_eq : after = work := by
        rcases Option.some.inj executed with ⟨⟩
        rfl
      subst after_eq
      cases reply with
      | true => exact prepares after events final same rest
      | false =>
          have adds : SchemaOnly (.addColumn column) := trivial
          exact Prepares.perform adds prepares after events final same rest

theorem Prepares.applySchema {rest : Startup} (prepares : Prepares fails base rest) :
    Prepares fails base (Startup.applySchema rest) := by
  have indexes : ∀ indexes : List Index, Prepares fails base
      (indexes.foldr (fun index => Startup.perform (.createIndex index)) rest) := by
    intro indexes
    induction indexes with
    | nil => exact prepares
    | cons index indexes ih => exact ih.perform trivial
  have tables : ∀ (tables : List Table) {rest : Startup}, Prepares fails base rest →
      Prepares fails base
        (tables.foldr (fun table => Startup.perform (.createTable table)) rest) := by
    intro tables rest prepares
    induction tables with
    | nil => exact prepares
    | cons table tables ih => exact ih.perform trivial
  exact tables _ (indexes _).ensureColumn.ensureColumn

theorem insertAdmin_startable {table after : UserTable} {passwordHash now : Bytes}
    (wellFormed : table.WellFormed) (absent : table.hasAccount adminName = false)
    (inserted : table.insertAdmin passwordHash now = some after) :
    after.WellFormed ∧ after.admins ≠ [] := by
  simp only [UserTable.insertAdmin, absent] at inserted
  split at inserted
  · rename_i isPresent
    cases isPresent
  split at inserted
  · cases inserted
  rcases Option.some.inj inserted with rfl
  refine ⟨wellFormed.append rfl, ?_⟩
  simp [UserTable.admins]

theorem prepares_createAdmin {options : StartupOptions} (startable : Startable base.contents) :
    Prepares fails base (Startup.createAdmin options) := by
  intro work events final same solo
  have wellFormed : work.contents.users.WellFormed := same ▸ startable.wellFormed
  cases solo with
  | execFails _ rest => exact prepared_failWith rest
  | executes executed rest =>
      rename_i after present
      change executeSchema .adminExists work = some (present, after) at executed
      simp only [executeSchema] at executed
      split at executed
      case isFalse => cases executed
      rename_i usersExist
      rcases Prod.mk.inj (Option.some.inj executed) with ⟨isPresent, rfl⟩
      cases present with
      | true =>
          have has : work.contents.users.admins ≠ [] := by
            rw [same] at isPresent ⊢
            exact startable.provided isPresent
          exact prepared_finish wellFormed has rest
      | false =>
          dsimp only at rest
          split at rest
          · exact prepared_failWith rest
          split at rest
          · exact prepared_failWith rest
          refine prepared_perform ?_ rest
          intro reply after events final executed solo
          simp only [executeSchema, if_pos usersExist] at executed
          rcases Option.map_eq_some_iff.mp executed with ⟨table, inserted, after_eq⟩
          rcases Prod.mk.inj after_eq with ⟨-, rfl⟩
          rcases insertAdmin_startable wellFormed isPresent inserted with ⟨tableWellFormed, has⟩
          exact prepared_finish tableWellFormed has solo

/-- `initialize_schema` leaves a database with an administrator, or fails and changes nothing. -/
theorem initializeSchema_prepares {options : StartupOptions} (startable : Startable base.contents)
    (solo : Solo executeSchema fails (initializeSchema options)
      { committed := base, work := none } events final) : Prepared base events final := by
  cases solo with
  | begins _ rest =>
      exact (prepares_createAdmin startable).applySchema base events final rfl rest
  | beginFails _ rest =>
      cases rest with
      | emit rest =>
          cases rest
          exact ⟨rfl, .inr ⟨⟨.database, rfl⟩, rfl⟩⟩

end Preparation

/-- The server's life on one file: it serves calls, or it does not run. -/
structure Process where
  /-- The file as the last start left it. -/
  file : DatabaseFile
  serving : Option State

/-- What the process leaves when it stops or crashes: the committed contents. -/
def Process.left (process : Process) : DatabaseFile :=
  match process.serving with
  | none => process.file
  | some state => { process.file with contents := state.committed }

inductive ProcessLabel where
  /-- The process ends, if it runs, and is started again; `answers` tells which calls of
  `initialize_schema` fail. -/
  | restart (options : StartupOptions) (answers : List Bool)
  | serve (label : Label)

/-- A start that fails is no start. -/
def Process.restart (process : Process) (options : StartupOptions) (answers : List Bool) :
    Process :=
  let ended := runAlone executeSchema (initializeSchema options) answers
    { committed := process.left, work := none }
  { file := ended.2.committed
    serving :=
      if .initialized ∈ ended.1 then some (.initial ended.2.committed.contents) else none }

def processes (dump : Dump) : TransitionSystem Process ProcessLabel where
  step := fun process label =>
    match label with
    | .restart options answers => some (process.restart options answers)
    | .serve label =>
        process.serving.bind fun state =>
          ((server dump).system.step state label).map fun next =>
            { process with serving := some next }

section Lifetime

variable {dump : Dump} {process next : Process}

/-- What holds of the process at any time. -/
structure ProcessSound (dump : Dump) (process : Process) : Prop where
  startable : Startable process.left.contents
  sound : ∀ state, process.serving = some state → (roleContract dump).Sound state

theorem ProcessSound.of_sound {file : DatabaseFile} {state : State}
    (sound : (roleContract dump).Sound state) :
    ProcessSound dump { file := file, serving := some state } where
  startable := ⟨sound.committed_basic, fun _ => sound.committed_inv⟩
  sound := by
    rintro _ ⟨⟩
    exact sound

theorem ProcessSound.stopped {file : DatabaseFile} (startable : Startable file.contents) :
    ProcessSound dump { file := file, serving := none } where
  startable := startable
  sound := by
    rintro _ ⟨⟩

theorem ProcessSound.restart (sound : ProcessSound dump process) (options : StartupOptions)
    (answers : List Bool) : ProcessSound dump (process.restart options answers) := by
  have solo := solo_runAlone executeSchema (initializeSchema options) answers
    { committed := process.left, work := none }
  have prepared := initializeSchema_prepares sound.startable solo
  rcases prepared.outcome with ⟨events, wellFormed, has⟩ | ⟨⟨error, events⟩, same⟩
  · simp only [Process.restart, events, List.mem_singleton, if_true]
    exact .of_sound (Contract.Sound.initial wellFormed has)
  · simp only [Process.restart, events, List.mem_singleton, reduceCtorEq, if_false, same]
    exact .stopped sound.startable

theorem ProcessSound.step {label : ProcessLabel} (sound : ProcessSound dump process)
    (step : (processes dump).step process label = some next) : ProcessSound dump next := by
  cases label with
  | restart options answers =>
      rcases Option.some.inj step with rfl
      exact sound.restart options answers
  | serve label =>
      rcases Option.bind_eq_some_iff.mp step with ⟨state, serves, step⟩
      rcases Option.map_eq_some_iff.mp step with ⟨later, serverStep, rfl⟩
      have reaches : (server dump).system.Reaches TransitionSystem.Unrestricted state later :=
        Relation.ReflTransGen.single ⟨label, trivial, serverStep⟩
      exact .of_sound (roleSound_of_reaches (sound.sound state serves) reaches)

/-- While the server runs there is an administrator, however often it was started and whatever
calls it has served, and every call of `change_role` from then on is answered for the contents on
which its transaction begins: with `LastAdmin` exactly when the role is taken from the only
administrator, and then the transaction leaves these contents. -/
theorem always_an_administrator {start : DatabaseFile} {state : State}
    (startable : Startable start.contents)
    (reaches : (processes dump).Reaches TransitionSystem.Unrestricted
      { file := start, serving := none } process)
    (serves : process.serving = some state) :
    state.committed.users.admins ≠ [] ∧
      ∀ (userId : ℤ) (newRole : Role) (fails : Prop) (started after : State)
        (last : SharedConnection.Thread Reply Event Call),
        (server dump).system.step state (.start (.changeRole userId newRole)) = some started →
          (server dump).system.Reaches (FailsOnly state.nextThread fails) started after →
            after.threads state.nextThread = some last → last.program = some .done →
              ∃ status, last.events = [.roleChanged status] ∧
                RoleAnswered dump fails state.nextThread userId newRole started after status := by
  have sound : ProcessSound dump process :=
    reaches.invariant (.stopped startable) fun _ _ _ _ sound _ step => sound.step step
  refine ⟨(sound.sound state serves).committed_inv, ?_⟩
  intro userId newRole fails started after last starts reached born done
  exact roleAnswered (sound.sound state serves) starts reached born done

def firstStart : ProcessLabel :=
  .restart { adminPassword := some [1], hash := some, now := [50] } []

theorem startable_fresh : Startable {} :=
  ⟨⟨List.nodup_nil, by nofun⟩, by nofun⟩

/-- A user registers, and the server is started again. -/
def administered : List ProcessLabel :=
  [firstStart,
    .serve (.start (.register
      { nickname := .ok [97], passwordError := none, hash := some [1], generated := fun _ => [98]
        maxAccountAttempts := 1, now := [50] })),
    .serve (.run 0 true), .serve (.run 0 true), .serve (.run 0 true), firstStart]

/-- Alone, a call of `change_role` on the state is answered with the status. -/
def AnswersAlone (state : State) (userId : ℤ) (newRole : Role) (status : RoleStatus) : Prop :=
  ∃ (started after : State) (last : SharedConnection.Thread Reply Event Call),
    (server fun _ => some []).system.step state (.start (.changeRole userId newRole)) =
        some started ∧
      (server fun _ => some []).system.run started (List.replicate 7 (.run state.nextThread true)) =
          some after ∧
        after.threads state.nextThread = some last ∧ last.program = some .done ∧
          last.events = [.roleChanged status]

/-- The new user becomes an administrator on request, and the only administrator stays one. -/
theorem always_an_administrator_restarted :
    ∃ (process : Process) (state : State),
      (processes fun _ => some []).run { file := {}, serving := none } administered =
        some process ∧
      process.serving = some state ∧ state.committed.users.admins ≠ [] ∧
        (∃ started after, RoleAnswered (fun _ => some []) False state.nextThread 2 .admin started
          after .updated) ∧
        ∃ started after, RoleAnswered (fun _ => some []) False state.nextThread 1 .user started
          after .lastAdmin := by
  have execution : ∃ (process : Process) (state : State),
      (processes fun _ => some []).run { file := {}, serving := none } administered =
        some process ∧
      process.serving = some state ∧ AnswersAlone state 2 .admin .updated ∧
        AnswersAlone state 1 .user .lastAdmin :=
    ⟨_, _, rfl, rfl, ⟨_, _, _, rfl, rfl, rfl, rfl, rfl⟩, _, _, _, rfl, rfl, rfl, rfl, rfl⟩
  rcases execution with ⟨process, state, execution, serves, promotes, demotes⟩
  have reaches := TransitionSystem.reaches_of_run
    (TransitionSystem.admits_unrestricted _ _) execution
  have sound := always_an_administrator startable_fresh reaches serves
  have answered : ∀ userId newRole status, AnswersAlone state userId newRole status →
      ∃ started after, RoleAnswered (fun _ => some []) False state.nextThread userId newRole
        started after status := by
    rintro userId newRole status ⟨started, after, last, starts, runs, born, done, events⟩
    have later : (server fun _ => some []).system.Reaches (FailsOnly state.nextThread False)
        started after := by
      refine TransitionSystem.reaches_of_run (TransitionSystem.admits_of_forall_mem ?_ _) runs
      intro label mem fails
      rw [List.eq_of_mem_replicate mem] at fails
      cases fails
    rcases sound.2 userId newRole False started after last starts later born done with
      ⟨other, sameEvents, isAnswered⟩
    rw [events] at sameEvents
    cases sameEvents
    exact ⟨started, after, isAnswered⟩
  exact ⟨process, state, execution, serves, sound.1, answered _ _ _ promotes,
    answered _ _ _ demotes⟩

end Lifetime

end Service

end OnlineJudge
