import OnlineJudge.Service.Footprint

/-!
# Acknowledged writes to the table of users

Registration and the reset of a password write with one statement outside any
transaction of their own, so that their write may become part of another thread's
transaction. It is lost exactly when that transaction does not commit. In every run
that avoids this, an acknowledged write is in the committed table as soon as no
transaction is open, and stays there until a later write to the same column.
-/

namespace OnlineJudge

namespace Db

/-- The write sets the password of the user. -/
def UserWrite.SetsPassword (write : UserWrite) (id : ℤ) : Prop :=
  ∃ passwordHash resetPwdFlag, write.change = .passwordSet id passwordHash resetPwdFlag

def UserWrite.SetsRole (write : UserWrite) (id : ℤ) : Prop :=
  ∃ role, write.change = .roleSet id role

/-- The table shows a write, but for the columns that a later one has written again. -/
def UserChange.ShownIn (rows : List UserRecord) (later : List UserWrite) : UserChange → Prop
  | .created user =>
      ∃ row ∈ rows, row.id = user.id ∧ row.account = user.account ∧
        row.nickname = user.nickname ∧ row.createdAt = user.createdAt ∧
        (row.passwordHash = user.passwordHash ∧ row.resetPwdFlag = user.resetPwdFlag ∨
          ∃ write ∈ later, write.SetsPassword user.id) ∧
        (row.role = user.role ∨ ∃ write ∈ later, write.SetsRole user.id)
  | .passwordSet id passwordHash resetPwdFlag =>
      ∃ row ∈ rows, row.id = id ∧
        (row.passwordHash = passwordHash ∧ row.resetPwdFlag = resetPwdFlag ∨
          ∃ write ∈ later, write.SetsPassword id)
  | .roleSet _ _ => True

/-- The table shows every write of a log. -/
def LogShown (rows : List UserRecord) : List UserWrite → Prop
  | [] => True
  | write :: later => write.change.ShownIn rows later ∧ LogShown rows later

/-- A write is in the table: it is logged, and the table shows it. -/
def UserWrite.Present (write : UserWrite) (db : Db) : Prop :=
  ∃ before later, db.users.log = before ++ write :: later ∧
    write.change.ShownIn db.users.rows later

theorem LogShown.present {rows : List UserRecord} {log : List UserWrite} {write : UserWrite}
    (shown : LogShown rows log) (mem : write ∈ log) :
    ∃ before later, log = before ++ write :: later ∧ write.change.ShownIn rows later := by
  induction log with
  | nil => cases mem
  | cons head tail ih =>
      rcases List.mem_cons.mp mem with rfl | mem
      · exact ⟨[], tail, rfl, shown.1⟩
      · rcases ih shown.2 mem with ⟨before, later, rfl, shownIn⟩
        exact ⟨head :: before, later, rfl, shownIn⟩

/-- What one more write to the table keeps of the rows. -/
structure RowsEvolve (write : UserWrite) (rows rows' : List UserRecord) : Prop where
  evolves : ∀ row ∈ rows, ∃ row' ∈ rows', row'.id = row.id ∧ row'.account = row.account ∧
    row'.nickname = row.nickname ∧ row'.createdAt = row.createdAt ∧
    (row'.passwordHash = row.passwordHash ∧ row'.resetPwdFlag = row.resetPwdFlag ∨
      write.SetsPassword row.id) ∧
    (row'.role = row.role ∨ write.SetsRole row.id)

theorem UserChange.ShownIn.evolve {rows rows' : List UserRecord} {later : List UserWrite}
    {write : UserWrite} {change : UserChange} (evolve : RowsEvolve write rows rows')
    (shown : change.ShownIn rows later) : change.ShownIn rows' (later ++ [write]) := by
  have keeps : ∀ {property : UserWrite → Prop},
      (∃ earlier ∈ later, property earlier) → ∃ earlier ∈ later ++ [write], property earlier :=
    fun ⟨earlier, mem, holds⟩ => ⟨earlier, List.mem_append_left _ mem, holds⟩
  have adds : ∀ {property : UserWrite → Prop}, property write →
      ∃ earlier ∈ later ++ [write], property earlier :=
    fun holds => ⟨write, by simp, holds⟩
  cases change with
  | created user =>
      rcases shown with ⟨row, mem, isId, account, nickname, created, password, role⟩
      rcases evolve.evolves row mem with
        ⟨row', mem', id', account', nickname', created', password', role'⟩
      refine ⟨row', mem', id'.trans isId, account'.trans account, nickname'.trans nickname,
        created'.trans created, ?_, ?_⟩
      · rcases password with ⟨hash, flag⟩ | overwritten
        · rcases password' with ⟨hash', flag'⟩ | overwrites
          · exact Or.inl ⟨hash'.trans hash, flag'.trans flag⟩
          · exact Or.inr (adds (isId ▸ overwrites))
        · exact Or.inr (keeps overwritten)
      · rcases role with role | overwritten
        · rcases role' with role' | overwrites
          · exact Or.inl (role'.trans role)
          · exact Or.inr (adds (isId ▸ overwrites))
        · exact Or.inr (keeps overwritten)
  | passwordSet id passwordHash resetPwdFlag =>
      rcases shown with ⟨row, mem, isId, password⟩
      rcases evolve.evolves row mem with ⟨row', mem', id', -, -, -, password', -⟩
      refine ⟨row', mem', id'.trans isId, ?_⟩
      rcases password with ⟨hash, flag⟩ | overwritten
      · rcases password' with ⟨hash', flag'⟩ | overwrites
        · exact Or.inl ⟨hash'.trans hash, flag'.trans flag⟩
        · exact Or.inr (adds (isId ▸ overwrites))
      · exact Or.inr (keeps overwritten)
  | roleSet id role => trivial

theorem LogShown.append {rows rows' : List UserRecord} {log : List UserWrite}
    {write : UserWrite} (evolve : RowsEvolve write rows rows')
    (shows : write.change.ShownIn rows' []) (shown : LogShown rows log) :
    LogShown rows' (log ++ [write]) := by
  induction log with
  | nil => exact ⟨shows, trivial⟩
  | cons head tail ih => exact ⟨shown.1.evolve evolve, ih shown.2⟩

/-- A table that shows its log. -/
def UserTable.Shows (table : UserTable) : Prop := LogShown table.rows table.log

theorem UserTable.insert_shows {table : UserTable} (shows : table.Shows)
    (writer : Library.SharedConnection.ThreadId)
    (account nickname passwordHash now : Bytes) :
    (table.insert writer account nickname passwordHash now).2.Shows ∧
      table.log <+: (table.insert writer account nickname passwordHash now).2.log := by
  unfold UserTable.insert
  split
  · exact ⟨shows, List.prefix_rfl⟩
  split
  · exact ⟨shows, List.prefix_rfl⟩
  refine ⟨LogShown.append ⟨fun row mem => ?_⟩ ?_ shows, List.prefix_append _ _⟩
  · exact ⟨row, List.mem_append_left _ mem, rfl, rfl, rfl, rfl, Or.inl ⟨rfl, rfl⟩, Or.inl rfl⟩
  · exact ⟨_, List.mem_append_right _ List.mem_cons_self, rfl, rfl, rfl, rfl,
      Or.inl ⟨rfl, rfl⟩, Or.inl rfl⟩

theorem UserTable.setPassword_shows {table : UserTable} (shows : table.Shows)
    (writer : Library.SharedConnection.ThreadId) (id : ℤ) (newHash : Bytes) (flag : ℤ) :
    (table.setPassword writer id newHash flag).2.Shows ∧
      table.log <+: (table.setPassword writer id newHash flag).2.log := by
  unfold UserTable.setPassword
  split
  case isFalse => exact ⟨shows, List.prefix_rfl⟩
  case isTrue found =>
    refine ⟨LogShown.append ⟨fun row mem => ?_⟩ ?_ shows, List.prefix_append _ _⟩
    · refine ⟨_, List.mem_map_of_mem mem, ?_⟩
      by_cases same : row.id = id
      · simp only [same, ↓reduceIte]
        exact ⟨trivial, trivial, trivial, trivial, Or.inr ⟨newHash, flag, rfl⟩, Or.inl trivial⟩
      · simp [same]
    · rcases List.any_eq_true.mp found with ⟨row, mem, same⟩
      simp only [decide_eq_true_eq] at same
      refine ⟨_, List.mem_map_of_mem mem, ?_⟩
      simp [same]

theorem UserTable.setRole_shows {table : UserTable} (shows : table.Shows)
    (writer : Library.SharedConnection.ThreadId) (id : ℤ) (newRole : Role) :
    (table.setRole writer id newRole).Shows ∧
      table.log <+: (table.setRole writer id newRole).log := by
  refine ⟨LogShown.append ⟨fun row mem => ?_⟩ trivial shows, List.prefix_append _ _⟩
  refine ⟨_, List.mem_map_of_mem mem, ?_⟩
  by_cases same : row.id = id
  · simp only [same, ↓reduceIte]
    exact ⟨trivial, trivial, trivial, trivial, Or.inl ⟨trivial, trivial⟩, Or.inr ⟨newRole, rfl⟩⟩
  · simp [same]

theorem UserStmt.run_shows (stmt : UserStmt) {db : Db} (shows : db.users.Shows) :
    (stmt.run db).2.Shows ∧ db.users.log <+: (stmt.run db).2.log := by
  cases stmt with
  | findByNickname nickname => exact ⟨shows, List.prefix_rfl⟩
  | findById id => exact ⟨shows, List.prefix_rfl⟩
  | create writer account nickname passwordHash now =>
      exact UserTable.insert_shows shows writer account nickname passwordHash now
  | updatePassword writer id newHash =>
      exact UserTable.setPassword_shows shows writer id newHash 0
  | resetPassword writer id newHash =>
      exact UserTable.setPassword_shows shows writer id newHash 1
  | countAdmins => exact ⟨shows, List.prefix_rfl⟩
  | updateRole writer id newRole => exact UserTable.setRole_shows shows writer id newRole

end Db

namespace Service

open Judge Db Library Library.SharedConnection

/-- An `INSERT` of a registration or an `UPDATE` of a reset that has written. -/
def isUserWrite : (Σ stmt, Reply stmt) → Bool
  | ⟨.users (.create ..), .row _⟩ => true
  | ⟨.users (.resetPassword ..), true⟩ => true
  | _ => false

/-- What the thread `id` has acknowledged with an event is in the log. -/
def Acknowledged (id : ThreadId) : Call → Event → Db → Prop
  | .register _, .registered (.success user), db =>
      ∃ stored : UserRecord, stored.load = user ∧
        { writer := id, change := .created stored } ∈ db.users.log
  | .resetPassword userId newHash, .passwordReset .updated, db =>
      { writer := id, change := .passwordSet userId newHash 1 } ∈ db.users.log
  | _, _, _ => True

theorem Acknowledged.mono {id : ThreadId} {call : Call} {event : Event} {before after : Db}
    (grows : before.users.log <+: after.users.log)
    (acknowledged : Acknowledged id call event before) :
    Acknowledged id call event after := by
  unfold Acknowledged at acknowledged ⊢
  split
  · rcases acknowledged with ⟨stored, isUser, mem⟩
    exact ⟨stored, isUser, grows.subset mem⟩
  · exact grows.subset acknowledged
  · trivial

/-- Any statement may be issued anywhere: the table of users shows its log at all times. -/
def userWriteContract (dump : Dump) : Contract (server dump) where
  Inv := fun _ => True
  Basic := fun db => db.users.Shows
  Grows := fun before after => before.users.log <+: after.users.log
  Used := fun _ => True
  Bare := fun _ => True
  Observed := fun _ => isUserWrite
  Promise := fun id call events db => ∀ event ∈ events, Acknowledged id call event db
  grows_refl := fun _ => List.prefix_rfl
  grows_trans := List.IsPrefix.trans
  bare_used := fun _ => trivial
  used_keeps := by
    intro stmt before reply after _ shows executed
    rcases users_of_execute executed with same | ⟨own, -, isRun⟩
    · rw [same]
      exact ⟨shows, List.prefix_rfl⟩
    · rw [isRun]
      exact own.run_shows shows
  bare_inv := fun _ _ _ _ => trivial
  promise_mono := fun grows acknowledged event mem => (acknowledged event mem).mono grows

section Safety

variable {dump : Dump} {id : ThreadId}

private theorem finish_safe {call : Call} {event : Event} {seen : Db}
    (acknowledged : Acknowledged id call event seen) :
    (userWriteContract dump).Safe ((userWriteContract dump).Promise id call)
      (Program.finish event) .idle seen [] :=
  ⟨by simpa [userWriteContract] using acknowledged, trivial⟩

/-- A registration is answered with the row that it has logged. -/
theorem insert_logged {table : UserTable} {writer : ThreadId}
    {account nickname passwordHash now : Bytes} {user : UserRecord}
    (inserted : (table.insert writer account nickname passwordHash now).1 = .row user) :
    ∃ stored : UserRecord, stored.load = user ∧
      { writer := writer, change := .created stored } ∈
        (table.insert writer account nickname passwordHash now).2.log := by
  unfold UserTable.insert at inserted ⊢
  split at inserted
  · cases inserted
  split at inserted
  · cases inserted
  rename_i freeNickname freeAccount
  rw [if_neg freeNickname, if_neg freeAccount]
  refine ⟨_, UserInsert.row.inj inserted, by simp⟩

theorem setPassword_logged {table : UserTable} {writer : ThreadId} {userId : ℤ}
    {newHash : Bytes} {flag : ℤ}
    (updated : (table.setPassword writer userId newHash flag).1 = true) :
    { writer := writer, change := .passwordSet userId newHash flag } ∈
      (table.setPassword writer userId newHash flag).2.log := by
  unfold UserTable.setPassword at updated ⊢
  split at updated
  case isTrue found => simp [found]
  case isFalse => cases updated

private theorem createUser_safe {request : RegisterRequest} (nickname hash now : Bytes)
    (attempts attempt : ℕ) (seen : Db) :
    (userWriteContract dump).Safe ((userWriteContract dump).Promise id (.register request))
      (createUser id request.generated nickname hash now attempts attempt) .idle seen [] := by
  induction attempts generalizing attempt seen with
  | zero => exact finish_safe trivial
  | succ attempts ih =>
      refine ⟨trivial, ?_, finish_safe trivial⟩
      rintro base before (user | _ | _) after known answered
      · refine finish_safe ?_
        rw [answered.observed rfl]
        rcases Prod.mk.inj (Option.some.inj answered.executed) with ⟨inserted, isAfter⟩
        exact isAfter ▸ insert_logged inserted
      · exact finish_safe trivial
      · exact ih _ _

private theorem registerUser_safe (request : RegisterRequest) (seen : Db) :
    (userWriteContract dump).Safe ((userWriteContract dump).Promise id (.register request))
      (registerUser id request) .idle seen [] := by
  unfold registerUser
  split
  · exact finish_safe trivial
  · exact finish_safe trivial
  · refine ⟨trivial, ?_, finish_safe trivial⟩
    rintro base before (_ | user) after known -
    · dsimp only
      split
      · exact finish_safe trivial
      · exact createUser_safe _ _ _ _ _ _
    · exact finish_safe trivial

private theorem resetPassword_safe (userId : ℤ) (newHash : Bytes) (seen : Db) :
    (userWriteContract dump).Safe
      ((userWriteContract dump).Promise id (.resetPassword userId newHash))
      (resetPassword id userId newHash) .idle seen [] := by
  refine ⟨trivial, ?_, finish_safe trivial⟩
  rintro base before (_ | _) after known answered
  · exact finish_safe trivial
  · refine finish_safe ?_
    rw [answered.observed rfl]
    rcases Prod.mk.inj (Option.some.inj answered.executed) with ⟨updated, isAfter⟩
    exact isAfter ▸ setPassword_logged updated

/-- The other calls acknowledge nothing about users. -/
private theorem other_serves (call : Call)
    (silent : ∀ event db, call.emits event → Acknowledged id call event db) :
    (userWriteContract dump).Serves id call := by
  refine Contract.Uses.serves (Call.uses dump id call)
    (fun stmt _ => ⟨trivial, fun _ _ _ _ _ _ => trivial⟩) (fun stmt _ => trivial) ?_
    fun db _ mem => absurd mem List.not_mem_nil
  intro event events db emits promised other mem
  rcases List.mem_append.mp mem with mem | mem
  · exact promised other mem
  · rw [List.mem_singleton.mp mem]
    exact silent event db emits

theorem serves_userWrites (call : Call) : (userWriteContract dump).Serves id call := by
  cases call with
  | register request =>
      exact fun db _ _ =>
        ⟨fun _ mem => absurd mem List.not_mem_nil, registerUser_safe request db⟩
  | resetPassword userId newHash =>
      exact fun db _ _ =>
        ⟨fun _ mem => absurd mem List.not_mem_nil, resetPassword_safe userId newHash db⟩
  | _ => exact other_serves _ fun event _ _ => by cases event <;> trivial

end Safety

/-- The write that an event acknowledges is in the table. -/
def AcknowledgedPresent (id : ThreadId) : Call → Event → Db → Prop
  | .register _, .registered (.success user), db =>
      ∃ stored : UserRecord, stored.load = user ∧
        UserWrite.Present { writer := id, change := .created stored } db
  | .resetPassword userId newHash, .passwordReset .updated, db =>
      UserWrite.Present { writer := id, change := .passwordSet userId newHash 1 } db
  | _, _, _ => True

theorem Acknowledged.present {id : ThreadId} {call : Call} {event : Event} {db : Db}
    (shows : db.users.Shows) (acknowledged : Acknowledged id call event db) :
    AcknowledgedPresent id call event db := by
  unfold AcknowledgedPresent
  split
  · rcases acknowledged with ⟨stored, isUser, mem⟩
    exact ⟨stored, isUser, LogShown.present shows mem⟩
  · exact LogShown.present shows acknowledged
  · trivial

/-- In a run in which no transaction that such a write has joined is abandoned, every
acknowledged write is in the committed table whenever no transaction is open. -/
theorem acknowledged_write_present {dump : Dump} {start : Db} {state : State}
    (noHistory : start.users.log = [])
    (reaches : (server dump).system.Reaches
      (fun before label => ¬Undoes (fun _ => isUserWrite) before label) (.initial start) state)
    (ended : state.transaction = none) {id : ThreadId}
    {thread : SharedConnection.Thread Reply Event Call}
    (born : state.threads id = some thread) {event : Event} (returned : event ∈ thread.events) :
    AcknowledgedPresent id thread.call event state.committed := by
  have shows : start.users.Shows := by
    rw [UserTable.Shows, noHistory]
    trivial
  have sound : (userWriteContract dump).Sound state :=
    Contract.Sound.of_reaches reaches (Contract.Sound.initial shows trivial)
      (fun before call _ => serves_userWrites call)
      fun before label kept undoes => absurd undoes kept
  refine Acknowledged.present sound.committed_basic (sound.promised born ?_ event returned)
  intro transaction isOpen
  rw [ended] at isOpen
  cases isOpen

section Runs

def oneUser : Db :=
  { users :=
      { rows :=
          [{ id := 1, account := [97], nickname := [98], passwordHash := [1], role := .user
             resetPwdFlag := 0, createdAt := [50] }]
        nextId := 2 } }

/-- A change of password runs up to its `UPDATE`, a reset joins its transaction, and the change
commits. -/
def joinedSchedule : List Label :=
  [.start
      (.changePassword { userId := 1, newHash := some [2], verifies := fun _ => some true }),
    .run 0 true, .run 0 true, .run 0 true, .run 0 true, .start (.resetPassword 1 [9]),
    .run 1 true, .run 1 true, .run 0 true, .run 0 true, .run 0 true]

theorem acknowledged_write_present_joined :
    ∃ state : State,
      (server fun _ => some []).system.run (.initial oneUser) joinedSchedule = some state ∧
        UserWrite.Present { writer := 1, change := .passwordSet 1 [9] 1 } state.committed := by
  have execution : ∃ state : State,
      (server fun _ => some []).system.run (.initial oneUser) joinedSchedule = some state ∧
        state.transaction = none ∧
          ∃ thread, state.threads 1 = some thread ∧ thread.call = .resetPassword 1 [9] ∧
            Event.passwordReset .updated ∈ thread.events :=
    ⟨_, rfl, rfl, _, rfl, rfl, List.mem_cons_self⟩
  rcases execution with ⟨state, execution, ended, thread, born, isCall, returned⟩
  refine ⟨state, execution, ?_⟩
  have admits : (server fun _ => some []).system.Admits
      (fun before label => ¬Undoes (fun _ => isUserWrite) before label) (.initial oneUser)
      joinedSchedule := by decide
  have present := acknowledged_write_present rfl
    (TransitionSystem.reaches_of_run admits execution) ended born returned
  rw [isCall] at present
  exact present

def lostSchedule : List Label :=
  [.start
      (.changePassword { userId := 1, newHash := some [2], verifies := fun _ => some false }),
    .run 0 true, .run 0 true, .run 0 true, .start (.resetPassword 1 [9]), .run 1 true,
    .run 1 true, .run 0 true, .run 0 true, .run 0 true]

/-- The reset joins the transaction of a change of password whose old password is wrong, and is
rolled back with it. -/
theorem acknowledged_write_lost :
    ¬∀ (state : State) (id : ThreadId) (thread : SharedConnection.Thread Reply Event Call)
        (event : Event),
      (server fun _ => some []).system.Reaches TransitionSystem.Unrestricted
          (.initial oneUser) state →
        state.transaction = none → state.threads id = some thread → event ∈ thread.events →
          AcknowledgedPresent id thread.call event state.committed := by
  intro claim
  have execution : ∃ state : State,
      (server fun _ => some []).system.run (.initial oneUser) lostSchedule = some state ∧
        state.transaction = none ∧ state.committed.users.log = [] ∧
          ∃ thread, state.threads 1 = some thread ∧ thread.call = .resetPassword 1 [9] ∧
            Event.passwordReset .updated ∈ thread.events :=
    ⟨_, rfl, rfl, rfl, _, rfl, rfl, List.mem_cons_self⟩
  rcases execution with ⟨state, execution, ended, empty, thread, born, isCall, returned⟩
  have present := claim state 1 thread _
    (TransitionSystem.reaches_of_run (TransitionSystem.admits_unrestricted _ _) execution) ended
    born returned
  rw [isCall] at present
  rcases present with ⟨before, later, logged, -⟩
  rw [empty] at logged
  simp at logged

end Runs

end Service

end OnlineJudge
