import Mathlib.Data.List.Nodup
import OnlineJudge.Library.Linearization
import OnlineJudge.Library.Relational
import OnlineJudge.Service.Footprint

/-!
# Administrators

Roles change in one place only, the transaction of `change_role`, which counts the
administrators before it takes the role from one of them. The committed contents never
lose their last administrator, and the answer is the one for the contents with which the
transaction began.
-/

namespace OnlineJudge

namespace Db

open Library Library.SharedConnection

namespace UserTable

/-- The identifiers of the users with the role of an administrator. -/
def admins (table : UserTable) : List ℤ := (table.rows.filter (·.role = .admin)).map (·.id)

/-- Identifiers are unique and below the counter. -/
structure WellFormed (table : UserTable) : Prop where
  ids : (table.rows.map (·.id)).Nodup
  bounded : ∀ row ∈ table.rows, row.id < table.nextId

variable {table : UserTable}

theorem mem_admins {id : ℤ} :
    id ∈ table.admins ↔ ∃ row ∈ table.rows, row.role = .admin ∧ row.id = id := by
  simp [admins, and_assoc]

theorem WellFormed.admins_nodup (wellFormed : table.WellFormed) : table.admins.Nodup :=
  wellFormed.ids.sublist (List.filter_sublist.map _)

/-- There is one row for each identifier. -/
theorem WellFormed.row_unique (wellFormed : table.WellFormed) {row other : UserRecord}
    (mem : row ∈ table.rows) (otherMem : other ∈ table.rows) (same : row.id = other.id) :
    row = other :=
  List.inj_on_of_nodup_map wellFormed.ids mem otherMem same

section Writes

variable (writer : ThreadId) (id : ℤ)

/-- A new row takes its identifier from the counter. -/
theorem WellFormed.append (wellFormed : table.WellFormed) {row : UserRecord}
    (fresh : row.id = table.nextId) {log : List UserWrite} :
    WellFormed { rows := table.rows ++ [row], nextId := table.nextId + 1, log := log } := by
  have appended := Library.keys_append_next wellFormed.ids wellFormed.bounded fresh
  exact ⟨appended.1, appended.2⟩

theorem insert_wellFormed (wellFormed : table.WellFormed)
    (account nickname passwordHash now : Bytes) :
    (table.insert writer account nickname passwordHash now).2.WellFormed := by
  rw [insert]
  split
  · exact wellFormed
  split
  · exact wellFormed
  exact wellFormed.append rfl

theorem insert_admins (account nickname passwordHash now : Bytes) :
    (table.insert writer account nickname passwordHash now).2.admins = table.admins := by
  rw [insert]
  split
  · rfl
  split
  · rfl
  simp [admins]

/-- An update that leaves the identifiers alone. -/
theorem WellFormed.map (wellFormed : table.WellFormed) {change : UserRecord → UserRecord}
    (same : ∀ row, (change row).id = row.id) (log : List UserWrite) :
    WellFormed { table with rows := table.rows.map change, log := log } := by
  constructor
  · have ids : (table.rows.map change).map (·.id) = table.rows.map (·.id) := by
      simp [Function.comp_def, same]
    exact ids ▸ wellFormed.ids
  · intro row mem
    rcases List.mem_map.mp mem with ⟨before, beforeMem, rfl⟩
    rw [same]
    exact wellFormed.bounded before beforeMem

theorem setPassword_wellFormed (wellFormed : table.WellFormed) (newHash : Bytes) (flag : ℤ) :
    (table.setPassword writer id newHash flag).2.WellFormed := by
  rw [setPassword]
  split
  · apply wellFormed.map
    intro row
    split <;> rfl
  · exact wellFormed

theorem setPassword_admins (newHash : Bytes) (flag : ℤ) :
    (table.setPassword writer id newHash flag).2.admins = table.admins := by
  rw [setPassword]
  split
  · simp only [admins, List.filter_map, List.map_map]
    have role : ∀ row : UserRecord, (if row.id = id then
        { row with passwordHash := newHash, resetPwdFlag := flag } else row).role = row.role := by
      intro row
      split <;> rfl
    have ident : ∀ row : UserRecord, (if row.id = id then
        { row with passwordHash := newHash, resetPwdFlag := flag } else row).id = row.id := by
      intro row
      split <;> rfl
    simp [Function.comp_def, role, ident]
  · rfl

theorem setRole_wellFormed (wellFormed : table.WellFormed) (newRole : Role) :
    (table.setRole writer id newRole).WellFormed := by
  apply wellFormed.map
  intro row
  split <;> rfl

/-- A new role leaves the other users' roles alone. -/
theorem mem_admins_setRole {newRole : Role} {other : ℤ} (mem : other ∈ table.admins)
    (stays : newRole = .admin ∨ other ≠ id) :
    other ∈ (table.setRole writer id newRole).admins := by
  rcases mem_admins.mp mem with ⟨row, rowMem, isAdmin, rfl⟩
  refine mem_admins.mpr ⟨_, List.mem_map_of_mem rowMem, ?_, ?_⟩
  · split
    · rename_i same
      rcases stays with promoted | differs
      · exact promoted
      · exact absurd same differs
    · exact isAdmin
  · split <;> rfl

/-- After a change of role there is an administrator, unless the only one loses the role. -/
theorem setRole_admins_ne_nil (wellFormed : table.WellFormed) (has : table.admins ≠ [])
    {newRole : Role} (others : ¬(table.admins = [id] ∧ newRole ≠ .admin)) :
    (table.setRole writer id newRole).admins ≠ [] := by
  rcases List.exists_cons_of_ne_nil has with ⟨first, rest, admins_eq⟩
  have kept : ∃ other ∈ table.admins, newRole = .admin ∨ other ≠ id := by
    by_cases promoted : newRole = .admin
    · exact ⟨first, admins_eq ▸ List.mem_cons_self, .inl promoted⟩
    · by_cases isFirst : first = id
      · have notOnly : rest ≠ [] := by
          rintro rfl
          exact others ⟨isFirst ▸ admins_eq, promoted⟩
        rcases List.exists_cons_of_ne_nil notOnly with ⟨second, more, rfl⟩
        have distinct := wellFormed.admins_nodup
        rw [admins_eq, isFirst] at distinct
        refine ⟨second, by simp [admins_eq], .inr ?_⟩
        rintro rfl
        simp at distinct
      · exact ⟨first, admins_eq ▸ List.mem_cons_self, .inr isFirst⟩
  rcases kept with ⟨other, mem, stays⟩
  exact List.ne_nil_of_mem (mem_admins_setRole writer id mem stays)

end Writes

end UserTable

theorem UserStmt.run_wellFormed (stmt : UserStmt) {db : Db} (wellFormed : db.users.WellFormed) :
    (stmt.run db).2.WellFormed := by
  cases stmt with
  | findByNickname | findById | countAdmins => exact wellFormed
  | create writer account nickname passwordHash now =>
      exact UserTable.insert_wellFormed writer wellFormed account nickname passwordHash now
  | updatePassword writer id newHash =>
      exact UserTable.setPassword_wellFormed writer id wellFormed newHash 0
  | resetPassword writer id newHash =>
      exact UserTable.setPassword_wellFormed writer id wellFormed newHash 1
  | updateRole writer id newRole => exact UserTable.setRole_wellFormed writer id wellFormed newRole

/-- Every statement but the `UPDATE` of a role. -/
def LeavesRoles : Stmt → Prop
  | .users (.updateRole ..) => False
  | _ => True

variable {stmt : Stmt} {before after : Db} {reply : Reply stmt}

theorem wellFormed_of_execute (wellFormed : before.users.WellFormed)
    (executed : execute stmt before = some (reply, after)) : after.users.WellFormed := by
  rcases users_of_execute executed with same | ⟨own, rfl, users_eq⟩
  · exact same ▸ wellFormed
  · exact users_eq ▸ own.run_wellFormed wellFormed

theorem LeavesRoles.admins_eq (leaves : LeavesRoles stmt)
    (executed : execute stmt before = some (reply, after)) :
    after.users.admins = before.users.admins := by
  rcases users_of_execute executed with same | ⟨own, rfl, users_eq⟩
  · rw [same]
  · rw [users_eq]
    cases own with
    | findByNickname | findById | countAdmins => rfl
    | create writer account nickname passwordHash now =>
        exact UserTable.insert_admins writer account nickname passwordHash now
    | updatePassword writer id newHash => exact UserTable.setPassword_admins writer id newHash 0
    | resetPassword writer id newHash => exact UserTable.setPassword_admins writer id newHash 1
    | updateRole => exact leaves.elim

theorem findUser_executed {id : ℤ} {found : Option UserRecord}
    (executed : execute (.users (.findById id)) before = some (found, after)) :
    after = before ∧ (before.users.rows.find? (·.id = id)).map UserRecord.load = found := by
  rcases Prod.mk.inj (Option.some.inj executed) with ⟨answer, same⟩
  exact ⟨same.symm, answer⟩

theorem countAdmins_executed {adminCount : ℕ}
    (executed : execute (.users .countAdmins) before = some (adminCount, after)) :
    after = before ∧ adminCount = before.users.admins.length := by
  rcases Prod.mk.inj (Option.some.inj executed) with ⟨answer, same⟩
  refine ⟨same.symm, ?_⟩
  rw [← answer, UserTable.admins, List.length_map]
  rfl

end Db

namespace Service

open Judge Db Library Library.SharedConnection

/-- The role is taken from the only administrator. -/
def DemotesOnly (db : Db) (userId : ℤ) (newRole : Role) : Prop :=
  db.users.admins = [userId] ∧ newRole ≠ .admin

/-- What `change_role` has to answer for the contents with which its transaction began, after a
commit (`true`) or a rollback. -/
inductive RoleAnswer (fails : Prop) (userId : ℤ) (newRole : Role) (base : Db) :
    Bool → Event → Prop where
  | lastAdmin (only : DemotesOnly base userId newRole) :
      RoleAnswer fails userId newRole base false (.roleChanged .lastAdmin)
  | plain {committed : Bool} {status : RoleStatus}
      (isPlain : status = .updated ∨ status = .notFound)
      (others : ¬DemotesOnly base userId newRole) :
      RoleAnswer fails userId newRole base committed (.roleChanged status)
  | error {committed : Bool} (failed : fails) :
      RoleAnswer fails userId newRole base committed (.roleChanged .error)

/-- There is an administrator, and only the statement that changes roles can take one away. -/
def roleContract (dump : Dump) : Contract (server dump) where
  Inv := fun db => db.users.admins ≠ []
  Basic := fun db => db.users.WellFormed
  Grows := fun _ _ => True
  Used := fun _ => True
  Bare := LeavesRoles
  Observed := fun _ _ => false
  Promise := fun _ _ _ _ => True
  grows_refl := fun _ => trivial
  grows_trans := fun _ _ => trivial
  bare_used := fun _ => trivial
  used_keeps := fun _ wellFormed executed => ⟨wellFormed_of_execute wellFormed executed, trivial⟩
  bare_inv := fun leaves _ has executed => leaves.admins_eq executed ▸ has
  promise_mono := fun _ _ => trivial

section Transaction

variable {dump : Dump} {fails : Prop} {writer : ThreadId} {userId : ℤ} {newRole : Role}
  {base work : Db}

theorem admins_of_interferes {later : Db}
    (interferes : (roleContract dump).Interferes work later) :
    later.users.admins = work.users.admins := by
  induction interferes with
  | refl => rfl
  | tail _ edge ih =>
      rcases edge with ⟨stmt, reply, leaves, executed⟩
      exact (LeavesRoles.admins_eq leaves executed).trans ih

theorem rollback_decides {status : RoleStatus}
    (answer : RoleAnswer fails userId newRole base false (.roleChanged status)) :
    (roleContract dump).Decides fails (RoleAnswer fails userId newRole base)
      (Program.rollbackWith (.roleChanged status)) work :=
  ⟨_, rfl, answer⟩

theorem updateRole_decides (has : base.users.admins ≠ [])
    (others : ¬DemotesOnly base userId newRole) (same : work.users.admins = base.users.admins) :
    (roleContract dump).Decides fails (RoleAnswer fails userId newRole base)
      (updateRole writer userId newRole) work := by
  refine ⟨trivial, ?_⟩
  intro later wellFormed interferes
  have later_eq := (admins_of_interferes interferes).trans same
  constructor
  · intro reply after executed
    rcases Option.some.inj executed with ⟨⟩
    have kept : (later.users.setRole writer userId newRole).admins ≠ [] := by
      apply UserTable.setRole_admins_ne_nil writer userId wellFormed
      · rwa [later_eq]
      · rwa [later_eq]
    refine ⟨?_, _, rfl, .plain (.inl rfl) others⟩
    intro last _ joined
    refine ⟨?_, fun failed => rollback_decides (.error failed)⟩
    change last.users.admins ≠ []
    rwa [admins_of_interferes joined]
  · rintro (failed | refused)
    · exact rollback_decides (.error failed)
    · cases refused

/-- The only administrator is found under its identifier. -/
theorem find?_onlyAdmin {db : Db} (wellFormed : db.users.WellFormed)
    (only : db.users.admins = [userId]) :
    ∃ row, db.users.rows.find? (·.id = userId) = some row ∧ row.role = .admin := by
  have mem : userId ∈ db.users.admins := by simp [only]
  rcases UserTable.mem_admins.mp mem with ⟨row, rowMem, isAdmin, isId⟩
  cases found : db.users.rows.find? (·.id = userId) with
  | none =>
      have absent := List.find?_eq_none.mp found row rowMem
      simp [isId] at absent
  | some other =>
      have otherId : other.id = userId := by simpa using List.find?_some found
      have same := wellFormed.row_unique (List.mem_of_find?_eq_some found) rowMem
        (otherId.trans isId.symm)
      exact ⟨other, rfl, same ▸ isAdmin⟩

/-- The count finds more than one administrator, or the only one. -/
theorem countAdmins_decides {next : Option ℕ → Program} (has : base.users.admins ≠ [])
    (demotes : newRole ≠ .admin) (isAdmin : userId ∈ base.users.admins)
    (same : work.users.admins = base.users.admins)
    (failed_next : next none = Program.rollbackWith (.roleChanged .error))
    (counted : ∀ adminCount, next (some adminCount) =
      if adminCount ≤ 1 then Program.rollbackWith (.roleChanged .lastAdmin)
      else updateRole writer userId newRole) :
    (roleContract dump).Decides fails (RoleAnswer fails userId newRole base)
      (.exec (.users .countAdmins) next) work := by
  refine ⟨trivial, ?_⟩
  intro later wellFormed interferes
  have later_eq := (admins_of_interferes interferes).trans same
  constructor
  · intro adminCount after executed
    rcases countAdmins_executed executed with ⟨rfl, count_eq⟩
    rw [later_eq] at count_eq
    rw [counted, count_eq]
    split
    · rename_i atMostOne
      obtain ⟨only, only_eq⟩ := List.length_eq_one_iff.mp
        (Nat.le_antisymm atMostOne (List.length_pos_of_ne_nil has))
      rw [only_eq, List.mem_singleton] at isAdmin
      exact rollback_decides (.lastAdmin ⟨isAdmin ▸ only_eq, demotes⟩)
    · rename_i several
      refine updateRole_decides has ?_ later_eq
      rintro ⟨only, -⟩
      simp [only] at several
  · rintro (failed | refused)
    · rw [failed_next]
      exact rollback_decides (.error failed)
    · cases refused

/-- The target is read first; only an administrator who loses the role needs the count. -/
theorem findTarget_decides {next : Option (Option UserRecord) → Program}
    {count : Option ℕ → Program} (has : base.users.admins ≠ [])
    (failed_next : next none = Program.rollbackWith (.roleChanged .error))
    (missing : next (some none) = Program.rollbackWith (.roleChanged .notFound))
    (found : ∀ record : UserRecord, next (some (some record)) =
      if record.role = .admin ∧ newRole ≠ .admin then .exec (.users .countAdmins) count
      else updateRole writer userId newRole)
    (failed_count : count none = Program.rollbackWith (.roleChanged .error))
    (counted : ∀ adminCount, count (some adminCount) =
      if adminCount ≤ 1 then Program.rollbackWith (.roleChanged .lastAdmin)
      else updateRole writer userId newRole) :
    (roleContract dump).Decides fails (RoleAnswer fails userId newRole base)
      (.exec (.users (.findById userId)) next) base := by
  refine ⟨trivial, ?_⟩
  intro later wellFormed interferes
  have later_eq := admins_of_interferes interferes
  constructor
  · intro target after executed
    rcases findUser_executed executed with ⟨rfl, target_eq⟩
    have only_found : base.users.admins = [userId] →
        ∃ row, after.users.rows.find? (·.id = userId) = some row ∧ row.role = .admin :=
      fun only => find?_onlyAdmin wellFormed (later_eq.trans only)
    cases target with
    | none =>
        rw [missing]
        refine rollback_decides (.plain (.inr rfl) ?_)
        rintro ⟨only, -⟩
        rcases only_found only with ⟨row, isRow, -⟩
        simp [isRow] at target_eq
    | some record =>
        rcases Option.map_eq_some_iff.mp target_eq with ⟨row, isRow, rfl⟩
        rw [found]
        split
        · rename_i demotes
          refine countAdmins_decides has demotes.2 ?_ later_eq failed_count counted
          rw [← later_eq]
          exact UserTable.mem_admins.mpr ⟨row, List.mem_of_find?_eq_some isRow, demotes.1, by
            simpa using List.find?_some isRow⟩
        · rename_i keeps
          refine updateRole_decides has ?_ later_eq
          rintro ⟨only, demotes⟩
          rcases only_found only with ⟨other, isOther, isAdmin⟩
          rw [isRow] at isOther
          rcases Option.some.inj isOther with rfl
          exact keeps ⟨isAdmin, demotes⟩
  · rintro (failed | refused)
    · rw [failed_next]
      exact rollback_decides (.error failed)
    · cases refused

/-- `change_role` is one transaction, which answers for the contents with which it began. -/
theorem changeRole_decides (dump : Dump) (writer : ThreadId) (userId : ℤ) (newRole : Role) :
    ∃ rest, changeRole writer userId newRole = .lock (.begin rest) ∧
      rest false = .unlock (.emit (.roleChanged .error) .done) ∧
      ∀ (fails : Prop) (base : Db), base.users.admins ≠ [] →
        (roleContract dump).Decides fails (RoleAnswer fails userId newRole base) (rest true)
          base := by
  refine ⟨_, rfl, rfl, ?_⟩
  intro fails base has
  exact findTarget_decides has rfl rfl (fun _ => rfl) rfl fun _ => rfl

end Transaction

section Serves

variable {dump : Dump} {call : Call} {stmt : Stmt}

/-- The statement that changes roles belongs to the transactions of `change_role`. -/
theorem Call.inside_leavesRoles (isOther : ∀ userId newRole, call ≠ .changeRole userId newRole)
    (inside : call.inside stmt) : LeavesRoles stmt := by
  cases stmt with
  | problems | testcases | submissions | statuses | inFlight => trivial
  | users own =>
      cases own with
      | findByNickname | findById | create | updatePassword | resetPassword | countAdmins =>
          trivial
      | updateRole writer id newRole =>
          cases call with
          | changeRole => exact absurd rfl (isOther _ _)
          | handle task judge now =>
              simp only [Call.inside] at inside
              split at inside <;> exact inside.elim
          | _ => exact inside.elim

theorem Call.outside_leavesRoles (outside : call.outside stmt) : LeavesRoles stmt := by
  unfold Call.outside at outside
  split at outside
  all_goals trivial

theorem serves_roles (id : ThreadId) (call : Call) : (roleContract dump).Serves id call := by
  have others (isOther : ∀ userId newRole, call ≠ .changeRole userId newRole) :
      (roleContract dump).Serves id call := by
    refine Contract.Uses.serves (Call.uses dump id call) ?_
      (fun _ outside => Call.outside_leavesRoles outside) (fun _ _ _ _ _ => trivial)
      fun _ => trivial
    intro stmt inside
    refine ⟨trivial, ?_⟩
    intro before reply after _ has executed
    have leaves := Call.inside_leavesRoles isOther inside
    change after.users.admins ≠ []
    rwa [leaves.admins_eq executed]
  cases call with
  | changeRole userId newRole =>
      obtain ⟨rest, isTransaction, refusal, decides⟩ :=
        changeRole_decides dump id userId newRole
      intro db _ _
      refine ⟨trivial, ?_⟩
      change (roleContract dump).Safe _ (changeRole id userId newRole) _ _ _
      rw [isTransaction]
      refine ⟨?_, ?_⟩
      · intro base wellFormed has _
        exact (decides True base has).safe (fun _ _ => trivial) wellFormed
      · rw [refusal]
        exact ⟨trivial, trivial⟩
  | _ => exact others nofun

/-- No run from contents with an administrator loses the last one. -/
theorem roleSound_of_reaches {allowed : State → Label → Prop} {state next : State}
    (sound : (roleContract dump).Sound state)
    (reaches : (server dump).system.Reaches allowed state next) :
    (roleContract dump).Sound next :=
  Contract.Sound.of_reaches reaches sound (fun before call _ => serves_roles _ call) <| by
    rintro before label - ⟨-, transaction, -, answered, -, observed⟩
    cases observed

end Serves

section Answers

variable {dump : Dump}

/-- The calls of a thread to the database fail only if `fails`. -/
def FailsOnly (id : ThreadId) (fails : Prop) (_ : State) (label : Label) : Prop :=
  label = .run id false → fails

/-- How a call of `change_role`, running in a thread from one state to another, may be answered:
with an error, or as the contents demand on which its transaction began on the way. -/
inductive RoleAnswered (dump : Dump) (fails : Prop) (id : ThreadId) (userId : ℤ) (newRole : Role)
    (started after : State) (status : RoleStatus) : Prop where
  | failed (isError : status = .error) (failed : fails)
  | decided {before begun : State}
      (first : (server dump).system.Reaches (FailsOnly id fails) started before)
      (closed : before.transaction = none)
      (begins : (server dump).system.step before (.run id true) = some begun)
      (afterwards : (server dump).system.Reaches (FailsOnly id fails) begun after)
      (noError : status ≠ .error)
      (exactly : status = .lastAdmin ↔ DemotesOnly before.committed userId newRole)
      (unchanged : status = .lastAdmin →
        Contract.Undone (server dump) (FailsOnly id fails) begun after before.committed)

theorem roleAnswered {state started after : State} (sound : (roleContract dump).Sound state)
    {userId : ℤ} {newRole : Role} {fails : Prop}
    (starts : (server dump).system.step state (.start (.changeRole userId newRole)) = some started)
    (reaches : (server dump).system.Reaches (FailsOnly state.nextThread fails) started after)
    {last : SharedConnection.Thread Reply Event Call}
    (born : after.threads state.nextThread = some last) (done : last.program = some .done) :
    ∃ status, last.events = [.roleChanged status] ∧
      RoleAnswered dump fails state.nextThread userId newRole started after status := by
  have spawned : (server dump).system.Reaches TransitionSystem.Unrestricted state started :=
    Relation.ReflTransGen.single ⟨_, trivial, starts⟩
  have started_sound := roleSound_of_reaches sound spawned
  rcases Option.some.inj starts with rfl
  obtain ⟨rest, isTransaction, refusal, decides⟩ :=
    changeRole_decides dump state.nextThread userId newRole
  obtain ⟨later, laterBorn, called⟩ := Contract.called_of_reaches reaches
    (fun _ => roleSound_of_reaches started_sound) (fun _ isAllowed => isAllowed rfl)
    ((server dump).spawn_new state _) (congrArg some isTransaction)
    (fun base _ has => decides fails base has) refusal
  rw [born] at laterBorn
  rcases Option.some.inj laterBorn with rfl
  cases called with
  | waits events alive => simp [done] at alive
  | crashed lost => simp [done] at lost
  | refused failed returning =>
      exact ⟨.error, returning.events_of_done done, .failed rfl failed⟩
  | began first closed begins afterwards decided =>
      cases decided with
      | crashed lost => simp [done] at lost
      | inside holds committed is_open own events alive decides =>
          rw [done] at alive
          rcases Option.some.inj alive with rfl
          exact decides.elim
      | returns demanded undone returning =>
          have events := returning.events_of_done done
          cases demanded with
          | error failed => exact ⟨.error, events, .failed rfl failed⟩
          | lastAdmin only =>
              refine ⟨.lastAdmin, events, .decided first closed begins afterwards nofun ?_ ?_⟩
              · exact ⟨fun _ => only, fun _ => rfl⟩
              · exact fun _ => undone rfl
          | plain isPlain others =>
              rename_i status
              have noError : status ≠ .error := by
                rcases isPlain with rfl | rfl <;> nofun
              have notLast : status ≠ .lastAdmin := by
                rcases isPlain with rfl | rfl <;> nofun
              refine ⟨status, events, .decided first closed begins afterwards noError ?_ ?_⟩
              · exact ⟨fun isLast => absurd isLast notLast, fun only => absurd only others⟩
              · exact fun isLast => absurd isLast notLast

end Answers

end Service

end OnlineJudge
