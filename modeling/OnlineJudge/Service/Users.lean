import OnlineJudge.Service.Program

/-!
# Users

`RegisterService`, `ChangePasswordService` and the writes of `UserAdminStore`.
Registration and the reset of a password are single statements without the mutex; the
other two are transactions. Validation, hashing and the account generator do not touch
the database: a request carries what they yield.
-/

namespace OnlineJudge

namespace Service

open Judge Db Library Library.SharedConnection

structure RegisterRequest where
  /-- The answer of `validate_nickname`: an error text, or the normalised nickname. -/
  nickname : Except Bytes Bytes
  /-- The error text of `validate_password`, if it refuses the password. -/
  passwordError : Option Bytes
  /-- The answer of `hash_password`. -/
  hash : Option Bytes
  /-- The accounts that the generator yields, attempt by attempt. -/
  generated : ℕ → Bytes
  maxAccountAttempts : ℕ
  /-- The database's clock. -/
  now : Bytes

/-- The loop over accounts: a taken account is replaced by a new one. -/
def createUser (writer : ThreadId) (generated : ℕ → Bytes) (nickname hash now : Bytes) :
    (attempts attempt : ℕ) → Program
  | 0, _ => Program.finish (.registered .internalError)
  | attempts + 1, attempt =>
      .exec (.users (.create writer (generated attempt) nickname hash now)) fun
        | none => Program.finish (.registered .internalError)
        | some (.row user) => Program.finish (.registered (.success user))
        | some .nicknameTaken => Program.finish (.registered .nicknameTaken)
        | some .accountTaken =>
            createUser writer generated nickname hash now attempts (attempt + 1)

def registerUser (writer : ThreadId) (request : RegisterRequest) : Program :=
  match request.nickname, request.passwordError with
  | .error text, _ => Program.finish (.registered (.invalidNickname text))
  | .ok _, some text => Program.finish (.registered (.invalidPassword text))
  | .ok nickname, none =>
      .exec (.users (.findByNickname nickname)) fun
        | none => Program.finish (.registered .internalError)
        | some (some _) => Program.finish (.registered .nicknameTaken)
        | some none =>
            match request.hash with
            | none => Program.finish (.registered .internalError)
            | some hash =>
                createUser writer request.generated nickname hash request.now
                  request.maxAccountAttempts 0

def resetPassword (writer : ThreadId) (userId : ℤ) (newHash : Bytes) : Program :=
  .exec (.users (.resetPassword writer userId newHash)) fun
    | none => Program.finish (.passwordReset .error)
    | some true => Program.finish (.passwordReset .updated)
    | some false => Program.finish (.passwordReset .notFound)

structure PasswordRequest where
  userId : ℤ
  /-- The answer of `hash_password` for the new password. -/
  newHash : Option Bytes
  /-- The answer of `verify_password` for the old password; `none` when it reports an error. -/
  verifies : (encoded : Bytes) → Option Bool

def changePassword (writer : ThreadId) (request : PasswordRequest) : Program :=
  let failure := Event.passwordChanged .internalError
  match request.newHash with
  | none => Program.finish failure
  | some newHash =>
      Program.beginWith failure <|
        .exec (.users (.findById request.userId)) fun
          | none => Program.rollbackWith failure
          | some none => Program.rollbackWith (.passwordChanged .userNotFound)
          | some (some record) =>
              match request.verifies record.passwordHash with
              | none => Program.rollbackWith failure
              | some false => Program.rollbackWith (.passwordChanged .invalidOldPassword)
              | some true =>
                  .exec (.users (.updatePassword writer request.userId newHash)) fun
                    | none => Program.rollbackWith failure
                    | some false => Program.rollbackWith (.passwordChanged .userNotFound)
                    | some true => Program.commitWith (.passwordChanged .success) failure

/-- The `UPDATE` of a role and the commit. -/
def updateRole (writer : ThreadId) (userId : ℤ) (newRole : Role) : Program :=
  .exec (.users (.updateRole writer userId newRole)) fun
    | none => Program.rollbackWith (.roleChanged .error)
    | some () => Program.commitWith (.roleChanged .updated) (.roleChanged .error)

/-- `UserAdminStore::change_role`: the last administrator keeps the role. -/
def changeRole (writer : ThreadId) (userId : ℤ) (newRole : Role) : Program :=
  let failure := Event.roleChanged .error
  Program.beginWith failure <|
    .exec (.users (.findById userId)) fun
      | none => Program.rollbackWith failure
      | some none => Program.rollbackWith (.roleChanged .notFound)
      | some (some record) =>
          if record.role = .admin ∧ newRole ≠ .admin then
            .exec (.users .countAdmins) fun
              | none => Program.rollbackWith failure
              | some adminCount =>
                  if adminCount ≤ 1 then Program.rollbackWith (.roleChanged .lastAdmin)
                  else updateRole writer userId newRole
          else updateRole writer userId newRole

end Service

end OnlineJudge
