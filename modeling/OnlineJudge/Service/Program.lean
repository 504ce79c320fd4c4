import OnlineJudge.Db.Statement

/-!
# Programs of the services

A call of a service is a program over the shared connection. What it returns, and what
it hands to another component on its way, are its events. Log lines are left out.
-/

namespace OnlineJudge

namespace Service

open Judge Db Library

inductive PersistKind where
  | ok
  | problemNotFound
  | internalError
  deriving DecidableEq, Repr

inductive Kind where
  | ok
  | problemNotFound
  | alreadySettled
  | internalError
  deriving DecidableEq, Repr

/-- `SubmitService::Outcome`; the submission and the result are set on success. -/
structure Outcome where
  kind : Kind := .internalError
  submission : Option SubmissionRecord := none
  judge : JudgeResult := {}
  error : Bytes := []
  deriving DecidableEq

inductive UpdateStatus where
  | updated
  | notFound
  | error
  deriving DecidableEq, Repr

inductive DeleteStatus where
  | deleted
  | notFound
  | hasSubmissions
  | error
  deriving DecidableEq, Repr

/-- `TestcaseAdminStore::CreateStatus`, with the new `id` and `ord`. -/
inductive CreateStatus where
  | created (id ord : ℤ)
  | problemNotFound
  | ordExhausted
  | error
  deriving DecidableEq, Repr

inductive RegisterOutcome where
  | success (user : UserRecord)
  | invalidNickname (error : Bytes)
  | invalidPassword (error : Bytes)
  | nicknameTaken
  | internalError
  deriving DecidableEq, Repr

/-- `ChangePasswordService::Outcome`. -/
inductive PasswordOutcome where
  | success
  | invalidOldPassword
  | userNotFound
  | internalError
  deriving DecidableEq, Repr

inductive RoleStatus where
  | updated
  | notFound
  | lastAdmin
  | error
  deriving DecidableEq, Repr

inductive Event where
  | persisted (kind : PersistKind) (taskId : TaskId) (error : Bytes)
  | discarded
  /-- The test cases that a task is judged on. -/
  | judging (problemId : ℤ) (records : List TestcaseRow)
  | settled (outcome : Outcome)
  /-- An exception leaves the service. -/
  | threw
  /-- `JudgeManager::commit` of a recovered row. -/
  | handedOver (id : ℤ) (task : SubmissionTask)
  | recovered (enqueued : ℕ)
  | problemCreated (id : Option ℤ)
  | problemUpdated (status : UpdateStatus)
  | problemRemoved (status : DeleteStatus)
  | testcaseCreated (status : CreateStatus)
  | testcaseUpdated (status : UpdateStatus) (ord : ℤ)
  | testcaseRemoved (status : DeleteStatus)
  | registered (outcome : RegisterOutcome)
  | passwordReset (status : UpdateStatus)
  | passwordChanged (outcome : PasswordOutcome)
  | roleChanged (status : RoleStatus)

abbrev Program := Library.Program Reply Event

namespace Program

/-- Returns `event` to the caller. -/
def finish (event : Event) : Program := .emit event .done

/-- Returns after giving up the mutex, as the destructor of `std::lock_guard` does. -/
def unlockWith (event : Event) : Program := .unlock (finish event)

def rollbackWith (event : Event) : Program := .rollback (unlockWith event)

/-- The end of every transaction: a commit that fails is rolled back. -/
def commitWith (success failure : Event) : Program :=
  .commit fun committed => if committed then unlockWith success else rollbackWith failure

/-- Takes `transaction_mutex` and opens a transaction. -/
def beginWith (failure : Event) (next : Program) : Program :=
  .lock <| .begin fun begun => if begun then next else unlockWith failure

end Program

/-- The text of every internal failure. -/
def internalErrorText : Bytes := Bytes.ofString "内部错误"

def Outcome.internalError : Outcome := { kind := .internalError, error := internalErrorText }

end Service

end OnlineJudge
