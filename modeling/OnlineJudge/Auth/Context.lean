import OnlineJudge.Db.Users

/-!
# Who sends a request

`auth/context.cpp` and `auth/authorize.cpp`: the token of a request, the user it stands
for and what this user may do. The verification of a signed token is a parameter.
-/

namespace OnlineJudge

namespace Db

/-- `UserStore::find_by_id`. -/
def findUser (db : Db) (id : ℤ) : Option UserRecord :=
  (db.users.rows.find? (·.id = id)).map UserRecord.load

end Db

namespace Auth

open Db

/-- `extract_bearer_token`: the scheme in any case of letters, white space, one word. -/
def extractBearerToken (authorization : Bytes) : Option Bytes :=
  let schemed := authorization.dropWhile Bytes.isSpace
  if schemed.length < 6 then none
  else if (schemed.take 6).map Bytes.toUpper ≠ (Bytes.ofString "Bearer").map Bytes.toUpper then
    none
  else
    match schemed.drop 6 with
    | [] => none
    | separator :: rest =>
        if !Bytes.isSpace separator then none
        else
          let word := rest.dropWhile Bytes.isSpace
          let token := word.takeWhile fun byte => !Bytes.isSpace byte
          let after := word.dropWhile fun byte => !Bytes.isSpace byte
          if word = [] then none
          else if after.any fun byte => !Bytes.isSpace byte then none
          else some token

/-- A user without the password's hash. -/
structure AuthUser where
  id : ℤ
  account : Bytes
  nickname : Bytes
  role : Role
  resetPwdFlag : ℤ
  deriving DecidableEq, Repr

inductive AuthResult where
  | ok (user : AuthUser)
  | unauthorized
  | internalError
  deriving DecidableEq, Repr

/-- `authenticate_request`: `found` is the answer of the table of users, `none` for an error. -/
def authenticateRequest (verify : Bytes → Option ℤ)
    (findById : ℤ → Option (Option UserRecord)) (token : Bytes) : AuthResult :=
  match verify token with
  | none => .unauthorized
  | some userId =>
      match findById userId with
      | none => .internalError
      | some none => .unauthorized
      | some (some record) =>
          .ok
            { id := record.id
              account := record.account
              nickname := record.nickname
              role := record.role
              resetPwdFlag := record.resetPwdFlag }

def requiresPasswordChange (user : AuthUser) : Bool := user.resetPwdFlag ≠ 0

inductive AdminCheck where
  | ok
  | notAdmin
  | passwordChangeRequired
  deriving DecidableEq, Repr

def checkAdmin (user : AuthUser) : AdminCheck :=
  if user.role ≠ .admin then .notAdmin
  else if requiresPasswordChange user then .passwordChangeRequired
  else .ok

end Auth

end OnlineJudge
