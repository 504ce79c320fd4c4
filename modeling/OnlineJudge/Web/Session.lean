import Mathlib.Order.Basic
import OnlineJudge.Library.TransitionSystem

/-!
# The session of a browser

`web/js/auth.js`, `session.js` and the part of `request` in `api.js` that changes who is
logged in, with the callers that act on a response: the login page, `refreshCurrentUser`
and the page that changes the password, and `ensureAuth`. JavaScript runs one callback at
a time, so a step is one callback: a caller sends a request, `request` goes on when the
response is there or the request has failed, and the caller goes on with what `request`
returned or threw.
-/

namespace OnlineJudge.Web

open Library

inductive AuthStatus where
  | unknown
  | guest
  | authenticated
  deriving DecidableEq, Repr

section Requests

variable (Token User : Type)

/-- What a caller may read from the body of a response. -/
structure Body where
  /-- `result.token`; an empty text counts as none. -/
  token : Option Token
  /-- The user that the body is or holds. -/
  user : Option User
  deriving DecidableEq, Repr

structure Response where
  status : ℕ
  /-- The JSON that the response carries, if it does. -/
  body : Option (Body Token User)
  /-- The code of the body is `PASSWORD_CHANGE_REQUIRED`. -/
  passwordChange : Bool
  deriving DecidableEq, Repr

inductive Outcome where
  | response (response : Response Token User)
  /-- The network, the time limit or the caller ended the request. -/
  | failed
  deriving DecidableEq, Repr

/-- The code that sent a request and goes on with its result. -/
inductive Caller where
  /-- `ensureAuth`, with the epoch and the token that it has read. -/
  | ensureAuth (startEpoch : ℕ) (token : Token)
  /-- A `GET /api/me` whose result goes to `setUser`. -/
  | refreshCurrentUser
  | login
  /-- A request whose result does not change the session. -/
  | other
  deriving DecidableEq, Repr

inductive Phase where
  | sent
  /-- `request` has returned or thrown. -/
  | answered (outcome : Outcome Token User)
  /-- The caller has gone on; `ensureAuth` has its `finally` left. -/
  | resumed
  | finished
  deriving DecidableEq, Repr

structure Request where
  caller : Caller Token
  /-- The token in the header `Authorization`. -/
  carried : Option Token
  skipAuthRedirect : Bool
  phase : Phase Token User
  /-- History: the logouts before the request was sent. -/
  logoutsBefore : ℕ
  deriving DecidableEq, Repr

end Requests

/-- `response.ok`. -/
def Response.isOk {Token User : Type} (response : Response Token User) : Bool :=
  200 ≤ response.status && response.status < 300

/-- The user that a body is or holds; there is none without a body. -/
def Response.user {Token User : Type} (response : Response Token User) : Option User :=
  response.body.bind (·.user)

/-- What `request` returns to its caller; `none` when it throws. -/
def Outcome.data? {Token User : Type} : Outcome Token User → Option (Response Token User)
  | .response reply => if reply.isOk then some reply else none
  | .failed => none

/-- The stored items, the variables of the modules, and the requests by number. -/
structure Session (Token User : Type) where
  token : Option Token
  storedUser : Option User
  status : AuthStatus
  currentUser : Option User
  epoch : ℕ
  unauthorizedNotified : Bool
  passwordChangeNotified : Bool
  /-- The request that concurrent calls of `ensureAuth` share. -/
  inflight : Option ℕ
  lastCheckedToken : Option Token
  requests : List (Request Token User)
  /-- History: the number of logouts, that is, of calls of `clearAuth`. -/
  logouts : ℕ
  /-- History: no login has succeeded since the last logout. -/
  loggedOut : Bool
  deriving DecidableEq, Repr

namespace Session

variable {Token User : Type}

/-- A page is loaded: what is stored decides whether there is an identity to verify. -/
def initial (token : Option Token) (storedUser : Option User) : Session Token User where
  token := token
  storedUser := storedUser
  status := if token.isSome then .unknown else .guest
  currentUser := none
  epoch := 0
  unauthorizedNotified := false
  passwordChangeNotified := false
  inflight := none
  lastCheckedToken := none
  requests := []
  logouts := 0
  loggedOut := false

def isLoggedIn (session : Session Token User) : Bool := session.status = .authenticated

def setAuth (session : Session Token User) (token : Option Token) (user : Option User) :
    Session Token User :=
  { session with
    epoch := session.epoch + 1
    token := token
    currentUser := user
    status := if token.isSome then .authenticated else .guest
    storedUser := user }

def setUser (session : Session Token User) (user : Option User) : Session Token User :=
  { session with
    currentUser := user
    status := if user.isSome then .authenticated else session.status
    storedUser := user }

def setUnverified (session : Session Token User) : Session Token User :=
  { session with currentUser := none, storedUser := none, status := .guest }

def clearAuth (session : Session Token User) : Session Token User :=
  { session with
    epoch := session.epoch + 1
    token := none
    storedUser := none
    currentUser := none
    status := .guest
    logouts := session.logouts + 1
    loggedOut := true }

def resetSessionVerification (session : Session Token User) : Session Token User :=
  { session with inflight := none, lastCheckedToken := none }

/-- `notifyUnauthorized`, whose handler starts by resetting the verification. -/
def notifyUnauthorized (session : Session Token User) : Session Token User :=
  if session.unauthorizedNotified then session
  else { session with unauthorizedNotified := true }.resetSessionVerification

def performLogout (session : Session Token User) : Session Token User :=
  { session.clearAuth.resetSessionVerification with
    unauthorizedNotified := false
    passwordChangeNotified := false }

/-- The start of `request`, up to `fetch`. -/
def send (session : Session Token User) (caller : Caller Token) (auth skipAuthRedirect : Bool) :
    Session Token User :=
  { session with
    requests := session.requests ++
      [{ caller := caller
         carried := if auth then session.token else none
         skipAuthRedirect := skipAuthRedirect
         phase := .sent
         logoutsBefore := session.logouts }] }

def ensureAuth [DecidableEq Token] (session : Session Token User) (force : Bool) :
    Session Token User :=
  if session.isLoggedIn && !force then session
  else
    match session.token with
    | none =>
        let session := if session.status ≠ .guest then session.setUnverified else session
        { session with lastCheckedToken := none }
    | some token =>
        if session.inflight.isSome then session
        else if !force ∧ session.lastCheckedToken = some token ∧ session.status ≠ .unknown then
          session
        else
          { session.send (.ensureAuth session.epoch token) true false with
            lastCheckedToken := some token
            inflight := some session.requests.length }

/-- The rest of `request`, once `fetch` and the body are there or have failed. -/
def receive (session : Session Token User) (request : Request Token User) :
    Outcome Token User → Session Token User
  | .failed => session
  | .response response =>
      if response.isOk then
        { session with unauthorizedNotified := false, passwordChangeNotified := false }
      else
        let session :=
          if response.status = 401 ∧ request.carried.isSome ∧ !request.skipAuthRedirect then
            session.clearAuth.notifyUnauthorized
          else session
        if response.status = 403 ∧ response.passwordChange then
          { session with passwordChangeNotified := true }
        else session

/-- The caller goes on with the result: `then` and `catch`, or the code after `await`. The login
page reads the token of the result first, and throws when there is no body. -/
def resume [DecidableEq Token] (session : Session Token User) (caller : Caller Token)
    (data : Option (Response Token User)) : Session Token User :=
  match caller, data with
  | .ensureAuth startEpoch token, some me =>
      if startEpoch ≠ session.epoch ∨ session.token ≠ some token then session
      else session.setAuth (some token) me.user
  | .ensureAuth startEpoch token, none =>
      if startEpoch = session.epoch ∧ session.token = some token then session.setUnverified
      else session
  | .refreshCurrentUser, some me => session.setUser me.user
  | .login, some result =>
      match result.body with
      | none => session
      | some body =>
          { session.setAuth body.token body.user with
            loggedOut := session.loggedOut && body.token.isNone }
  | _, _ => session

/-- The request has come to another phase. -/
def setPhase (session : Session Token User) (id : ℕ) (phase : Phase Token User) :
    Session Token User :=
  { session with requests := session.requests.modify id fun request =>
      { request with phase := phase } }

end Session

inductive Label (Token User : Type) where
  | logout
  | ensureAuth (force : Bool)
  | refreshCurrentUser
  /-- The login page sends a request, without a token. -/
  | login
  /-- Any other request. -/
  | request (auth skipAuthRedirect : Bool)
  | receive (id : ℕ) (outcome : Outcome Token User)
  | resume (id : ℕ)
  /-- `finally` of `ensureAuth`. -/
  | finish (id : ℕ)
  deriving DecidableEq, Repr

namespace Session

variable {Token User : Type} [DecidableEq Token]

def step (session : Session Token User) : Label Token User → Option (Session Token User)
  | .logout => some session.performLogout
  | .ensureAuth force => some (session.ensureAuth force)
  | .refreshCurrentUser => some (session.send .refreshCurrentUser true false)
  | .login => some (session.send .login false false)
  | .request auth skipAuthRedirect => some (session.send .other auth skipAuthRedirect)
  | .receive id outcome =>
      match session.requests[id]? with
      | none => none
      | some request =>
          match request.phase with
          | .sent => some ((session.receive request outcome).setPhase id (.answered outcome))
          | _ => none
  | .resume id =>
      match session.requests[id]? with
      | none => none
      | some request =>
          match request.phase with
          | .answered outcome =>
              some ((session.resume request.caller outcome.data?).setPhase id .resumed)
          | _ => none
  | .finish id =>
      match session.requests[id]? with
      | none => none
      | some request =>
          match request.caller, request.phase with
          | .ensureAuth _ _, .resumed =>
              some ({ session with inflight := none }.setPhase id .finished)
          | _, _ => none

def system : TransitionSystem (Session Token User) (Label Token User) where
  step := step

end Session

end OnlineJudge.Web
