import OnlineJudge.Web.Session

/-!
# Responses that come late

Two things may happen between a request and its response: another user logs in, and the
user logs out. `ensureAuth` compares the epoch and the token before it acts on a response;
`request`, when the response is a 401, and `refreshCurrentUser` do not. A run keeps its
session exactly as long as no such response comes late.
-/

namespace OnlineJudge.Web

open Library

/-- The request that a step goes on with: the rest of `request`, or the code of its caller. -/
def Label.handles {Token User : Type} : Label Token User → Option ℕ
  | .receive id _ | .resume id | .finish id => some id
  | _ => none

/-- The step acts on a 401 that answers the request. -/
def ActsOnUnauthorized {Token User : Type} (label : Label Token User)
    (request : Request Token User) : Prop :=
  (∃ id response, label = .receive id (.response response) ∧ response.status = 401) ∨
    ∃ response, request.phase = .answered (.response response) ∧ response.status = 401

namespace Session

variable {Token User : Type} [DecidableEq Token]

section Integrity

/-- A 401 for one token leaves a session with another token as it is. -/
def KeepsOtherToken (session : Session Token User) (label : Label Token User)
    (next : Session Token User) : Prop :=
  ∀ id (request : Request Token User) token other, label.handles = some id →
    session.requests[id]? = some request → ActsOnUnauthorized label request →
    request.carried = some token → session.token = some other → other ≠ token →
    next.token = some other ∧ next.status = session.status ∧
      next.currentUser = session.currentUser

/-- After a logout, what was requested before does not log in or restore a user. -/
def StaysLoggedOut (session : Session Token User) (label : Label Token User)
    (next : Session Token User) : Prop :=
  ∀ id (request : Request Token User), label.handles = some id →
    session.requests[id]? = some request → request.caller ≠ .login → session.loggedOut →
    request.logoutsBefore < session.logouts →
    (next.isLoggedIn → session.isLoggedIn) ∧
      (next.currentUser.isSome → session.currentUser.isSome)

/-- What the step does keeps the session. -/
def KeepsSession (session : Session Token User) (label : Label Token User) : Prop :=
  ∀ next, system.step session label = some next →
    KeepsOtherToken session label next ∧ StaysLoggedOut session label next

/-- The response that the step acts on does not come late: a 401 finds the token of its request, or
none, unless the request excludes the redirection; and a user that was requested for `setUser`
before the last logout comes after the next login, or finds a user logged in. -/
def InTime (session : Session Token User) : Label Token User → Prop
  | .receive id (.response response) =>
      ∀ (request : Request Token User) token, session.requests[id]? = some request →
        request.phase = .sent → response.status = 401 → request.skipAuthRedirect = false →
        request.carried = some token → session.token = none ∨ session.token = some token
  | .resume id =>
      ∀ (request : Request Token User) outcome me, session.requests[id]? = some request →
        request.caller = .refreshCurrentUser → request.phase = .answered outcome →
        outcome.data? = some me → me.user.isSome → session.loggedOut →
        request.logoutsBefore < session.logouts →
        session.isLoggedIn ∧ session.currentUser.isSome
  | _ => True

end Integrity

section Effects

variable {session next : Session Token User} {request : Request Token User}
  {outcome : Outcome Token User}

omit [DecidableEq Token]

/-- Who is logged in, and what has been requested, is the same. -/
structure SameIdentity (session next : Session Token User) : Prop where
  token : next.token = session.token
  status : next.status = session.status
  currentUser : next.currentUser = session.currentUser
  epoch : next.epoch = session.epoch
  requests : next.requests = session.requests
  logouts : next.logouts = session.logouts

theorem notifyUnauthorized_same : SameIdentity session session.notifyUnauthorized := by
  unfold notifyUnauthorized
  split
  · exact ⟨rfl, rfl, rfl, rfl, rfl, rfl⟩
  · exact ⟨rfl, rfl, rfl, rfl, rfl, rfl⟩

/-- The condition under which `request` calls `clearAuth`. -/
def Request.Clears (request : Request Token User) (outcome : Outcome Token User) : Prop :=
  ∃ response, outcome = .response response ∧ response.status = 401 ∧
    request.carried.isSome ∧ request.skipAuthRedirect = false

theorem receive_same (clears : ¬Request.Clears request outcome) :
    SameIdentity session (session.receive request outcome) := by
  unfold receive
  split
  · exact ⟨rfl, rfl, rfl, rfl, rfl, rfl⟩
  case h_2 response =>
    have stays : ¬(response.status = 401 ∧ request.carried.isSome ∧
        !request.skipAuthRedirect) := by
      rintro ⟨unauthorized, carried, redirects⟩
      exact clears ⟨response, rfl, unauthorized, carried, by simpa using redirects⟩
    split
    · exact ⟨rfl, rfl, rfl, rfl, rfl, rfl⟩
    · dsimp only
      split
      · exact ⟨rfl, rfl, rfl, rfl, rfl, rfl⟩
      · exact ⟨rfl, rfl, rfl, rfl, rfl, rfl⟩

theorem receive_clears (clears : Request.Clears request outcome) :
    SameIdentity session.clearAuth (session.receive request outcome) := by
  rcases clears with ⟨response, rfl, unauthorized, carried, redirects⟩
  have notOk : response.isOk = false := by simp [Response.isOk, unauthorized]
  simp only [receive, notOk, unauthorized, carried, redirects]
  exact notifyUnauthorized_same

/-- Time passes: a logout also ends the epoch. -/
structure Later (session next : Session Token User) : Prop where
  epoch_le : session.epoch ≤ next.epoch
  logouts : next.logouts = session.logouts ∨ session.epoch < next.epoch

theorem Later.refl (session : Session Token User) : Later session session :=
  ⟨le_rfl, Or.inl rfl⟩

theorem SameIdentity.later (same : SameIdentity session next) : Later session next :=
  ⟨same.epoch.ge, Or.inl same.logouts⟩

theorem receive_requests : (session.receive request outcome).requests = session.requests := by
  by_cases clears : Request.Clears request outcome
  · exact (receive_clears clears).requests
  · exact (receive_same clears).requests

theorem receive_later : Later session (session.receive request outcome) := by
  by_cases clears : Request.Clears request outcome
  · have same : SameIdentity session.clearAuth (session.receive request outcome) :=
      receive_clears clears
    have ended : session.epoch < (session.receive request outcome).epoch :=
      (Nat.lt_succ_self _).trans_le same.epoch.ge
    exact ⟨ended.le, Or.inr ended⟩
  · exact (receive_same clears).later

end Effects

section Callers

variable {session : Session Token User} {caller : Caller Token}
  {data : Option (Response Token User)}

theorem resume_requests : (session.resume caller data).requests = session.requests := by
  unfold resume
  split
  · split
    · rfl
    · rfl
  · split
    · rfl
    · rfl
  · rfl
  · split
    · rfl
    · rfl
  · rfl

theorem resume_later : Later session (session.resume caller data) := by
  unfold resume
  split
  · split
    · exact Later.refl session
    · exact ⟨Nat.le_succ _, Or.inl rfl⟩
  · split
    · exact ⟨le_rfl, Or.inl rfl⟩
    · exact Later.refl session
  · exact ⟨le_rfl, Or.inl rfl⟩
  · split
    · exact Later.refl session
    · exact ⟨Nat.le_succ _, Or.inl rfl⟩
  · exact Later.refl session

end Callers

section Invariant

/-- What `ensureAuth` has read is what its request carries, and its epoch is over once the user has
logged out. -/
structure RequestDated (session : Session Token User) (request : Request Token User) :
    Prop where
  carries : ∀ startEpoch token, request.caller = .ensureAuth startEpoch token →
    request.carried = some token
  epoch_le : ∀ startEpoch token, request.caller = .ensureAuth startEpoch token →
    startEpoch ≤ session.epoch
  epoch_lt : ∀ startEpoch token, request.caller = .ensureAuth startEpoch token →
    request.logoutsBefore < session.logouts → startEpoch < session.epoch
  login : request.caller = .login → request.carried = none

/-- Every request is dated. -/
def Dated (session : Session Token User) : Prop :=
  ∀ request ∈ session.requests, RequestDated session request

variable {session next : Session Token User}

omit [DecidableEq Token]

theorem RequestDated.later {request : Request Token User} (dated : RequestDated session request)
    (later : Later session next) : RequestDated next request where
  carries := dated.carries
  epoch_le startEpoch token isEnsure :=
    (dated.epoch_le startEpoch token isEnsure).trans later.epoch_le
  epoch_lt startEpoch token isEnsure before := by
    rcases later.logouts with same | ended
    · exact (dated.epoch_lt startEpoch token isEnsure (same ▸ before)).trans_le later.epoch_le
    · exact (dated.epoch_le startEpoch token isEnsure).trans_lt ended
  login := dated.login

theorem Dated.later (dated : session.Dated) (later : Later session next)
    (requests : next.requests = session.requests) : next.Dated := by
  intro request mem
  rw [requests] at mem
  exact (dated request mem).later later

theorem Dated.setPhase (dated : session.Dated) (id : ℕ) (phase : Phase Token User) :
    (session.setPhase id phase).Dated := by
  intro request mem
  rcases List.mem_iff_getElem?.mp mem with ⟨position, found⟩
  rw [Session.setPhase, List.getElem?_modify] at found
  rcases Option.map_eq_some_iff.mp found with ⟨old, found, isRequest⟩
  have old_dated := dated old (List.mem_of_getElem? found)
  split at isRequest
  · subst isRequest
    exact ⟨old_dated.carries, old_dated.epoch_le, old_dated.epoch_lt, old_dated.login⟩
  · subst isRequest
    exact old_dated.later ⟨le_rfl, Or.inl rfl⟩

theorem Dated.send (dated : session.Dated) {caller : Caller Token} {auth skip : Bool}
    (fresh : RequestDated session
      { caller := caller
        carried := if auth then session.token else none
        skipAuthRedirect := skip
        phase := .sent
        logoutsBefore := session.logouts }) :
    (session.send caller auth skip).Dated := by
  intro request mem
  rcases List.mem_append.mp mem with mem | mem
  · exact (dated request mem).later ⟨le_rfl, Or.inl rfl⟩
  · rw [List.mem_singleton.mp mem]
    exact fresh.later ⟨le_rfl, Or.inl rfl⟩

end Invariant

section Steps

variable {session next : Session Token User} {label : Label Token User}

theorem ensureAuth_dated (dated : session.Dated) (force : Bool) :
    (session.ensureAuth force).Dated := by
  unfold ensureAuth
  split
  · exact dated
  split
  · split
    · exact dated.later ⟨le_rfl, Or.inl rfl⟩ rfl
    · exact dated.later ⟨le_rfl, Or.inl rfl⟩ rfl
  case h_2 token stored =>
    split
    · exact dated
    split
    · exact dated
    have sent : (session.send (.ensureAuth session.epoch token) true false).Dated := by
      refine dated.send ⟨?_, ?_, ?_, nofun⟩
      · rintro _ _ ⟨⟩
        exact stored
      · rintro _ _ ⟨⟩
        exact le_rfl
      · intro _ _ _ before
        exact absurd before (lt_irrefl _)
    exact sent.later ⟨le_rfl, Or.inl rfl⟩ rfl

theorem step_dated (dated : session.Dated) (step : system.step session label = some next) :
    next.Dated := by
  cases label with
  | logout =>
      cases step
      exact dated.later ⟨Nat.le_succ _, Or.inr (Nat.lt_succ_self _)⟩ rfl
  | ensureAuth force =>
      cases step
      exact ensureAuth_dated dated force
  | refreshCurrentUser =>
      cases step
      exact dated.send ⟨nofun, nofun, nofun, nofun⟩
  | login =>
      cases step
      exact dated.send ⟨nofun, nofun, nofun, fun _ => rfl⟩
  | request auth skip =>
      cases step
      exact dated.send ⟨nofun, nofun, nofun, nofun⟩
  | receive id outcome =>
      simp only [system, Session.step] at step
      split at step
      · cases step
      split at step
      · cases step
        exact (dated.later receive_later receive_requests).setPhase _ _
      · cases step
  | resume id =>
      simp only [system, Session.step] at step
      split at step
      · cases step
      split at step
      · cases step
        exact (dated.later resume_later resume_requests).setPhase _ _
      · cases step
  | finish id =>
      simp only [system, Session.step] at step
      split at step
      · cases step
      split at step
      · cases step
        have finished : Dated { session with inflight := none } :=
          dated.later ⟨le_rfl, Or.inl rfl⟩ rfl
        exact finished.setPhase _ _
      · cases step

end Steps

section Characterisation

variable {session next : Session Token User} {label : Label Token User}
  {request : Request Token User} {outcome : Outcome Token User} {id : ℕ}

theorem step_receive (found : session.requests[id]? = some request) :
    system.step session (.receive id outcome) = some next ↔
      request.phase = .sent ∧
        next = (session.receive request outcome).setPhase id (.answered outcome) := by
  simp only [system, Session.step, found]
  cases request.phase with
  | sent => simp [eq_comm]
  | _ => simp

theorem step_resume (found : session.requests[id]? = some request) :
    system.step session (.resume id) = some next ↔
      ∃ outcome, request.phase = .answered outcome ∧
        next = (session.resume request.caller outcome.data?).setPhase id .resumed := by
  simp only [system, Session.step, found]
  cases request.phase with
  | answered outcome => simp [eq_comm]
  | _ => simp

omit [DecidableEq Token] in
/-- `request` itself logs nobody in. -/
theorem receive_logs_out :
    ((session.receive request outcome).isLoggedIn → session.isLoggedIn) ∧
      ((session.receive request outcome).currentUser.isSome → session.currentUser.isSome) := by
  by_cases clears : Request.Clears request outcome
  · have same : SameIdentity session.clearAuth (session.receive request outcome) :=
      receive_clears clears
    rw [isLoggedIn, same.status, same.currentUser]
    exact ⟨nofun, nofun⟩
  · have same : SameIdentity session (session.receive request outcome) := receive_same clears
    rw [isLoggedIn, same.status, same.currentUser]
    exact ⟨fun holds => holds, fun holds => holds⟩

theorem receive_keeps (inTime : InTime session (.receive id outcome)) :
    KeepsSession session (.receive id outcome) := by
  intro next step
  refine ⟨?_, ?_⟩
  · rintro _ request token other ⟨⟩ found - carried stored differs
    rcases (step_receive found).mp step with ⟨sent, rfl⟩
    have stays : ¬Request.Clears request outcome := by
      rintro ⟨response, rfl, unauthorized, -, redirects⟩
      rcases inTime request token found sent unauthorized redirects carried with gone | same
      · rw [stored] at gone
        cases gone
      · exact differs (Option.some.inj (stored.symm.trans same))
    have same : SameIdentity session (session.receive request _) := receive_same stays
    exact ⟨same.token.trans stored, same.status, same.currentUser⟩
  · rintro _ request ⟨⟩ found - - -
    rcases (step_receive found).mp step with ⟨-, rfl⟩
    exact receive_logs_out

/-- A late 401 does remove the other token. -/
theorem inTime_of_receive_keeps (keeps : KeepsSession session (.receive id outcome)) :
    InTime session (.receive id outcome) := by
  cases outcome with
  | failed => trivial
  | response response =>
      intro request token found sent unauthorized redirects carried
      by_contra late
      rcases not_or.mp late with ⟨isStored, differs⟩
      rcases Option.ne_none_iff_exists'.mp isStored with ⟨other, stored⟩
      rcases keeps _ ((step_receive found).mpr ⟨sent, rfl⟩) with ⟨keepsOther, -⟩
      have kept := keepsOther id request token other rfl found
        (Or.inl ⟨id, response, rfl, unauthorized⟩) carried stored
        fun same => differs (same ▸ stored)
      have cleared :
          SameIdentity session.clearAuth (session.receive request (.response response)) :=
        receive_clears ⟨response, rfl, unauthorized, by rw [carried]; rfl, redirects⟩
      have isGone : some other = none := kept.1.symm.trans cleared.token
      cases isGone

/-- A 401 that its caller learns of leaves another token alone. -/
theorem resume_keepsOther (dated : session.Dated)
    (step : system.step session (.resume id) = some next) :
    KeepsOtherToken session (.resume id) next := by
  rintro _ request token other ⟨⟩ found acts carried stored differs
  rcases (step_resume found).mp step with ⟨outcome, answered, rfl⟩
  rcases acts with ⟨_, _, ⟨⟩, -⟩ | ⟨response, isAnswered, unauthorized⟩
  rw [answered] at isAnswered
  cases isAnswered
  have thrown : (Outcome.response response).data? = none := by
    simp [Outcome.data?, Response.isOk, unauthorized]
  have unchanged : session.resume request.caller none = session := by
    cases isCaller : request.caller with
    | ensureAuth startEpoch ensured =>
        have carries := (dated request (List.mem_of_getElem? found)).carries _ _ isCaller
        have replaced : ¬(startEpoch = session.epoch ∧ session.token = some ensured) := by
          rintro ⟨-, same⟩
          rw [carried] at carries
          rw [stored, ← carries] at same
          exact differs (Option.some.inj same)
        exact if_neg replaced
    | _ => rfl
  rw [thrown, unchanged]
  exact ⟨stored, rfl, rfl⟩

theorem resume_staysLoggedOut (dated : session.Dated) (inTime : InTime session (.resume id))
    (step : system.step session (.resume id) = some next) :
    StaysLoggedOut session (.resume id) next := by
  rintro _ request ⟨⟩ found notLogin loggedOut before
  rcases (step_resume found).mp step with ⟨outcome, answered, rfl⟩
  change ((session.resume request.caller outcome.data?).isLoggedIn → _) ∧
    ((session.resume request.caller outcome.data?).currentUser.isSome → _)
  cases isCaller : request.caller with
  | ensureAuth startEpoch token =>
      -- The logout has ended the epoch in which the verification began.
      have ended := (dated request (List.mem_of_getElem? found)).epoch_lt _ _ isCaller before
      cases outcome.data? with
      | some me =>
          rw [resume, if_pos (Or.inl ended.ne)]
          exact ⟨fun holds => holds, fun holds => holds⟩
      | none =>
          rw [resume, if_neg fun same => ended.ne same.1]
          exact ⟨fun holds => holds, fun holds => holds⟩
  | refreshCurrentUser =>
      cases returned : outcome.data? with
      | some me =>
          cases isUser : me.user with
          | some user =>
              have known := inTime request outcome me found isCaller answered returned
                (by rw [isUser]; rfl) loggedOut before
              exact ⟨fun _ => known.1, fun _ => known.2⟩
          | none =>
              rw [resume, isUser]
              exact ⟨fun holds => holds, nofun⟩
      | none => exact ⟨fun holds => holds, fun holds => holds⟩
  | login => exact absurd isCaller notLogin
  | other => exact ⟨fun holds => holds, fun holds => holds⟩

/-- A late user is logged in. -/
theorem inTime_of_resume_keeps (keeps : KeepsSession session (.resume id)) :
    InTime session (.resume id) := by
  intro request outcome me found isCaller answered returned isUser loggedOut before
  rcases keeps _ ((step_resume found).mpr ⟨outcome, answered, rfl⟩) with ⟨-, staysOut⟩
  have stays := staysOut id request rfl found (by rw [isCaller]; nofun) loggedOut before
  rw [isCaller, returned] at stays
  refine ⟨stays.1 ?_, stays.2 isUser⟩
  simp [isLoggedIn, Session.setPhase, resume, setUser, isUser]

/-- The other steps do not go on with a request, or end what nobody reads. -/
theorem finish_keeps : KeepsSession session (.finish id) := by
  intro next step
  simp only [system, Session.step] at step
  split at step
  · cases step
  split at step
  case h_2 => cases step
  cases step
  refine ⟨?_, ?_⟩
  · rintro _ request token other - - - - stored -
    exact ⟨stored, rfl, rfl⟩
  · rintro _ request - - - - -
    exact ⟨fun holds => holds, fun holds => holds⟩

theorem keepsSession_iff (dated : session.Dated) :
    KeepsSession session label ↔ InTime session label := by
  have others : label.handles = none → KeepsSession session label := by
    intro none next _
    refine ⟨?_, ?_⟩
    · intro id _ _ _ handles
      rw [none] at handles
      cases handles
    · intro id _ handles
      rw [none] at handles
      cases handles
  cases label with
  | receive id outcome => exact ⟨inTime_of_receive_keeps, receive_keeps⟩
  | resume id =>
      refine ⟨inTime_of_resume_keeps, fun inTime next step => ?_⟩
      exact ⟨resume_keepsOther dated step, resume_staysLoggedOut dated inTime step⟩
  | finish id => exact ⟨fun _ => trivial, fun _ => finish_keeps⟩
  | _ => exact ⟨fun _ => trivial, fun _ => others rfl⟩

end Characterisation

/-- A run keeps its session at every step exactly when no response in it comes late. -/
theorem session_kept_iff_in_time (token : Option Token) (storedUser : Option User)
    (schedule : List (Label Token User)) :
    system.Admits KeepsSession (initial token storedUser) schedule ↔
      system.Admits InTime (initial token storedUser) schedule := by
  have initially : (initial token storedUser).Dated := fun _ mem => absurd mem List.not_mem_nil
  have preserved : ∀ (session : Session Token User) label next, session.Dated →
      system.step session label = some next → next.Dated := fun _ _ _ => step_dated
  exact TransitionSystem.admits_congr preserved (fun _ _ dated => keepsSession_iff dated)
    initially schedule

section Runs

/-- A response of `/api/login` or `/api/me`. -/
def success (token : Option ℕ) (user : ℕ) : Response ℕ ℕ where
  status := 200
  body := some { token := token, user := some user }
  passwordChange := false

def unauthorized : Response ℕ ℕ where
  status := 401
  body := none
  passwordChange := false

/-- A user logs in: the request `id`, with its answer. -/
def logIn (id token : ℕ) : List (Label ℕ ℕ) :=
  [.login, .receive id (.response (success (some token) token)), .resume id]

/-- The token `2` does not survive the 401 for the token `1`, and the user comes back after the
logout, whether it was asked for or followed from a 401. -/
theorem late_responses_break_session :
    (∃ session next,
      system.run (initial none none)
          (logIn 0 1 ++ [.request true false, .logout] ++ logIn 2 2) = some session ∧
        system.step session (.receive 1 (.response unauthorized)) = some next ∧
        ¬KeepsOtherToken session (.receive 1 (.response unauthorized)) next) ∧
      (∃ session next,
        system.run (initial none none)
            (logIn 0 1 ++
              [.refreshCurrentUser, .logout, .receive 1 (.response (success none 1))]) =
              some session ∧
          system.step session (.resume 1) = some next ∧
          ¬StaysLoggedOut session (.resume 1) next) ∧
      ∃ session next,
        system.run (initial none none)
            (logIn 0 1 ++
              [.refreshCurrentUser, .request true false, .receive 2 (.response unauthorized),
                .receive 1 (.response (success none 1))]) =
              some session ∧
          system.step session (.resume 1) = some next ∧
          ¬StaysLoggedOut session (.resume 1) next := by
  refine ⟨⟨_, _, rfl, rfl, fun keeps => ?_⟩, ⟨_, _, rfl, rfl, fun stays => ?_⟩,
    ⟨_, _, rfl, rfl, fun stays => ?_⟩⟩
  · have kept := keeps 1 _ 1 2 rfl rfl (Or.inl ⟨1, unauthorized, rfl, rfl⟩) rfl rfl (by decide)
    cases kept.1
  · have loggedIn := (stays 1 _ rfl rfl nofun rfl (by decide)).1 rfl
    cases loggedIn
  · have loggedIn := (stays 1 _ rfl rfl nofun rfl (by decide)).1 rfl
    cases loggedIn

end Runs

end Session

end OnlineJudge.Web
