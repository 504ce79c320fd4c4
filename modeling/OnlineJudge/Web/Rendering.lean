import OnlineJudge.Library.TransitionSystem
import OnlineJudge.Web.Router

/-!
# How the router draws pages

`render`, `navigate` and `startRouter` of `web/js/router.js` with the lifecycles of
`web/js/lifecycle.js` and the table of routes of `web/js/main.js`. A render waits for the
identity to be verified, and meanwhile the address may change and other renders start; a
page may fail long after it was drawn. A step is one callback: JavaScript runs no other code
in the middle of it. What the pages draw, and the titles and hints of the router, are left
out.
-/

namespace OnlineJudge.Web

open Library JsString

/-- The routes of `main.js`, in the order in which they are added. -/
def siteRoutes : List Route :=
  [("/home", .isPublic), ("/register", .isPublic), ("/login", .isPublic), ("/password", .auth),
    ("/problems", .auth), ("/problems/:id", .auth), ("/leaderboard", .auth),
    ("/submissions", .auth), ("/submissions/:id", .auth), ("/admin", .admin),
    ("/admin/problems", .admin), ("/admin/problems/new", .admin),
    ("/admin/problems/:id/edit", .admin), ("/admin/problems/:id/testcases", .admin),
    ("/admin/users", .admin), ("/admin/rejudge", .admin), ("*", .isPublic)].map fun entry =>
      { pattern := JsString.ofString entry.1, access := entry.2 }

def loginPath : JsString := JsString.ofString "/login"

def passwordPath : JsString := JsString.ofString "/password"

/-- The option of the route for changing the password. -/
def Route.allowDuringPasswordChange (route : Route) : Bool := route.pattern = passwordPath

/-- What the page code reads of the session. -/
structure Identity extends Viewer where
  requiresPasswordChange : Bool
  deriving DecidableEq, Repr

/-- The functions of the browser that write an address. -/
structure Browser where
  encodeURIComponent : JsString → JsString
  /-- A fragment as it is read back from the address. -/
  encodeFragment : JsString → JsString

/-- What `parseHash` reads from the address; the query is a part of `raw`. -/
structure ParsedHash where
  path : JsString
  raw : JsString
  deriving DecidableEq, Repr

def parseHash (hash : JsString) : ParsedHash :=
  let raw := if [35] <+: hash then hash.drop 1 else hash
  let raw := if raw = [] ∨ raw = [47] then JsString.ofString "/home" else raw
  let normalized := normalizePath (raw.takeWhile (· ≠ 63))
  { path := if normalized = [47] then JsString.ofString "/home" else normalized, raw := raw }

/-- How a handler of a route ends. -/
inductive HandlerResult where
  | threw
  /-- It returns nothing, or a function for `teardown`, which may throw itself. -/
  | returned (cleanupThrows : Bool)
  | promised
  deriving DecidableEq, Repr

/-- What a handler does: the calls of `navigate` that it makes, and how it ends. -/
structure Handled where
  navigations : List (JsString × Bool) := []
  result : HandlerResult
  deriving DecidableEq, Repr

/-- A call of `render` that waits for `ensureAuth`. -/
structure WaitingRender where
  generation : ℕ
  parsed : ParsedHash
  deriving DecidableEq, Repr

inductive PromiseState where
  | pending
  | fulfilled
  | rejected
  deriving DecidableEq, Repr

/-- A page for which a lifecycle has been created. -/
structure Page where
  route : Route
  raw : JsString
  /-- History: the render that has opened the page, and for whom. -/
  openedBy : WaitingRender
  identity : Identity
  result : HandlerResult
  disposed : Bool := false
  /-- What has become of the promise, if the handler has returned one. -/
  promise : PromiseState := .pending
  deriving DecidableEq, Repr

/-- What the container shows. -/
inductive View where
  | blank
  | badAddress (invalidParams : Bool)
  | adminForbidden
  | page (id : ℕ)
  | handlerError
  deriving DecidableEq, Repr

structure Rendering where
  /-- `location.hash`. -/
  hash : JsString
  /-- `startRouter` has been called, and `hashchange` events are heard. -/
  started : Bool := false
  /-- The `hashchange` events that are queued. -/
  hashchanges : ℕ := 0
  renderGeneration : ℕ := 0
  waiting : List WaitingRender := []
  pages : List Page := []
  /-- The page that `currentCleanup` belongs to. -/
  currentCleanup : Option ℕ := none
  view : View := .blank
  /-- History: the render that drew what is shown, and for whom. -/
  drawnBy : WaitingRender := { generation := 0, parsed := { path := [], raw := [] } }
  drawnFor : Identity :=
    { isAdmin := false, isLoggedIn := false, requiresPasswordChange := false }
  deriving DecidableEq, Repr

namespace Rendering

/-- The first part of `render`, up to `await`. -/
def render (state : Rendering) : Rendering :=
  { state with
    renderGeneration := state.renderGeneration + 1
    waiting := state.waiting ++
      [{ generation := state.renderGeneration + 1, parsed := parseHash state.hash }] }

/-- The scripts have been loaded at the address `hash`. -/
def load (hash : JsString) : Rendering := { hash := hash }

def startRouter (state : Rendering) : Rendering :=
  if state.started then state else render { state with started := true }

variable (browser : Browser)

/-- What `location.hash` is after `target` has been written to the address. -/
def hashOf (target : JsString) : JsString :=
  match browser.encodeFragment (target.drop 1) with
  | [] => []
  | fragment => 35 :: fragment

/-- The address changes, and an event tells of it, if it is another address. -/
def setHash (hash : JsString) (state : Rendering) : Rendering :=
  if hash = state.hash then state
  else { state with hash := hash, hashchanges := state.hashchanges + 1 }

def navigate (path : JsString) (replace : Bool) (state : Rendering) : Rendering :=
  let target := if [35] <+: path then path else 35 :: path
  if state.hash = target then state.render
  else if replace then render { state with hash := hashOf browser target }
  else state.setHash (hashOf browser target)

/-- `lifecycle.dispose` is not reached if the page's own cleanup throws. -/
def tornDown (page : Page) : Page :=
  if page.result = .returned true then page else { page with disposed := true }

def teardown (state : Rendering) : Rendering :=
  match state.currentCleanup with
  | none => state
  | some id => { state with currentCleanup := none, pages := state.pages.modify id tornDown }

def resetView (state : Rendering) : Rendering := { state.teardown with view := .blank }

def renderHandlerError (state : Rendering) : Rendering :=
  { state.resetView with view := .handlerError }

/-- The lifecycle of the page is created and the handler called. -/
def openPage (route : Route) (render : WaitingRender) (identity : Identity) (handled : Handled)
    (state : Rendering) : Rendering :=
  let state := state.resetView
  let page : Page :=
    { route := route, raw := render.parsed.raw, openedBy := render, identity := identity,
      result := handled.result }
  let opened : Rendering :=
    { state with pages := state.pages ++ [page], view := .page state.pages.length }
  let navigated := handled.navigations.foldl
    (fun state navigation => state.navigate browser navigation.1 navigation.2) opened
  match handled.result with
  | .threw => navigated.renderHandlerError
  | _ => { navigated with currentCleanup := some state.pages.length }

/-- The rest of `render`, for whoever is logged in when the identity has been verified. -/
def draw (render : WaitingRender) (identity : Identity) (handled : Handled)
    (state : Rendering) : Rendering :=
  let drawn : Rendering := { state with drawnBy := render, drawnFor := identity }
  match matchRoute siteRoutes render.parsed.path with
  | none => { drawn.resetView with view := .badAddress false }
  | some matched =>
      if matched.invalid then { drawn.resetView with view := .badAddress true }
      else if matched.route.access ≠ .isPublic ∧ !identity.isLoggedIn then
        state.navigate browser
          (loginPath ++ JsString.ofString "?redirect=" ++
            browser.encodeURIComponent render.parsed.raw) true
      else if matched.route.access = .admin ∧ identity.requiresPasswordChange ∧
          !matched.route.allowDuringPasswordChange then
        if render.parsed.path = passwordPath then state
        else state.navigate browser passwordPath true
      else if matched.route.access = .admin ∧ !identity.isAdmin then
        { drawn.resetView with view := .adminForbidden }
      else drawn.openPage browser matched.route render identity handled

end Rendering

inductive RenderLabel where
  /-- The user goes to another address. -/
  | browse (hash : JsString)
  /-- `main.js` has waited for the identity; a 401 may have navigated before. -/
  | startRouter
  | hashchange
  /-- Some callback of a page calls `navigate`. -/
  | navigate (path : JsString) (replace : Bool)
  /-- `ensureAuth` is settled for a waiting render. -/
  | resume (index : ℕ) (identity : Identity) (handled : Handled)
  /-- The promise that the handler of a page has returned is settled. -/
  | fulfill (id : ℕ)
  | reject (id : ℕ)
  deriving DecidableEq, Repr

namespace Rendering

variable (browser : Browser)

/-- The page waits for its promise. -/
def isPending (page : Page) : Bool := page.result = .promised && page.promise = .pending

def settle (id : ℕ) (promise : PromiseState) (state : Rendering) : Rendering :=
  { state with pages := state.pages.modify id fun page => { page with promise := promise } }

def step (state : Rendering) : RenderLabel → Option Rendering
  | .browse hash => some (state.setHash hash)
  | .startRouter => some state.startRouter
  | .hashchange =>
      if state.hashchanges = 0 then none
      else
        let told : Rendering := { state with hashchanges := state.hashchanges - 1 }
        some (if state.started then told.render else told)
  | .navigate path replace => some (state.navigate browser path replace)
  | .resume index identity handled =>
      (state.waiting[index]?).map fun waiting =>
        let resumed : Rendering := { state with waiting := state.waiting.eraseIdx index }
        if waiting.generation ≠ state.renderGeneration then resumed
        else resumed.draw browser waiting identity handled
  | .fulfill id =>
      match state.pages[id]? with
      | some page => if isPending page then some (state.settle id .fulfilled) else none
      | none => none
  | .reject id =>
      match state.pages[id]? with
      | some page =>
          if isPending page then
            let settled := state.settle id .rejected
            some (if page.disposed then settled else settled.renderHandlerError)
          else none
      | none => none

def system : TransitionSystem Rendering RenderLabel where
  step := step browser

end Rendering

end OnlineJudge.Web
