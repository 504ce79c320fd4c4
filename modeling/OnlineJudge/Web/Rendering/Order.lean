import OnlineJudge.Web.Rendering

/-!
# The page that is shown is the page that is due

Renders overtake each other, and pages fail when they please. Still, once the router has been
started, and as soon as no event is queued and the latest render does not wait any more, the
container shows what belongs to the address, for whoever was logged in when it was drawn; and
every page that is not shown has been disposed of, unless its own code has thrown.

The invariant has two halves: `Timely` relates the address to the renders that wait, and
`Screen` the pages to what is shown. A call of `navigate` changes nothing on the screen, so
that only `teardown` and the opening of a page touch the second half.
-/

namespace OnlineJudge.Web

open Library JsString

namespace Rendering

/-- The identity may open the route. -/
structure Permitted (route : Route) (identity : Identity) : Prop where
  known : route.access ≠ .isPublic → identity.isLoggedIn = true
  isAdmin : route.access = .admin → identity.isAdmin = true
  changed : route.access = .admin → identity.requiresPasswordChange = true →
    route.allowDuringPasswordChange = true

/-- The address of the render names a page, and the identity may open it. -/
structure Opens (render : WaitingRender) (identity : Identity) (matched : RouteMatch) : Prop where
  isMatch : matchRoute siteRoutes render.parsed.path = some matched
  valid : matched.invalid = false
  permitted : Permitted matched.route identity

/-- The render has opened the page for the identity. -/
structure OpenedBy (render : WaitingRender) (identity : Identity) (matched : RouteMatch)
    (page : Page) : Prop where
  route : page.route = matched.route
  raw : page.raw = render.parsed.raw
  openedBy : page.openedBy = render
  identity : page.identity = identity

/-- The handler has thrown, or the promise that it has returned was rejected. -/
def hasFailed (page : Page) : Bool := page.result = .threw || page.promise = .rejected

/-- What the render shows to the identity. -/
inductive Shows (pages : List Page) (identity : Identity) (render : WaitingRender) :
    View → Prop where
  | notFound (unmatched : matchRoute siteRoutes render.parsed.path = none) :
      Shows pages identity render (.badAddress false)
  | invalidParams {matched : RouteMatch}
      (isMatch : matchRoute siteRoutes render.parsed.path = some matched)
      (invalid : matched.invalid = true) : Shows pages identity render (.badAddress true)
  | forbidden {matched : RouteMatch}
      (isMatch : matchRoute siteRoutes render.parsed.path = some matched)
      (valid : matched.invalid = false) (needsAdmin : matched.route.access = .admin)
      (known : identity.isLoggedIn = true)
      (changed : identity.requiresPasswordChange = true →
        matched.route.allowDuringPasswordChange = true)
      (refused : identity.isAdmin = false) : Shows pages identity render .adminForbidden
  | page {matched : RouteMatch} {id : ℕ} {page : Page} (opens : Opens render identity matched)
      (there : pages[id]? = some page) (opened : OpenedBy render identity matched page)
      (works : hasFailed page = false) : Shows pages identity render (.page id)
  | failed {matched : RouteMatch} {id : ℕ} {page : Page} (opens : Opens render identity matched)
      (there : pages[id]? = some page) (opened : OpenedBy render identity matched page)
      (fails : hasFailed page = true) : Shows pages identity render .handlerError

/-- The code of the page has thrown: its handler, or the cleanup that it has returned. -/
def leaks (page : Page) : Prop := page.result = .threw ∨ page.result = .returned true

/-- The render of the present address. -/
def latest (state : Rendering) : WaitingRender :=
  { generation := state.renderGeneration, parsed := parseHash state.hash }

section Timely

/-- No render waits for a generation that is still to come. -/
structure Bounded (state : Rendering) : Prop where
  waiting : ∀ render ∈ state.waiting, render.generation ≤ state.renderGeneration
  drawnBy : state.drawnBy.generation ≤ state.renderGeneration

/-- The router has been started, and no event is queued. -/
structure Quiet (state : Rendering) : Prop where
  started : state.started = true
  heard : state.hashchanges = 0

/-- In a quiet router the latest render is for the present address, and it still waits or has
drawn what is shown. -/
structure Timely (state : Rendering) : Prop extends Bounded state where
  rendered : state.started = true → 0 < state.renderGeneration
  present : state.Quiet → ∀ render ∈ state.waiting,
    render.generation = state.renderGeneration → render = state.latest
  due : state.Quiet → state.latest ∈ state.waiting ∨ state.drawnBy = state.latest

/-- Before the start the address may change without a render. -/
theorem Bounded.timely_of_not_started {state : Rendering} (bounded : Bounded state)
    (notStarted : state.started = false) : Timely state := by
  have never : state.started ≠ true := by simp [notStarted]
  exact {
    toBounded := bounded
    rendered := fun started => absurd started never
    present := fun quiet => absurd quiet.started never
    due := fun quiet => absurd quiet.started never }

theorem Bounded.timely_render {state : Rendering} (bounded : Bounded state) :
    Timely state.render where
  waiting render mem := by
    rcases List.mem_append.mp mem with before | new
    · have := bounded.waiting render before
      simp only [Rendering.render]
      omega
    · simp only [List.mem_singleton] at new
      simp [new, Rendering.render]
  drawnBy := Nat.le_succ_of_le bounded.drawnBy
  rendered _ := Nat.succ_pos _
  present _ render mem isLatest := by
    rcases List.mem_append.mp mem with before | new
    · have := bounded.waiting render before
      simp only [Rendering.render] at isLatest
      omega
    · rw [List.mem_singleton.mp new]
      rfl
  due _ := .inl (List.mem_append_right _ (List.mem_singleton_self _))

theorem Timely.setHash {state : Rendering} (timely : Timely state) (hash : JsString) :
    Timely (state.setHash hash) := by
  unfold Rendering.setHash
  split_ifs
  · exact timely
  · exact {
      waiting := timely.waiting
      drawnBy := timely.drawnBy
      rendered := timely.rendered
      present := fun quiet => absurd quiet.heard (Nat.succ_ne_zero _)
      due := fun quiet => absurd quiet.heard (Nat.succ_ne_zero _) }

variable {browser : Browser}

/-- The present address is rendered again, or another one is, or the address changes. -/
theorem navigate_cases (browser : Browser) (state : Rendering) (path : JsString) (replace : Bool) :
    (∃ hash, state.navigate browser path replace = render { state with hash := hash }) ∨
      replace = false ∧ ∃ hash, state.navigate browser path replace = state.setHash hash := by
  simp only [Rendering.navigate]
  generalize (if [35] <+: path then path else 35 :: path) = target
  split_ifs with same replaced
  · exact .inl ⟨state.hash, rfl⟩
  · exact .inl ⟨_, rfl⟩
  · exact .inr ⟨by simpa using replaced, _, rfl⟩

/-- Replacing the address renders it. -/
theorem Bounded.timely_replace {state : Rendering} (bounded : Bounded state) (path : JsString) :
    Timely (state.navigate browser path true) := by
  rcases navigate_cases browser state path true with ⟨hash, rendered⟩ | ⟨never, -⟩
  · rw [rendered]
    exact Bounded.timely_render ⟨bounded.waiting, bounded.drawnBy⟩
  · exact absurd never Bool.noConfusion

theorem Timely.navigate {state : Rendering} (timely : Timely state) (path : JsString)
    (replace : Bool) : Timely (state.navigate browser path replace) := by
  rcases navigate_cases browser state path replace with
    ⟨hash, rendered⟩ | ⟨-, hash, changed⟩
  · rw [rendered]
    exact Bounded.timely_render ⟨timely.waiting, timely.drawnBy⟩
  · rw [changed]
    exact timely.setHash hash

theorem Timely.navigations {state : Rendering} (timely : Timely state)
    (navigations : List (JsString × Bool)) :
    Timely (navigations.foldl
      (fun state navigation => state.navigate browser navigation.1 navigation.2) state) := by
  induction navigations generalizing state with
  | nil => exact timely
  | cons navigation rest ih => exact ih (timely.navigate _ _)

/-- Of the state the pages, and what is shown of them and to whom, do not count. -/
theorem Timely.with_screen {state : Rendering} (timely : Timely state) (pages : List Page)
    (currentCleanup : Option ℕ) (view : View) (drawnFor : Identity) :
    Timely { state with
      pages := pages, currentCleanup := currentCleanup, view := view, drawnFor := drawnFor } where
  waiting := timely.waiting
  drawnBy := timely.drawnBy
  rendered := timely.rendered
  present quiet := timely.present ⟨quiet.started, quiet.heard⟩
  due quiet := timely.due ⟨quiet.started, quiet.heard⟩

end Timely

section Screen

/-- Of the pages that are alive only the one to be torn down has not thrown. -/
def AliveOnly (state : Rendering) : Prop :=
  ∀ id page, state.pages[id]? = some page → page.disposed = false →
    leaks page ∨ state.currentCleanup = some id

/-- What is on the screen and the pages behind it. -/
structure Screen (state : Rendering) : Prop where
  drawn : state.drawnBy.generation = 0 ∧ state.view = .blank ∨
    Shows state.pages state.drawnFor state.drawnBy state.view
  shown : ∀ id, state.view = .page id ↔ state.currentCleanup = some id
  current : ∀ id, state.currentCleanup = some id →
    ∃ page, state.pages[id]? = some page ∧ page.disposed = false
  live : AliveOnly state

/-- The state differs in the address and the renders only. -/
structure SameScreen (state next : Rendering) : Prop where
  pages : next.pages = state.pages
  currentCleanup : next.currentCleanup = state.currentCleanup
  view : next.view = state.view
  drawnBy : next.drawnBy = state.drawnBy
  drawnFor : next.drawnFor = state.drawnFor

theorem SameScreen.refl (state : Rendering) : SameScreen state state := ⟨rfl, rfl, rfl, rfl, rfl⟩

theorem SameScreen.trans {first second third : Rendering} (before : SameScreen first second)
    (after : SameScreen second third) : SameScreen first third where
  pages := after.pages.trans before.pages
  currentCleanup := after.currentCleanup.trans before.currentCleanup
  view := after.view.trans before.view
  drawnBy := after.drawnBy.trans before.drawnBy
  drawnFor := after.drawnFor.trans before.drawnFor

theorem Screen.of_same {state next : Rendering} (screen : Screen state)
    (same : SameScreen state next) : Screen next where
  drawn := by simpa only [same.drawnBy, same.view, same.pages, same.drawnFor] using screen.drawn
  shown := by simpa only [same.view, same.currentCleanup] using screen.shown
  current := by simpa only [same.currentCleanup, same.pages] using screen.current
  live := by simpa only [AliveOnly, same.currentCleanup, same.pages] using screen.live

theorem sameScreen_setHash (state : Rendering) (hash : JsString) :
    SameScreen state (state.setHash hash) := by
  unfold Rendering.setHash
  split_ifs
  · exact .refl state
  · exact ⟨rfl, rfl, rfl, rfl, rfl⟩

variable {browser : Browser}

theorem sameScreen_navigate (state : Rendering) (path : JsString) (replace : Bool) :
    SameScreen state (state.navigate browser path replace) := by
  rcases navigate_cases browser state path replace with
    ⟨hash, rendered⟩ | ⟨-, hash, changed⟩
  · rw [rendered]
    exact ⟨rfl, rfl, rfl, rfl, rfl⟩
  · rw [changed]
    exact sameScreen_setHash state hash

theorem sameScreen_navigations (browser : Browser) (state : Rendering)
    (navigations : List (JsString × Bool)) :
    SameScreen state (navigations.foldl
      (fun state navigation => state.navigate browser navigation.1 navigation.2) state) := by
  induction navigations generalizing state with
  | nil => exact .refl state
  | cons navigation rest ih => exact (sameScreen_navigate state _ _).trans (ih _)

theorem not_hasFailed_of_isPending {page : Page} (pending : isPending page = true) :
    hasFailed page = false := by
  simp only [isPending, Bool.and_eq_true, decide_eq_true_eq] at pending
  simp [hasFailed, pending]

/-- A promise is settled without being seen, or it is fulfilled. -/
theorem Shows.settle {pages : List Page} {identity : Identity} {render : WaitingRender}
    {view : View} {id : ℕ} {pending : Page} (promise : PromiseState)
    (shows : Shows pages identity render view) (there : pages[id]? = some pending)
    (isPending : isPending pending = true) (unseen : promise = .rejected → view ≠ .page id) :
    Shows (pages.modify id fun page => { page with promise := promise }) identity render view := by
  cases shows with
  | notFound unmatched => exact .notFound unmatched
  | invalidParams isMatch invalid => exact .invalidParams isMatch invalid
  | forbidden isMatch valid needsAdmin known changed refused =>
      exact .forbidden isMatch valid needsAdmin known changed refused
  | @page matched shown page opens isThere opened works =>
      by_cases hit : id = shown
      · subst hit
        have notRejected : promise ≠ .rejected := fun rejected => unseen rejected rfl
        have notThrown : page.result ≠ .threw := by
          simp only [hasFailed, Bool.or_eq_false_iff, decide_eq_false_iff_not] at works
          exact works.1
        have settled : (pages.modify id fun page => { page with promise := promise })[id]? =
            some { page with promise := promise } := by
          simp [isThere]
        refine .page opens settled
          ⟨opened.route, opened.raw, opened.openedBy, opened.identity⟩ ?_
        simp [hasFailed, notThrown, notRejected]
      · exact .page opens (by simpa [hit] using isThere) opened works
  | @failed matched failedId page opens isThere opened fails =>
      have hit : id ≠ failedId := by
        rintro rfl
        rw [isThere, Option.some.injEq] at there
        subst there
        simp [not_hasFailed_of_isPending isPending] at fails
      have kept : (pages.modify id fun page => { page with promise := promise })[failedId]? =
          some page := by
        simpa [hit] using isThere
      exact .failed opens kept opened fails

/-- Nothing is shown that would still have to be torn down. -/
structure Cleared (state : Rendering) : Prop where
  currentCleanup : state.currentCleanup = none
  live : ∀ page ∈ state.pages, page.disposed = false → leaks page

theorem AliveOnly.cleared_resetView {state : Rendering} (live : AliveOnly state) :
    Cleared state.resetView := by
  unfold Rendering.resetView Rendering.teardown
  rcases cleanup : state.currentCleanup with _ | id
  · refine ⟨cleanup, fun page mem alive => ?_⟩
    rcases List.getElem?_of_mem mem with ⟨id, there⟩
    have := live id page there alive
    simpa [cleanup] using this
  · refine ⟨rfl, fun page mem alive => ?_⟩
    rcases List.getElem?_of_mem mem with ⟨other, there⟩
    simp only [List.getElem?_modify, Option.map_eq_map, Option.map_eq_some_iff] at there
    rcases there with ⟨before, there, rfl⟩
    by_cases hit : id = other
    · simp only [hit, if_true, tornDown] at alive ⊢
      split_ifs at alive ⊢ with cleanupThrows
      · exact .inr cleanupThrows
    · simp only [hit, if_false] at alive ⊢
      have := live other before there alive
      simpa [cleanup, hit] using this

theorem resetView_eq (state : Rendering) :
    ∃ pages, state.resetView =
      { state with pages := pages, currentCleanup := none, view := .blank } := by
  unfold Rendering.resetView Rendering.teardown
  rcases cleanup : state.currentCleanup with _ | id
  · exact ⟨state.pages, by simp [cleanup]⟩
  · exact ⟨_, rfl⟩

/-- A view that belongs to no page is drawn after the old page has been torn down. -/
theorem Cleared.screen {state : Rendering} (cleared : Cleared state) {view : View}
    (noPage : ∀ id, view ≠ .page id)
    (shows : Shows state.pages state.drawnFor state.drawnBy view) :
    Screen { state with view := view } where
  drawn := .inr shows
  shown id := by simp [noPage id, cleared.currentCleanup]
  current id isCurrent := by simp [cleared.currentCleanup] at isCurrent
  live id page there alive := .inl (cleared.live page (List.mem_of_getElem? there) alive)

/-- Tearing a page down touches nothing but the mark that it has been disposed of. -/
theorem resetView_there (state : Rendering) {id : ℕ} {page : Page}
    (there : state.pages[id]? = some page) :
    ∃ disposed, state.resetView.pages[id]? = some { page with disposed := disposed } := by
  unfold Rendering.resetView Rendering.teardown
  rcases state.currentCleanup with _ | current
  · exact ⟨page.disposed, there⟩
  · simp only [List.getElem?_modify, there, Option.map_eq_map, Option.map_some, tornDown]
    split_ifs
    · exact ⟨page.disposed, rfl⟩
    · exact ⟨true, rfl⟩
    · exact ⟨page.disposed, rfl⟩

/-- The error that is shown is the one of the page that the render has opened. -/
theorem AliveOnly.screen_renderHandlerError {state : Rendering} {matched : RouteMatch} {id : ℕ}
    {page : Page} (live : AliveOnly state)
    (opens : Opens state.drawnBy state.drawnFor matched) (there : state.pages[id]? = some page)
    (opened : OpenedBy state.drawnBy state.drawnFor matched page) (fails : hasFailed page = true) :
    Screen state.renderHandlerError := by
  refine live.cleared_resetView.screen (fun id => View.noConfusion) ?_
  rcases resetView_there state there with ⟨disposed, isThere⟩
  rcases resetView_eq state with ⟨pages, reset⟩
  rw [reset] at isThere ⊢
  exact .failed opens isThere ⟨opened.route, opened.raw, opened.openedBy, opened.identity⟩ fails

/-- The page that is opened is the only one that is alive and has not thrown. -/
theorem Cleared.screen_opened {state navigated : Rendering} {page : Page} {matched : RouteMatch}
    (cleared : Cleared state) (fresh : page.disposed = false)
    (same : SameScreen
      { state with pages := state.pages ++ [page], view := .page state.pages.length } navigated)
    (opens : Opens state.drawnBy state.drawnFor matched)
    (opened : OpenedBy state.drawnBy state.drawnFor matched page)
    (works : hasFailed page = false) :
    Screen { navigated with currentCleanup := some state.pages.length } := by
  have there : (state.pages ++ [page])[state.pages.length]? = some page :=
    List.getElem?_concat_length
  refine ⟨.inr ?_, ?_, ?_, ?_⟩
  · simp only [same.pages, same.drawnFor, same.drawnBy, same.view]
    exact .page opens there opened works
  · intro id
    simp [same.view]
  · intro id isCurrent
    rw [Option.some.injEq] at isCurrent
    subst isCurrent
    exact ⟨page, by rw [same.pages]; exact there, fresh⟩
  · intro id other isThere alive
    simp only [same.pages] at isThere
    rcases lt_or_ge id state.pages.length with older | newer
    · rw [List.getElem?_append_left older] at isThere
      exact .inl (cleared.live other (List.mem_of_getElem? isThere) alive)
    · have := (List.getElem?_eq_some_iff.mp isThere).1
      simp only [List.length_append, List.length_singleton] at this
      exact .inr (congrArg some (by omega))

/-- A page whose handler has thrown stays alive, and the error is shown instead. -/
theorem Cleared.aliveOnly_thrown {state navigated : Rendering} (cleared : Cleared state)
    (page : Page) (threw : page.result = .threw)
    (pages : navigated.pages = state.pages ++ [page]) : AliveOnly navigated := by
  intro id other isThere alive
  have mem := List.mem_of_getElem? isThere
  rw [pages] at mem
  rcases List.mem_append.mp mem with older | isPage
  · exact .inl (cleared.live other older alive)
  · rw [List.mem_singleton.mp isPage]
    exact .inl (.inl threw)

theorem Cleared.screen_thrown {state navigated : Rendering} {page : Page} {matched : RouteMatch}
    (cleared : Cleared state) (threw : page.result = .threw)
    (same : SameScreen
      { state with pages := state.pages ++ [page], view := .page state.pages.length } navigated)
    (opens : Opens state.drawnBy state.drawnFor matched)
    (opened : OpenedBy state.drawnBy state.drawnFor matched page) :
    Screen navigated.renderHandlerError := by
  have there : navigated.pages[state.pages.length]? = some page := by
    rw [same.pages]
    exact List.getElem?_concat_length
  have fails : hasFailed page = true := by simp [hasFailed, threw]
  rcases same with ⟨pages, -, -, drawnBy, drawnFor⟩
  rw [← drawnBy, ← drawnFor] at opens opened
  exact (cleared.aliveOnly_thrown page threw pages).screen_renderHandlerError opens there opened
    fails

theorem AliveOnly.screen_openPage {state : Rendering} {matched : RouteMatch}
    {render : WaitingRender} {identity : Identity} (handled : Handled) (live : AliveOnly state)
    (drawnBy : render = state.drawnBy) (drawnFor : identity = state.drawnFor)
    (opens : Opens state.drawnBy state.drawnFor matched) :
    Screen (state.openPage browser matched.route render identity handled) := by
  subst drawnBy drawnFor
  have cleared := live.cleared_resetView
  rcases resetView_eq state with ⟨pages, reset⟩
  rw [reset] at cleared
  simp only [Rendering.openPage, reset]
  have same := fun opened =>
    sameScreen_navigations browser opened handled.navigations
  cases result : handled.result with
  | threw => exact cleared.screen_thrown rfl (same _) opens ⟨rfl, rfl, rfl, rfl⟩
  | returned cleanupThrows =>
      exact cleared.screen_opened rfl (same _) opens ⟨rfl, rfl, rfl, rfl⟩ rfl
  | promised =>
      exact cleared.screen_opened rfl (same _) opens ⟨rfl, rfl, rfl, rfl⟩ rfl

end Screen

section Drawing

variable {browser : Browser}

/-- The render that draws, and for whom. -/
def drawnAs (render : WaitingRender) (identity : Identity) (state : Rendering) : Rendering :=
  { state with drawnBy := render, drawnFor := identity }

theorem access_of_passwordPath {matched : RouteMatch}
    (isMatch : matchRoute siteRoutes passwordPath = some matched) :
    matched.route.access = .auth := by
  have : (matchRoute siteRoutes passwordPath).map (·.route.access) = some .auth := by decide
  simpa [isMatch] using this

theorem access_of_loginPath {matched : RouteMatch}
    (isMatch : matchRoute siteRoutes loginPath = some matched) :
    matched.route.access = .isPublic := by
  have : (matchRoute siteRoutes loginPath).map (·.route.access) = some .isPublic := by decide
  simpa [isMatch] using this

/-- The page that the render goes to instead of the one at its address. -/
inductive Redirects (browser : Browser) (render : WaitingRender) (identity : Identity) :
    JsString → Prop where
  | toLogin {matched : RouteMatch}
      (isMatch : matchRoute siteRoutes render.parsed.path = some matched)
      (guarded : matched.route.access ≠ .isPublic) (anonymous : identity.isLoggedIn = false) :
      Redirects browser render identity
        (loginPath ++ JsString.ofString "?redirect=" ++
          browser.encodeURIComponent render.parsed.raw)
  | toPassword {matched : RouteMatch}
      (isMatch : matchRoute siteRoutes render.parsed.path = some matched)
      (needsAdmin : matched.route.access = .admin) (known : identity.isLoggedIn = true) :
      Redirects browser render identity passwordPath

/-- A render that has not been overtaken redirects, or draws an error, or opens a page. -/
theorem draw_cases (browser : Browser) (state : Rendering) (render : WaitingRender)
    (identity : Identity) (handled : Handled) :
    (∃ path, Redirects browser render identity path ∧
        state.draw browser render identity handled = state.navigate browser path true) ∨
      (∃ view, (∀ id, view ≠ .page id) ∧ (∀ pages, Shows pages identity render view) ∧
        state.draw browser render identity handled =
          { (state.drawnAs render identity).resetView with view := view }) ∨
      ∃ matched, Opens render identity matched ∧
        state.draw browser render identity handled =
          (state.drawnAs render identity).openPage browser matched.route render identity
            handled := by
  simp only [Rendering.draw, drawnAs]
  rcases isMatch : matchRoute siteRoutes render.parsed.path with _ | matched
  · exact .inr (.inl ⟨_, fun id => View.noConfusion, fun pages => .notFound isMatch, rfl⟩)
  · simp only
    split_ifs with invalid anonymous mustChange onPasswordPage forbidden
    · exact .inr (.inl
        ⟨_, fun id => View.noConfusion, fun pages => .invalidParams isMatch invalid, rfl⟩)
    · exact .inl ⟨_, .toLogin isMatch anonymous.1 (by simpa using anonymous.2), rfl⟩
    · rw [onPasswordPage] at isMatch
      have := access_of_passwordPath isMatch
      simp [mustChange.1] at this
    · refine .inl ⟨_, .toPassword isMatch mustChange.1 ?_, rfl⟩
      simpa [mustChange.1] using anonymous
    · refine .inr (.inl ⟨_, fun id => View.noConfusion, fun pages => ?_, rfl⟩)
      refine .forbidden isMatch (by simpa using invalid) forbidden.1 ?_ ?_ ?_
      · simpa [forbidden.1] using anonymous
      · simpa [forbidden.1] using mustChange
      · simpa using forbidden.2
    · refine .inr (.inr ⟨matched, ⟨isMatch, by simpa using invalid, ?_⟩, rfl⟩)
      constructor
      · intro guarded
        simpa [guarded] using anonymous
      · intro needsAdmin
        simpa [needsAdmin] using forbidden
      · intro needsAdmin
        simpa [needsAdmin] using mustChange

theorem Timely.resetView {state : Rendering} (timely : Timely state) : Timely state.resetView := by
  rcases resetView_eq state with ⟨pages, reset⟩
  rw [reset]
  exact timely.with_screen _ _ _ _

theorem Timely.openPage {state : Rendering} (timely : Timely state) (route : Route)
    (render : WaitingRender) (identity : Identity) (handled : Handled) :
    Timely (state.openPage browser route render identity handled) := by
  unfold Rendering.openPage
  have opened : ∀ pages view, Timely (handled.navigations.foldl
      (fun state navigation => state.navigate browser navigation.1 navigation.2)
      { state.resetView with pages := pages, view := view }) := by
    intro pages view
    apply Timely.navigations
    exact timely.resetView.with_screen _ _ _ _
  cases handled.result with
  | threw => exact (opened _ _).resetView.with_screen _ _ _ _
  | returned cleanupThrows => exact (opened _ _).with_screen _ _ _ _
  | promised => exact (opened _ _).with_screen _ _ _ _

/-- The latest render draws what is due, or asks for another address. -/
theorem Bounded.timely_draw {state : Rendering} {render : WaitingRender} (bounded : Bounded state)
    (rendered : state.started = true → 0 < state.renderGeneration)
    (present : state.Quiet → ∀ other ∈ state.waiting,
      other.generation = state.renderGeneration → other = state.latest)
    (generation : render.generation = state.renderGeneration)
    (isDue : state.Quiet → render = state.latest) (identity : Identity)
    (handled : Handled) : Timely (state.draw browser render identity handled) := by
  have drawn : Timely (state.drawnAs render identity) := {
    waiting := bounded.waiting
    drawnBy := generation.le
    rendered := rendered
    present := fun quiet => present ⟨quiet.started, quiet.heard⟩
    due := fun quiet => .inr (isDue ⟨quiet.started, quiet.heard⟩) }
  rcases draw_cases browser state render identity handled with
    ⟨path, -, redirected⟩ | ⟨view, -, -, refused⟩ | ⟨matched, -, opened⟩
  · rw [redirected]
    exact bounded.timely_replace path
  · rw [refused]
    exact drawn.resetView.with_screen _ _ _ _
  · rw [opened]
    exact drawn.openPage _ _ _ _

theorem Screen.draw {state : Rendering} (screen : Screen state) (render : WaitingRender)
    (identity : Identity) (handled : Handled) :
    Screen (state.draw browser render identity handled) := by
  have live : AliveOnly (state.drawnAs render identity) := screen.live
  rcases draw_cases browser state render identity handled with
    ⟨path, -, redirected⟩ | ⟨view, noPage, shows, refused⟩ | ⟨matched, opens, opened⟩
  · rw [redirected]
    exact screen.of_same (sameScreen_navigate state path true)
  · rw [refused]
    refine live.cleared_resetView.screen noPage ?_
    rcases resetView_eq (state.drawnAs render identity) with ⟨pages, reset⟩
    rw [reset]
    exact shows pages
  · rw [opened]
    exact live.screen_openPage handled rfl rfl opens

theorem AliveOnly.settle {state : Rendering} (live : AliveOnly state) (id : ℕ)
    (promise : PromiseState) : AliveOnly (state.settle id promise) := by
  intro other page there alive
  simp only [Rendering.settle, List.getElem?_modify, Option.map_eq_map,
    Option.map_eq_some_iff] at there
  rcases there with ⟨before, there, rfl⟩
  refine live other before there ?_ |>.imp_left ?_
  · split_ifs at alive <;> exact alive
  · intro thrown
    split_ifs <;> exact thrown

/-- A promise that is settled without being seen, or fulfilled, changes nothing on the screen. -/
theorem Screen.settle {state : Rendering} {id : ℕ} {pending : Page} (screen : Screen state)
    (promise : PromiseState) (there : state.pages[id]? = some pending)
    (isPending : isPending pending = true)
    (unseen : promise = .rejected → state.view ≠ .page id) : Screen (state.settle id promise) where
  drawn := screen.drawn.imp_right fun shows => shows.settle promise there isPending unseen
  shown := screen.shown
  current other isCurrent := by
    rcases screen.current other isCurrent with ⟨page, isThere, alive⟩
    by_cases hit : id = other
    · subst hit
      exact ⟨{ page with promise := promise }, by simp [Rendering.settle, isThere], alive⟩
    · exact ⟨page, by simpa [Rendering.settle, hit] using isThere, alive⟩
  live := screen.live.settle id promise

end Drawing

section Guest

/-- A browser on addresses of which only the slashes are escaped. -/
def plainBrowser : Browser where
  encodeURIComponent text :=
    text.flatMap fun unit => if unit = 47 then JsString.ofString "%2F" else [unit]
  encodeFragment text := text

def guest : Identity := { isAdmin := false, isLoggedIn := false, requiresPasswordChange := false }

def plainPage : Handled := { result := .returned false }

/-- The page goes on loading after its handler has returned. -/
def loadingPage : Handled := { result := .promised }

/-- A guest asks for the page of the administrators and gets the login. -/
def guestRun : List RenderLabel :=
  [.startRouter, .resume 0 guest plainPage, .resume 0 guest plainPage]

def adminStart : Rendering := load (JsString.ofString "#/admin")

/-- A stored token is refused before the router has been started, and the login that is shown is
left for another page, which fails as the login does. -/
def leavingRun : List RenderLabel :=
  [.navigate (JsString.ofString "/login?redirect=%2Fproblems") true, .startRouter,
    .resume 0 guest loadingPage, .resume 0 guest loadingPage,
    .browse (JsString.ofString "#/register"), .hashchange, .resume 0 guest loadingPage]

def problemsStart : Rendering := load (JsString.ofString "#/problems")

/-- Where the labels lead; they are all possible where this is used. -/
def after (start : Rendering) (labels : List RenderLabel) : Rendering :=
  ((system plainBrowser).run start labels).getD start

theorem reaches_after {start : Rendering} {labels : List RenderLabel}
    (possible : ((system plainBrowser).run start labels).isSome = true) :
    (system plainBrowser).Reaches TransitionSystem.Unrestricted start (after start labels) := by
  rcases Option.isSome_iff_exists.mp possible with ⟨state, run⟩
  rw [after, run]
  exact TransitionSystem.reaches_of_run (TransitionSystem.admits_unrestricted labels _) run

end Guest

section Runs

variable {browser : Browser}

structure Orderly (state : Rendering) : Prop where
  timely : Timely state
  screen : Screen state

theorem orderly_load (hash : JsString) : Orderly (load hash) where
  timely := by
    refine Bounded.timely_of_not_started ⟨fun render mem => ?_, Nat.le_refl 0⟩ rfl
    exact absurd mem List.not_mem_nil
  screen := {
    drawn := .inl ⟨rfl, rfl⟩
    shown := fun id => by simp [load]
    current := fun id isCurrent => by simp [load] at isCurrent
    live := fun id page there => by simp [load] at there }

/-- What is shown has been opened by the render that has drawn it. -/
theorem Screen.opened_of_shown {state : Rendering} {id : ℕ} {page : Page} (screen : Screen state)
    (there : state.pages[id]? = some page) (shown : state.view = .page id) :
    ∃ matched, Opens state.drawnBy state.drawnFor matched ∧
      OpenedBy state.drawnBy state.drawnFor matched page := by
  rcases screen.drawn with ⟨-, blank⟩ | shows
  · simp [blank] at shown
  · rw [shown] at shows
    cases shows with
    | page opens isThere opened =>
        rw [there, Option.some.injEq] at isThere
        subst isThere
        exact ⟨_, opens, opened⟩

theorem Screen.not_shown_of_disposed {state : Rendering} {id : ℕ} {page : Page}
    (screen : Screen state) (there : state.pages[id]? = some page)
    (disposed : page.disposed = true) : state.view ≠ .page id := by
  intro shown
  rcases screen.current id ((screen.shown id).mp shown) with ⟨alive, isThere, notDisposed⟩
  rw [there, Option.some.injEq] at isThere
  subst isThere
  simp [disposed] at notDisposed

/-- The page is still there to tell that it has failed, so it is the one that is shown. -/
theorem Screen.shown_of_pending {state : Rendering} (screen : Screen state) {id : ℕ} {page : Page}
    (there : state.pages[id]? = some page) (pending : isPending page = true)
    (alive : page.disposed = false) : state.view = .page id := by
  have promised : page.result = .promised := by
    simp only [isPending, Bool.and_eq_true, decide_eq_true_eq] at pending
    exact pending.1
  have notLeaking : ¬leaks page := by simp [leaks, promised]
  exact (screen.shown id).mpr ((screen.live id page there alive).resolve_left notLeaking)

theorem Orderly.step {state next : Rendering} (orderly : Orderly state) (label : RenderLabel)
    (step : step browser state label = some next) : Orderly next := by
  rcases orderly with ⟨timely, screen⟩
  cases label with
  | browse hash =>
      cases step
      exact ⟨timely.setHash hash, screen.of_same (sameScreen_setHash state hash)⟩
  | startRouter =>
      cases step
      unfold Rendering.startRouter
      split_ifs
      · exact ⟨timely, screen⟩
      · exact ⟨Bounded.timely_render ⟨timely.waiting, timely.drawnBy⟩,
          screen.of_same ⟨rfl, rfl, rfl, rfl, rfl⟩⟩
  | hashchange =>
      simp only [Rendering.step] at step
      split_ifs at step with queued started
      · cases step
        exact ⟨Bounded.timely_render ⟨timely.waiting, timely.drawnBy⟩,
          screen.of_same ⟨rfl, rfl, rfl, rfl, rfl⟩⟩
      · cases step
        refine ⟨Bounded.timely_of_not_started ⟨timely.waiting, timely.drawnBy⟩ ?_,
          screen.of_same ⟨rfl, rfl, rfl, rfl, rfl⟩⟩
        simpa using started
  | navigate path replace =>
      cases step
      exact ⟨timely.navigate path replace, screen.of_same (sameScreen_navigate state path replace)⟩
  | resume index identity handled =>
      simp only [Rendering.step, Option.map_eq_some_iff] at step
      rcases step with ⟨render, waits, rfl⟩
      set resumed : Rendering := { state with waiting := state.waiting.eraseIdx index }
      have others : ∀ other ∈ resumed.waiting, other ∈ state.waiting :=
        fun other => List.mem_of_mem_eraseIdx
      have bounded : Bounded resumed :=
        ⟨fun other isOther => timely.waiting other (others other isOther), timely.drawnBy⟩
      have present : resumed.Quiet → ∀ other ∈ resumed.waiting,
          other.generation = resumed.renderGeneration → other = resumed.latest :=
        fun quiet other isOther =>
          timely.present ⟨quiet.started, quiet.heard⟩ other (others other isOther)
      have unseen : Screen resumed := screen.of_same ⟨rfl, rfl, rfl, rfl, rfl⟩
      split_ifs with overtaken
      · refine ⟨⟨bounded, timely.rendered, present, fun quiet => ?_⟩, unseen⟩
        -- The render that is dropped is not the latest one.
        refine (timely.due ⟨quiet.started, quiet.heard⟩).imp_left fun due => ?_
        rcases List.getElem?_of_mem due with ⟨place, isThere⟩
        refine List.mem_eraseIdx_iff_getElem?.mpr ⟨place, ?_, isThere⟩
        rintro rfl
        rw [waits, Option.some.injEq] at isThere
        exact overtaken (by rw [isThere]; rfl)
      · have generation : render.generation = resumed.renderGeneration := by
          simpa using overtaken
        have isDue : resumed.Quiet → render = resumed.latest := fun quiet =>
          timely.present ⟨quiet.started, quiet.heard⟩ render (List.mem_of_getElem? waits)
            generation
        exact ⟨bounded.timely_draw timely.rendered present generation isDue identity handled,
          unseen.draw render identity handled⟩
  | fulfill id =>
      simp only [Rendering.step] at step
      rcases there : state.pages[id]? with _ | page
      · simp [there] at step
      · simp only [there] at step
        split_ifs at step with pending
        cases step
        exact ⟨timely.with_screen _ _ _ _,
          screen.settle .fulfilled there pending PromiseState.noConfusion⟩
  | reject id =>
      simp only [Rendering.step] at step
      rcases there : state.pages[id]? with _ | page
      · simp [there] at step
      · simp only [there] at step
        split_ifs at step with pending disposed
        · cases step
          exact ⟨timely.with_screen _ _ _ _, screen.settle .rejected there pending
            fun _ => screen.not_shown_of_disposed there disposed⟩
        · cases step
          have settled : Timely (state.settle id .rejected) := timely.with_screen _ _ _ _
          have shown := screen.shown_of_pending there pending (by simpa using disposed)
          rcases screen.opened_of_shown there shown with ⟨matched, opens, opened⟩
          have isThere : (state.settle id .rejected).pages[id]? =
              some { page with promise := .rejected } := by
            simp [Rendering.settle, there]
          refine ⟨settled.resetView.with_screen _ _ _ _, ?_⟩
          refine (screen.live.settle id .rejected).screen_renderHandlerError opens isThere
            ⟨opened.route, opened.raw, opened.openedBy, opened.identity⟩ ?_
          simp [hasFailed]

theorem orderly_of_reaches {hash : JsString} {state : Rendering}
    (reaches : (system browser).Reaches TransitionSystem.Unrestricted (load hash) state) :
    Orderly state :=
  reaches.invariant (orderly_load hash) fun _ label _ _ orderly _ step => orderly.step label step

/-- When the router has been started, nothing is queued and the latest render waits no longer, the
page of the present address is shown, or what stands in for it. -/
theorem shown_is_due (browser : Browser) (hash : JsString) {state : Rendering}
    (reaches : (system browser).Reaches TransitionSystem.Unrestricted (load hash) state)
    (quiet : state.Quiet)
    (finished : ∀ render ∈ state.waiting, render.generation ≠ state.renderGeneration) :
    state.drawnBy = state.latest ∧
      Shows state.pages state.drawnFor state.latest state.view := by
  have orderly := orderly_of_reaches reaches
  have isDrawn : state.drawnBy = state.latest :=
    (orderly.timely.due quiet).resolve_left fun waits => finished _ waits rfl
  refine ⟨isDrawn, ?_⟩
  rcases orderly.screen.drawn with ⟨never, -⟩ | shows
  · have rendered := orderly.timely.rendered quiet.started
    rw [isDrawn] at never
    exact absurd never (Nat.ne_of_gt rendered)
  · rwa [isDrawn] at shows

/-- The guest sees the login, and the page that fails after the login has been left. -/
theorem shown_is_due_guest :
    let login := after adminStart guestRun
    let failed := after problemsStart (leavingRun ++ [.reject 1])
    login.view = .page 0 ∧ Shows login.pages login.drawnFor login.latest (.page 0) ∧
      failed.view = .handlerError ∧
      Shows failed.pages failed.drawnFor failed.latest .handlerError :=
  ⟨by decide,
    (shown_is_due plainBrowser _ (reaches_after (by decide)) ⟨by decide, by decide⟩
      (by decide)).2,
    by decide,
    (shown_is_due plainBrowser _ (reaches_after (by decide)) ⟨by decide, by decide⟩
      (by decide)).2⟩

/-- Every page that has not been disposed of is the one that is shown, unless its code has thrown;
what is shown was permitted to whom it was opened for; and a page that fails after it has been left
does not touch what is shown. -/
theorem pages_disposed (browser : Browser) (hash : JsString) {state : Rendering}
    (reaches : (system browser).Reaches TransitionSystem.Unrestricted (load hash) state) :
    (∀ id page, state.pages[id]? = some page → page.disposed = false →
        leaks page ∨ state.view = .page id) ∧
      (∀ id, state.view = .page id → ∃ page, state.pages[id]? = some page ∧
        page.disposed = false ∧ Permitted page.route page.identity) ∧
      ∀ id next, step browser state (.reject id) = some next → state.view ≠ .page id →
        next = state.settle id .rejected := by
  have screen := (orderly_of_reaches reaches).screen
  refine ⟨fun id page there alive => ?_, fun id shown => ?_, fun id next step other => ?_⟩
  · exact (screen.live id page there alive).imp_right (screen.shown id).mpr
  · rcases screen.current id ((screen.shown id).mp shown) with ⟨page, there, alive⟩
    rcases screen.opened_of_shown there shown with ⟨matched, opens, opened⟩
    refine ⟨page, there, alive, ?_⟩
    rw [opened.route, opened.identity]
    exact opens.permitted
  · simp only [Rendering.step] at step
    rcases there : state.pages[id]? with _ | page
    · simp [there] at step
    · simp only [there] at step
      split_ifs at step with pending disposed
      · exact (Option.some.inj step).symm
      · exact absurd (screen.shown_of_pending there pending (by simpa using disposed)) other

/-- The login that has been left has been disposed of, and its failure is not seen. -/
theorem pages_disposed_guest :
    let left := after problemsStart leavingRun
    left.pages.map (·.disposed) = [true, false] ∧
      (∀ page, left.pages[1]? = some page → leaks page ∨ left.view = .page 1) ∧
      (∃ page, left.pages[1]? = some page ∧ page.disposed = false ∧
        Permitted page.route page.identity) ∧
      step plainBrowser left (.reject 0) = some (left.settle 0 .rejected) := by
  have shown : (after problemsStart leavingRun).view = .page 1 := by decide
  have ran : ((system plainBrowser).run problemsStart leavingRun).isSome = true := by decide
  have disposed := pages_disposed plainBrowser (JsString.ofString "#/problems")
    (reaches_after ran)
  refine ⟨by decide, ?_, disposed.2.1 1 shown, ?_⟩
  · intro page there
    refine disposed.1 1 page there ?_
    have alive : ((after problemsStart leavingRun).pages[1]?).map (·.disposed) = some false := by
      decide
    simpa [there] using alive
  · have isSome : (step plainBrowser (after problemsStart leavingRun) (.reject 0)).isSome := by
      decide
    have other : (after problemsStart leavingRun).view ≠ .page 0 := by
      rw [shown]
      decide
    rcases Option.isSome_iff_exists.mp isSome with ⟨next, isStep⟩
    have same := disposed.2.2 0 next isStep other
    have loaded : problemsStart = load (JsString.ofString "#/problems") := rfl
    rw [isStep, same, loaded]

end Runs

section Redirects

variable {browser : Browser}

/-- The units of the addresses that the router itself goes to. -/
def isPlain (unit : UInt16) : Bool :=
  (97 ≤ unit && unit ≤ 122) || unit = 47 || unit = 63 || unit = 61

/-- A fragment is escaped unit by unit, and these units stay as they are. -/
structure KeepsPlain (browser : Browser) : Prop where
  nil : browser.encodeFragment [] = []
  append : ∀ plain rest, plain.all isPlain = true →
    browser.encodeFragment (plain ++ rest) = plain ++ browser.encodeFragment rest

/-- The path of an address is what stands before its query. -/
theorem path_parseHash {path rest : JsString} (normal : normalizePath path = path)
    (named : path ≠ [] ∧ path ≠ [47]) (noQuery : path.contains 63 = false)
    (query : rest = [] ∨ ∃ text, rest = 63 :: text) :
    (parseHash (35 :: (path ++ rest))).path = path := by
  have notRoot : ¬(path ++ rest = [] ∨ path ++ rest = [47]) := by
    rcases path with _ | ⟨unit, path⟩
    · exact absurd rfl named.1
    · simp only [List.cons_append, List.cons_ne_nil, false_or, List.cons.injEq,
        List.append_eq_nil_iff]
      rintro ⟨rfl, rfl, -⟩
      exact named.2 rfl
  have before : (path ++ rest).takeWhile (· ≠ 63) = path := by
    have before : ∀ unit ∈ path, decide (unit ≠ 63) = true := by
      intro unit mem
      rw [decide_eq_true_iff]
      rintro rfl
      rw [List.contains_iff_mem.mpr mem] at noQuery
      exact Bool.noConfusion noQuery
    rw [List.takeWhile_append_of_pos before]
    rcases query with rfl | ⟨text, rfl⟩ <;> simp
  simp only [parseHash, List.cons_prefix_cons, List.nil_prefix, and_self, if_true,
    List.drop_succ_cons, List.drop_zero, notRoot, if_false, before, normal, named.2]

/-- Going to a plain path renders that path next. -/
theorem navigate_lands (keeps : KeepsPlain browser) (state : Rendering) (path rest : JsString)
    (normal : normalizePath path = path) (named : path ≠ [] ∧ path ≠ [47])
    (plain : path.all isPlain = true) (noQuery : path.contains 63 = false)
    (query : rest = [] ∨ ∃ text, rest = [63] ++ text) :
    ∃ hash, state.navigate browser (path ++ rest) true = render { state with hash := hash } ∧
      (parseHash hash).path = path := by
  have noHash : ¬[35] <+: path ++ rest := by
    rcases path with _ | ⟨unit, path⟩
    · exact absurd rfl named.1
    · intro isPrefix
      simp only [List.cons_append, List.cons_prefix_cons, List.nil_prefix, and_true] at isPrefix
      simp [← isPrefix, isPlain] at plain
  have written : hashOf browser (35 :: (path ++ rest)) =
      35 :: (path ++ browser.encodeFragment rest) := by
    rcases path with _ | ⟨unit, path⟩
    · exact absurd rfl named.1
    · have appended := keeps.append (unit :: path) rest plain
      simp only [List.cons_append] at appended
      simp only [hashOf, List.drop_succ_cons, List.drop_zero, List.cons_append, appended]
  simp only [Rendering.navigate, noHash, if_false, if_true]
  split_ifs with same
  · refine ⟨state.hash, rfl, ?_⟩
    rw [same]
    refine path_parseHash normal named noQuery (query.imp_right ?_)
    exact fun ⟨text, isQuery⟩ => ⟨text, isQuery⟩
  · refine ⟨_, rfl, ?_⟩
    rw [written]
    refine path_parseHash normal named noQuery ?_
    rcases query with rfl | ⟨text, rfl⟩
    · exact .inl keeps.nil
    · exact .inr ⟨_, keeps.append [63] text (by decide)⟩

theorem Redirects.lands (keeps : KeepsPlain browser) {render : WaitingRender}
    {identity : Identity} {path : JsString} (redirects : Redirects browser render identity path)
    (state : Rendering) :
    ∃ hash, state.navigate browser path true = Rendering.render { state with hash := hash } ∧
      ((parseHash hash).path = loginPath ∧ identity.isLoggedIn = false ∨
        (parseHash hash).path = passwordPath ∧ identity.isLoggedIn = true) := by
  cases redirects with
  | toLogin isMatch guarded anonymous =>
      rcases navigate_lands keeps state loginPath
        (JsString.ofString "?redirect=" ++ browser.encodeURIComponent render.parsed.raw)
        (by decide) (by decide) (by decide) (by decide) (.inr ⟨_, rfl⟩) with ⟨hash, moved, lands⟩
      exact ⟨hash, by rw [List.append_assoc]; exact moved, .inl ⟨lands, anonymous⟩⟩
  | toPassword isMatch needsAdmin known =>
      rcases navigate_lands keeps state passwordPath []
        (by decide) (by decide) (by decide) (by decide) (.inl rfl) with ⟨hash, moved, lands⟩
      exact ⟨hash, by rw [List.append_nil] at moved; exact moved, .inr ⟨lands, known⟩⟩

/-- A redirect is not redirected again. -/
theorem not_redirects_again {render : WaitingRender} {identity : Identity} {path : JsString}
    (arrived : render.parsed.path = loginPath ∧ identity.isLoggedIn = false ∨
      render.parsed.path = passwordPath ∧ identity.isLoggedIn = true) :
    ¬Redirects browser render identity path := by
  intro redirects
  rcases arrived with ⟨atLogin, anonymous⟩ | ⟨atPassword, known⟩
  · cases redirects with
    | toLogin isMatch guarded =>
        rw [atLogin] at isMatch
        exact guarded (access_of_loginPath isMatch)
    | toPassword isMatch needsAdmin known => simp [known] at anonymous
  · cases redirects with
    | toLogin isMatch guarded anonymous => simp [known] at anonymous
    | toPassword isMatch needsAdmin =>
        rw [atPassword] at isMatch
        have := access_of_passwordPath isMatch
        simp [needsAdmin] at this

theorem latest_resetView (state : Rendering) :
    state.resetView.latest = state.latest ∧ state.resetView.drawnBy = state.drawnBy := by
  rcases resetView_eq state with ⟨pages, reset⟩
  rw [reset]
  exact ⟨rfl, rfl⟩

theorem latest_openPage (state : Rendering) (route : Route) (render : WaitingRender)
    (identity : Identity) {handled : Handled} (stays : handled.navigations = []) :
    (state.openPage browser route render identity handled).latest = state.latest ∧
      (state.openPage browser route render identity handled).drawnBy = state.drawnBy := by
  rcases latest_resetView state with ⟨latest, drawnBy⟩
  simp only [Rendering.openPage, stays, List.foldl_nil]
  cases handled.result with
  | threw =>
      have again := latest_resetView { state.resetView with
        pages := state.resetView.pages ++
          [{ route := route, raw := render.parsed.raw, openedBy := render, identity := identity,
             result := .threw }]
        view := .page state.resetView.pages.length }
      exact ⟨again.1.trans latest, again.2.trans drawnBy⟩
  | returned cleanupThrows => exact ⟨latest, drawnBy⟩
  | promised => exact ⟨latest, drawnBy⟩

/-- The latest render redirects, or it draws for the present address. -/
theorem redirects_or_draws (browser : Browser) (state : Rendering) (identity : Identity)
    {handled : Handled} (stays : handled.navigations = []) :
    (∃ path, Redirects browser state.latest identity path ∧
        state.draw browser state.latest identity handled = state.navigate browser path true) ∨
      (state.draw browser state.latest identity handled).latest = state.latest ∧
        (state.draw browser state.latest identity handled).drawnBy = state.latest := by
  rcases draw_cases browser state state.latest identity handled with
    redirected | ⟨view, -, -, refused⟩ | ⟨matched, -, opened⟩
  · exact .inl redirected
  · rw [refused]
    exact .inr (latest_resetView (state.drawnAs state.latest identity))
  · rw [opened]
    exact .inr (latest_openPage (state.drawnAs state.latest identity) _ _ _ stays)

theorem step_resume_latest {state : Rendering} {index : ℕ}
    (waits : state.waiting[index]? = some state.latest) (identity : Identity)
    (handled : Handled) :
    step browser state (.resume index identity handled) =
      some (Rendering.draw browser state.latest identity handled
        { state with waiting := state.waiting.eraseIdx index }) := by
  simp [Rendering.step, waits, latest]

/-- Redirects end: while the identity stays the same and the page that is opened does not go on by
itself, the latest render draws, or it goes to the login or to the change of the password, and
the render of that address draws. -/
theorem redirects_end (browser : Browser) (keeps : KeepsPlain browser) (hash : JsString)
    {state : Rendering} {handled : Handled} (index : ℕ) (render : WaitingRender)
    (reaches : (system browser).Reaches TransitionSystem.Unrestricted (load hash) state)
    (quiet : state.Quiet) (waits : state.waiting[index]? = some render)
    (isLatest : render.generation = state.renderGeneration) (identity : Identity)
    (stays : handled.navigations = []) :
    ∃ next, step browser state (.resume index identity handled) = some next ∧
      (next.drawnBy = next.latest ∧ next.latest = state.latest ∨
        ((parseHash next.hash).path = loginPath ∨ (parseHash next.hash).path = passwordPath) ∧
          ∃ last again, next.waiting[last]? = some next.latest ∧
            step browser next (.resume last identity handled) = some again ∧
            again.drawnBy = again.latest ∧ again.latest = next.latest) := by
  have isDue : render = state.latest :=
    (orderly_of_reaches reaches).timely.present quiet render (List.mem_of_getElem? waits) isLatest
  subst isDue
  refine ⟨_, step_resume_latest waits identity handled, ?_⟩
  set resumed : Rendering := { state with waiting := state.waiting.eraseIdx index }
  rcases redirects_or_draws browser resumed identity stays with
    ⟨path, redirects, redirected⟩ | ⟨same, drawn⟩
  · rcases redirects.lands keeps resumed with ⟨target, moved, arrived⟩
    set next := Rendering.draw browser state.latest identity handled resumed
    have next_eq : next = Rendering.render { resumed with hash := target } :=
      redirected.trans moved
    have waits : next.waiting[resumed.waiting.length]? = some next.latest := by
      rw [next_eq]
      exact List.getElem?_concat_length
    have arrived : next.latest.parsed.path = loginPath ∧ identity.isLoggedIn = false ∨
        next.latest.parsed.path = passwordPath ∧ identity.isLoggedIn = true := by
      rw [next_eq]
      exact arrived
    refine .inr ⟨arrived.imp And.left And.left, _, _, waits,
      step_resume_latest waits identity handled, ?_⟩
    set rest : Rendering := { next with waiting := next.waiting.eraseIdx resumed.waiting.length }
    rcases redirects_or_draws browser rest identity stays with
      ⟨path, again, -⟩ | ⟨same, drawn⟩
    · exact absurd again (not_redirects_again arrived)
    · exact ⟨drawn.trans same.symm, same⟩
  · exact .inl ⟨drawn.trans same.symm, same⟩

theorem redirects_end_guest :
    let started := after adminStart [.startRouter]
    ∃ next, step plainBrowser started (.resume 0 guest plainPage) = some next ∧
      (next.drawnBy = next.latest ∧ next.latest = started.latest ∨
        ((parseHash next.hash).path = loginPath ∨ (parseHash next.hash).path = passwordPath) ∧
          ∃ last again, next.waiting[last]? = some next.latest ∧
            step plainBrowser next (.resume last guest plainPage) = some again ∧
            again.drawnBy = again.latest ∧ again.latest = next.latest) :=
  redirects_end plainBrowser ⟨rfl, fun _ _ _ => rfl⟩ (JsString.ofString "#/admin") 0
    (after adminStart [.startRouter]).latest (reaches_after (by decide)) ⟨rfl, rfl⟩ rfl rfl guest
    rfl

end Redirects

end Rendering

end OnlineJudge.Web
