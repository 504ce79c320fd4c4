import OnlineJudge.Http.Problems
import OnlineJudge.Library.Relational

/-!
# Hidden problems do not show

The public part of the database is what is left of it without the hidden problems and
everything attached to them. Each read that a handler makes for a visitor who is not an
administrator has the same answer on the public part, and so has the handler; two
databases that agree on what is visible have the same public part.
-/

namespace OnlineJudge

namespace Db

section PublicPart

/-- Some visible problem has the identifier. -/
def shows (db : Db) (problemId : ℤ) : Bool :=
  db.problems.rows.any fun row => row.id = problemId ∧ row.visible

def visibleProblems (db : Db) : List ProblemRow := db.problems.rows.filter (·.visible)

def visibleTestcases (db : Db) : List TestcaseRow :=
  db.testcases.rows.filter fun row => db.shows row.problemId

def visibleStatuses (db : Db) : List StatusRow :=
  db.statuses.filter fun row => db.shows row.problemId

/-- The database without the hidden problems and the rows that refer to them. -/
def publicPart (db : Db) : Db where
  users := { rows := db.users.rows }
  problems := { rows := db.visibleProblems }
  testcases := { rows := db.visibleTestcases }
  statuses := db.visibleStatuses

/-- The column `id` of the problems is a key. -/
def ProblemKeys (db : Db) : Prop := (db.problems.rows.map (·.id)).Nodup

/-- Two databases that differ in hidden problems and what is attached to them, and in tables that
no public read looks at. -/
structure VisibleAgree (left right : Db) : Prop where
  users : left.users.rows = right.users.rows
  problems : left.visibleProblems = right.visibleProblems
  testcases : left.visibleTestcases = right.visibleTestcases
  statuses : left.visibleStatuses = right.visibleStatuses

section Columns

variable {db : Db}

@[simp]
theorem publicPart_problems : db.publicPart.problems.rows = db.visibleProblems := rfl

@[simp]
theorem publicPart_testcases : db.publicPart.testcases.rows = db.visibleTestcases := rfl

@[simp]
theorem publicPart_statuses : db.publicPart.statuses = db.visibleStatuses := rfl

end Columns

theorem VisibleAgree.publicPart_eq {left right : Db} (agree : VisibleAgree left right) :
    left.publicPart = right.publicPart := by
  rw [publicPart, publicPart, agree.users, agree.problems, agree.testcases, agree.statuses]

end PublicPart

section Reads

variable {db : Db} {id problemId userId : ℤ}

/-- Conditions that imply that a row is shown read the same of the statuses. -/
theorem filter_visibleStatuses {condition : StatusRow → Bool}
    (visible : ∀ row, condition row → db.shows row.problemId) :
    db.visibleStatuses.filter condition = db.statuses.filter condition := by
  rw [visibleStatuses, List.filter_filter]
  refine List.filter_congr fun row _ => ?_
  cases holds : condition row with
  | false => rfl
  | true => simp [visible row holds]

theorem passCount_publicPart (shown : db.shows problemId) :
    db.publicPart.passCount problemId = db.passCount problemId := by
  unfold passCount
  rw [publicPart_statuses, filter_visibleStatuses]
  intro row holds
  simp only [decide_eq_true_eq] at holds
  exact holds.1 ▸ shown

theorem statusOf_publicPart (shown : db.shows problemId) :
    db.publicPart.statusOf userId problemId = db.statusOf userId problemId := by
  unfold statusOf
  rw [← List.head?_filter, ← List.head?_filter, publicPart_statuses, filter_visibleStatuses]
  intro row holds
  simp only [StatusRow.isFor, decide_eq_true_eq] at holds
  exact holds.2 ▸ shown

theorem solvedBy_publicPart (shown : db.shows problemId) :
    db.publicPart.solvedBy userId problemId = db.solvedBy userId problemId := by
  rw [solvedBy, solvedBy, statusOf_publicPart shown]

theorem shows_of_mem {row : ProblemRow} (mem : row ∈ db.visibleProblems) :
    db.shows row.id := by
  rcases List.mem_filter.mp mem with ⟨mem, visible⟩
  exact List.any_eq_true.mpr ⟨row, mem, by simpa using visible⟩

theorem summaryFor_publicPart {row : ProblemRow} (shown : db.shows row.id) :
    db.publicPart.summaryFor userId row = db.summaryFor userId row := by
  rw [summaryFor, summaryFor, passCount_publicPart shown, solvedBy_publicPart shown]

theorem filter_visibleProblems {condition : ProblemRow → Bool}
    (visible : ∀ row, condition row → row.visible) :
    db.visibleProblems.filter condition = db.problems.rows.filter condition := by
  rw [visibleProblems, List.filter_filter]
  refine List.filter_congr fun row _ => ?_
  cases holds : condition row with
  | false => rfl
  | true => simp [visible row holds]

theorem queryProblems_publicPart {query : ProblemListQuery}
    (visibility : query.visibility = .visibleOnly) :
    db.publicPart.queryProblems query = db.queryProblems query := by
  have selects : ∀ row, query.selects row → row.visible := by
    intro row selected
    simp only [ProblemListQuery.selects, buildWhere, visibility, List.all_append,
      List.all_cons, Bool.and_eq_true] at selected
    exact selected.1.1.1.1
  unfold queryProblems
  split
  · rfl
  · rw [publicPart_problems, filter_visibleProblems selects]
    dsimp only
    congr 2
    refine List.map_congr_left fun row mem => summaryFor_publicPart ?_
    have selected : row ∈ db.problems.rows.filter query.selects :=
      (List.perm_insertionSort _ _).mem_iff.mp (List.mem_of_mem_drop (List.mem_of_mem_take mem))
    rcases List.mem_filter.mp selected with ⟨mem, selected⟩
    exact shows_of_mem (List.mem_filter.mpr ⟨mem, selects row selected⟩)

theorem listTags_publicPart : db.publicPart.listTags false = db.listTags false := by
  unfold listTags
  rw [publicPart_problems, filter_visibleProblems]
  intro row holds
  simpa using holds

theorem listSamples_publicPart (shown : db.shows problemId) :
    db.publicPart.listSamples problemId = db.listSamples problemId := by
  unfold listSamples
  rw [publicPart_testcases, visibleTestcases, List.filter_filter]
  congr 2
  refine List.filter_congr fun row _ => ?_
  by_cases same : row.problemId = problemId
  · simp [same, shown]
  · simp [same]

theorem findProblem_publicPart (keys : db.ProblemKeys) :
    db.publicPart.findProblem id = (db.findProblem id).filter (·.visible) := by
  unfold findProblem
  rw [publicPart_problems, visibleProblems, Library.find?_filter_key keys]
  cases db.problems.rows.find? (·.id = id) with
  | none => rfl
  | some row => cases visible : row.visible <;> simp [Option.filter, ProblemRow.load, visible]

theorem shows_of_find {problem : ProblemRecord} (found : db.findProblem id = some problem)
    (visible : problem.visible) : db.shows id := by
  rcases Option.map_eq_some_iff.mp found with ⟨row, isFirst, rfl⟩
  have same := List.find?_some isFirst
  simp only [decide_eq_true_eq] at same
  exact List.any_eq_true.mpr
    ⟨row, List.mem_of_find?_eq_some isFirst, by simpa [ProblemRow.load, same] using visible⟩

theorem joinVisible_publicPart : db.publicPart.joinVisible = db.joinVisible := by
  have joined : ∀ problemId, (db.visibleProblems.filter fun problem =>
      problem.id = problemId ∧ problem.visible) =
      db.problems.rows.filter fun problem => problem.id = problemId ∧ problem.visible := by
    intro problemId
    refine filter_visibleProblems fun row holds => ?_
    simp only [decide_eq_true_eq] at holds
    exact holds.2
  unfold joinVisible
  rw [publicPart_statuses, publicPart_problems, visibleStatuses]
  simp only [joined]
  -- A row of a hidden problem joins with nothing.
  generalize db.statuses = statuses
  induction statuses with
  | nil => rfl
  | cons row rest ih =>
      rw [List.filter_cons]
      split
      case isTrue => rw [List.flatMap_cons, List.flatMap_cons, ih]
      case isFalse hidden =>
        have nothing : (db.problems.rows.filter fun problem =>
            problem.id = row.problemId ∧ problem.visible) = [] := by
          rw [List.filter_eq_nil_iff]
          intro problem mem holds
          exact hidden (List.any_eq_true.mpr ⟨problem, mem, holds⟩)
        rw [List.flatMap_cons, ih, nothing]
        rfl

theorem queryLeaderboard_publicPart {page pageSize : ℤ} :
    db.publicPart.queryLeaderboard page pageSize = db.queryLeaderboard page pageSize := by
  simp only [queryLeaderboard, ranking, userStats, joinVisible_publicPart]
  rfl

end Reads

end Db

namespace Http

open Db Auth

/-- The request comes from a guest or from a user who does not pass for an administrator. -/
def Ordinary (backend : Backend) (db : Db) (request : Request) : Prop :=
  ∀ user, requireUser backend db request = .ok user → checkAdmin user ≠ .ok

section Handlers

variable {backend : Backend} {db : Db} {request : Request}

theorem requireUser_publicPart :
    requireUser backend db.publicPart request = requireUser backend db request := rfl

theorem resolveViewer_publicPart :
    resolveViewer backend db.publicPart request = resolveViewer backend db request := rfl

theorem Ordinary.not_admin (ordinary : Ordinary backend db request) {viewer : ProblemViewer}
    (resolved : resolveViewer backend db request = .ok viewer) : viewer.isAdmin = false := by
  unfold resolveViewer at resolved
  split at resolved
  · cases resolved
    rfl
  · split at resolved
    · cases resolved
    case h_2 user known =>
      cases resolved
      exact decide_eq_false (ordinary user known)

theorem handleProblemList_publicPart (ordinary : Ordinary backend db request) :
    handleProblemList backend db.publicPart request = handleProblemList backend db request := by
  unfold handleProblemList
  rw [resolveViewer_publicPart]
  split
  · rfl
  case h_2 viewer resolved =>
    split
    · rfl
    case h_2 filter parsed =>
      rw [queryProblems_publicPart (by simp [listVisibility, ordinary.not_admin resolved])]

theorem handleProblemTags_publicPart (ordinary : Ordinary backend db request) :
    handleProblemTags backend db.publicPart request = handleProblemTags backend db request := by
  unfold handleProblemTags
  rw [resolveViewer_publicPart]
  split
  · rfl
  case h_2 viewer resolved =>
    rw [ordinary.not_admin resolved, listTags_publicPart]

theorem findForViewer_publicPart (keys : db.ProblemKeys) {id : ℤ} :
    findForViewer backend db.publicPart id false = findForViewer backend db id false := by
  unfold findForViewer Backend.read
  rw [findProblem_publicPart keys]
  cases backend.fails .findProblem with
  | true => rfl
  | false =>
      cases db.findProblem id with
      | none => rfl
      | some problem => cases visible : problem.visible <;> simp [Option.filter, visible]

theorem shows_of_findForViewer {id : ℤ} {problem : ProblemRecord}
    (found : findForViewer backend db id false = .ok problem) : db.shows id := by
  unfold findForViewer Backend.read at found
  split at found
  · cases found
  · cases found
  case h_3 record answered =>
    split at found
    · cases found
    case isFalse visible =>
      split at answered
      · cases answered
      · exact shows_of_find (Option.some.inj answered) (by simpa using visible)

theorem handleProblemDetail_publicPart (ordinary : Ordinary backend db request)
    (keys : db.ProblemKeys) :
    handleProblemDetail backend db.publicPart request =
      handleProblemDetail backend db request := by
  unfold handleProblemDetail
  rw [resolveViewer_publicPart]
  split
  · rfl
  case h_2 id parsed =>
    split
    · rfl
    case h_2 viewer resolved =>
      rw [ordinary.not_admin resolved, findForViewer_publicPart keys]
      split
      · rfl
      case h_2 problem found =>
        have shown := shows_of_findForViewer found
        rw [listSamples_publicPart shown, solvedForViewer, solvedForViewer,
          solvedBy_publicPart shown]

theorem checkSubmit_publicPart (ordinary : Ordinary backend db request)
    (keys : db.ProblemKeys) :
    checkSubmit backend db.publicPart request = checkSubmit backend db request := by
  unfold checkSubmit
  rw [requireUser_publicPart]
  split
  · rfl
  case h_2 id parsed =>
    cases known : requireUser backend db request with
    | error response => rfl
    | ok user =>
        have notAdmin : decide (checkAdmin user = .ok) = false :=
          decide_eq_false (ordinary user known)
        dsimp only [bind, Except.bind]
        rw [notAdmin, findForViewer_publicPart keys]

theorem handleLeaderboard_publicPart :
    handleLeaderboard backend db.publicPart request = handleLeaderboard backend db request := by
  simp only [handleLeaderboard, queryLeaderboard_publicPart]

end Handlers

/-- Two databases that differ in hidden problems only give a guest, and a user who is not an
administrator, the same answers. -/
theorem hidden_problems_do_not_show {backend : Backend} {left right : Db} {request : Request}
    (agree : VisibleAgree left right) (leftKeys : left.ProblemKeys)
    (rightKeys : right.ProblemKeys) (ordinary : Ordinary backend left request) :
    handleProblemList backend left request = handleProblemList backend right request ∧
      handleProblemTags backend left request = handleProblemTags backend right request ∧
      handleProblemDetail backend left request = handleProblemDetail backend right request ∧
      checkSubmit backend left request = checkSubmit backend right request ∧
      handleLeaderboard backend left request = handleLeaderboard backend right request := by
  have samePart := agree.publicPart_eq
  have ordinaryRight : Ordinary backend right request := by
    intro user known
    rw [← requireUser_publicPart, ← samePart, requireUser_publicPart] at known
    exact ordinary user known
  refine ⟨?_, ?_, ?_, ?_, ?_⟩
  · rw [← handleProblemList_publicPart ordinary, samePart,
      handleProblemList_publicPart ordinaryRight]
  · rw [← handleProblemTags_publicPart ordinary, samePart,
      handleProblemTags_publicPart ordinaryRight]
  · rw [← handleProblemDetail_publicPart ordinary leftKeys, samePart,
      handleProblemDetail_publicPart ordinaryRight rightKeys]
  · rw [← checkSubmit_publicPart ordinary leftKeys, samePart,
      checkSubmit_publicPart ordinaryRight rightKeys]
  · rw [← handleLeaderboard_publicPart, samePart, handleLeaderboard_publicPart]

section Runs

/-- A user has solved a visible problem and a hidden one. -/
def oneHidden : Db where
  users :=
    { rows :=
        [{ id := 1, account := [97], nickname := [98], passwordHash := [1], role := .user
           resetPwdFlag := 0, createdAt := [50] }] }
  problems :=
    { rows :=
        [{ id := 1, title := [97], description := [], difficulty := .easy, tags := [120]
           timeLimitMs := 1000, memoryLimitKb := 65536, visible := true
           createdAt := [50], updatedAt := [50] },
          { id := 2, title := [98], description := [], difficulty := .hard, tags := [121]
            timeLimitMs := 1000, memoryLimitKb := 65536, visible := false
            createdAt := [50], updatedAt := [50] }] }
  testcases :=
    { rows :=
        [{ id := 1, problemId := 2, ord := 0, input := [49], output := [49]
           isSample := true }] }
  statuses :=
    [{ userId := 1, problemId := 1, accepted := true, firstAcAt := some [51], submitCount := 2 },
      { userId := 1, problemId := 2, accepted := true, firstAcAt := some [50], submitCount := 1 }]

/-- A backend that takes every token for one of the user `1`. -/
def everyoneFirst : Backend where
  verify := fun _ => some 1
  parse := fun _ => none
  fails := fun _ => false

/-- A request of the user for the hidden problem, which also asks for hidden problems only. -/
def asksForHidden : Request where
  authorization := Bytes.ofString "Bearer t"
  params := [(Bytes.ofString "visible", Bytes.ofString "0")]
  pathId := some (Bytes.ofString "2")
  body := []

theorem hidden_problems_do_not_show_solved :
    handleProblemList everyoneFirst oneHidden asksForHidden =
        handleProblemList everyoneFirst oneHidden.publicPart asksForHidden ∧
      handleProblemTags everyoneFirst oneHidden asksForHidden =
        handleProblemTags everyoneFirst oneHidden.publicPart asksForHidden ∧
      handleProblemDetail everyoneFirst oneHidden asksForHidden =
        handleProblemDetail everyoneFirst oneHidden.publicPart asksForHidden ∧
      checkSubmit everyoneFirst oneHidden asksForHidden =
        checkSubmit everyoneFirst oneHidden.publicPart asksForHidden ∧
      handleLeaderboard everyoneFirst oneHidden asksForHidden =
        handleLeaderboard everyoneFirst oneHidden.publicPart asksForHidden := by
  have agree : VisibleAgree oneHidden oneHidden.publicPart :=
    ⟨rfl, by decide, by decide, by decide⟩
  have ordinary : Ordinary everyoneFirst oneHidden asksForHidden := by
    have known : requireUser everyoneFirst oneHidden asksForHidden =
        .ok { id := 1, account := [97], nickname := [98], role := .user, resetPwdFlag := 0 } :=
      rfl
    intro user isUser
    rw [known] at isUser
    cases isUser
    decide
  exact hidden_problems_do_not_show agree (by unfold ProblemKeys; decide)
    (by unfold ProblemKeys; decide) ordinary

end Runs

end Http

end OnlineJudge
